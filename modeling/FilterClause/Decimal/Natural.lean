/-!
Natural numbers spelled in decimal digits.
-/

namespace FilterClause.Decimal

def digitValue (c : Char) : Nat :=
  c.toNat - '0'.toNat

def digitsValue (digits : List Char) : Nat :=
  digits.foldl (fun n c => 10 * n + digitValue c) 0

/-- The unsigned 64-bit word that the digits spell, leading zeros allowed. -/
def word? (digits : List Char) : Option Nat :=
  if digits ≠ [] && digits.all Char.isDigit && digitsValue digits < UInt64.size then
    some (digitsValue digits)
  else none

/-- Digits after an optional plus sign, as an unsigned 64-bit word. -/
def count? (s : String) : Option Nat :=
  match s.toList with
  | '+' :: digits => word? digits
  | digits => word? digits

end FilterClause.Decimal
