/-!
Which texts spell a number: an optional sign, then digits with a point or an exponent or both, or the
name of an infinite or undefined number in any letter case.
-/

namespace FilterClause.Decimal

def unsigned (cs : List Char) : List Char :=
  match cs with
  | '+' :: rest => rest
  | '-' :: rest => rest
  | rest => rest

/-- What may stand behind the digits: nothing, or an exponent. -/
def isExponent (cs : List Char) : Bool :=
  match cs with
  | [] => true
  | e :: rest => (e = 'e' || e = 'E') && unsigned rest ≠ [] && (unsigned rest).all Char.isDigit

/-- Digits before or behind a point, or on both sides of it, and what follows them. -/
def isDecimal (cs : List Char) : Bool :=
  let whole := cs.takeWhile Char.isDigit
  match cs.dropWhile Char.isDigit with
  | '.' :: rest =>
    (whole ≠ [] || rest.takeWhile Char.isDigit ≠ []) && isExponent (rest.dropWhile Char.isDigit)
  | rest => whole ≠ [] && isExponent rest

def isNumeral (s : String) : Bool :=
  let cs := unsigned s.toList
  (String.ofList cs).toLower ∈ ["inf", "infinity", "nan"] || isDecimal cs

end FilterClause.Decimal
