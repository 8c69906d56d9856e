import FilterClause.Decimal.Natural
import FilterClause.Decimal.Nearest
import FilterClause.Json.Failure

/-!
Number literals and what they stand for. A literal is first read as digits and then valued: an integer
if it has neither fraction nor exponent and fits into 64 bits, a floating-point number otherwise.

The value of a floating-point literal is the one that this format fixes, which is not always the
nearest: as many digits as fit into an unsigned 64-bit word are scaled by a power of ten, with a
rounding of its own in each of the two steps.
-/

namespace FilterClause.Json

structure NumberLiteral where
  negative : Bool
  whole : List Char
  fraction : Option (List Char)
  /-- Whether it is negative, and its digits. -/
  exponent : Option (Bool × List Char)
  deriving DecidableEq, Repr

inductive Number
  | integer (n : Int)
  | float (x : Float)

def digitsOf (rest : List Char) : List Char :=
  rest.takeWhile Char.isDigit

def afterDigits (rest : List Char) : List Char :=
  rest.dropWhile Char.isDigit

/-- A zero alone, or digits that do not start with a zero. -/
def readWhole (atEnd : Fault) : Reader (List Char)
  | [] => .error (.here atEnd [])
  | '0' :: c :: rest =>
    if c.isDigit then .error (.atNext .invalidNumber (c :: rest)) else .ok (['0'], c :: rest)
  | c :: rest =>
    if c.isDigit then .ok (digitsOf (c :: rest), afterDigits (c :: rest))
    else .error (.atNext .invalidNumber (c :: rest))

def readFraction (atEnd : Fault) : Reader (Option (List Char))
  | '.' :: [] => .error (.here atEnd [])
  | '.' :: c :: rest =>
    if c.isDigit then .ok (some (digitsOf (c :: rest)), afterDigits (c :: rest))
    else .error (.atNext .invalidNumber (c :: rest))
  | rest => .ok (none, rest)

def readExponentDigits (atEnd : Fault) (negative : Bool) : Reader (Option (Bool × List Char))
  | [] => .error (.here atEnd [])
  | c :: rest =>
    if c.isDigit then .ok (some (negative, digitsOf (c :: rest)), afterDigits (c :: rest))
    else .error (.atNext .invalidNumber (c :: rest))

def readExponent (atEnd : Fault) : Reader (Option (Bool × List Char))
  | [] => .ok (none, [])
  | e :: rest =>
    if e = 'e' || e = 'E' then
      match rest with
      | '+' :: rest => readExponentDigits atEnd false rest
      | '-' :: rest => readExponentDigits atEnd true rest
      | rest => readExponentDigits atEnd false rest
    else .ok (none, e :: rest)

/-- The digits of a literal, its sign given. `atEnd` is the fault of a text that stops inside. -/
def readUnsigned (atEnd : Fault) (negative : Bool) (rest : List Char) :
    Except Failure (NumberLiteral × List Char) := do
  let (whole, rest) ← readWhole atEnd rest
  let (fraction, rest) ← readFraction atEnd rest
  let (exponent, rest) ← readExponent atEnd rest
  .ok (⟨negative, whole, fraction, exponent⟩, rest)

def readLiteral (atEnd : Fault) : Reader NumberLiteral
  | '-' :: rest => readUnsigned atEnd true rest
  | rest => readUnsigned atEnd false rest

/-- Digits taken up so far, the power of ten they are to be scaled by, and whether a digit has already
been too many. -/
structure Significand where
  digits : Nat
  exponent : Int
  full : Bool

namespace Significand

def fits (s : Significand) (c : Char) : Bool :=
  !s.full && 10 * s.digits + Decimal.digitValue c < UInt64.size

/-- A digit before the point; one that does not fit only counts. -/
def whole (s : Significand) (c : Char) : Significand :=
  if s.fits c then ⟨10 * s.digits + Decimal.digitValue c, s.exponent, false⟩
  else ⟨s.digits, s.exponent + 1, true⟩

/-- A digit after the point; one that does not fit is dropped, with all after it. -/
def fraction (s : Significand) (c : Char) : Significand :=
  if s.fits c then ⟨10 * s.digits + Decimal.digitValue c, s.exponent - 1, false⟩
  else ⟨s.digits, s.exponent, true⟩

def ofDigits (whole fraction : List Char) : Significand :=
  let s := whole.foldl Significand.whole ⟨0, 0, false⟩
  fraction.foldl Significand.fraction { s with full := false }

end Significand

/-- Scales by a negative power of ten, in steps that the floating-point numbers have a power for. -/
def scaleDown (x : Float) (places : Nat) : Float :=
  if places ≤ 308 then x / Decimal.powerOfTen places
  else if x == 0 then x
  else scaleDown (x / Decimal.powerOfTen 308) (places - 308)
termination_by places

/-- The number scaled by a power of ten, unless it is too large. -/
def scale? (x : Float) (exponent : Int) : Option Float :=
  if exponent < 0 then some (scaleDown x exponent.natAbs)
  else if 308 < exponent then
    if x == 0 then some x else none
  else
    let y := x * Decimal.powerOfTen exponent.toNat
    if y.isInf then none else some y

/-- The shortest part of an exponent's digits that is more than a signed 32-bit word can hold, and the
digits after it. -/
def overflow? (seen : Nat) : List Char → Option (List Char)
  | [] => none
  | c :: cs =>
    let n := 10 * seen + Decimal.digitValue c
    if Int32.maxValue.toInt < n then some cs else overflow? n cs

/-- The digits of the literal that were not looked at when its value proved too large. -/
abbrev OutOfRange := List Char

def NumberLiteral.float (l : NumberLiteral) : Except OutOfRange Float :=
  let s := Significand.ofDigits l.whole (l.fraction.getD [])
  let (down, digits) := l.exponent.getD (false, ['0'])
  match overflow? 0 digits with
  | some unread =>
    if s.digits ≠ 0 && !down then .error unread else .ok (Decimal.signedFloat l.negative 0)
  | none =>
    let e : Int := Decimal.digitsValue digits
    match scale? (Decimal.nearestFloat s.digits 1) (if down then s.exponent - e else s.exponent + e) with
    | some x => .ok (Decimal.signedFloat l.negative x)
    | none => .error []

/-- The integer that the literal spells, if it is one and has a 64-bit word: unsigned, or signed and
negative. -/
def NumberLiteral.integer? (l : NumberLiteral) : Option Int :=
  match l.fraction, l.exponent with
  | none, none =>
    let n := Decimal.digitsValue l.whole
    if l.negative then
      if 0 < n && Int64.minValue.toInt ≤ -n then some (-n) else none
    else if n < UInt64.size then some n
    else none
  | _, _ => none

def NumberLiteral.value (l : NumberLiteral) : Except OutOfRange Number :=
  match l.integer? with
  | some n => .ok (.integer n)
  | none => l.float.map Number.float

def readNumber (rest : List Char) : Except Failure (Number × List Char) := do
  let (literal, rest) ← readLiteral .endOfValue rest
  match literal.value with
  | .ok n => .ok (n, rest)
  | .error unread => .error (.here .numberOutOfRange (unread ++ rest))

end FilterClause.Json
