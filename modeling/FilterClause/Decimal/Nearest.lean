/-!
The binary floating-point number nearest to a positive fraction, in exact natural-number arithmetic.
A half goes to the even neighbour and what is too large goes to infinity.
-/

namespace FilterClause.Decimal

/-- Digits of the significand, and the exponent of the smallest positive number. -/
structure BinaryFormat where
  precision : Nat
  lowest : Int
  /-- The code of infinity. -/
  infinity : Nat

def double : BinaryFormat := ⟨53, -1074, 0x7FF0000000000000⟩

def single : BinaryFormat := ⟨24, -149, 0x7F800000⟩

/-- The quotient to the nearest integer, a half to the even one. -/
def roundDiv (num den : Nat) : Nat :=
  let q := num / den
  let r := num % den
  if 2 * r < den then q
  else if den < 2 * r then q + 1
  else q + q % 2

/-- Splits `x * 2 ^ (-e)` into a numerator and a denominator. -/
def scaled (num den : Nat) (e : Int) : Nat × Nat :=
  (num * Nat.pow 2 (-e).toNat, den * Nat.pow 2 e.toNat)

/-- The exponent of the last significand digit of numbers about the size of `num / den`. -/
def BinaryFormat.unitExponent (f : BinaryFormat) (num den : Nat) : Int :=
  let e : Int := (num.log2 : Int) - den.log2 - f.precision
  let (n, d) := scaled num den e
  max f.lowest (if Nat.pow 2 f.precision * d ≤ n then e + 1 else e)

/-- The code of the nearest number: consecutive numbers have consecutive codes. -/
def BinaryFormat.nearestCode (f : BinaryFormat) (num den : Nat) : Nat :=
  if num = 0 then 0
  else
    let e := f.unitExponent num den
    let (n, d) := scaled num den e
    min f.infinity ((e - f.lowest).toNat * Nat.pow 2 (f.precision - 1) + roundDiv n d)

def nearestFloat (num den : Nat) : Float :=
  Float.ofBits (UInt64.ofNat (double.nearestCode num den))

def nearestFloat32 (num den : Nat) : Float32 :=
  Float32.ofBits (UInt32.ofNat (single.nearestCode num den))

def signedFloat (negative : Bool) (x : Float) : Float :=
  if negative then -x else x

def powerOfTen (n : Nat) : Float :=
  nearestFloat (Nat.pow 10 n) 1

end FilterClause.Decimal
