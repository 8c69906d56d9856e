/-!
The shortest decimal that reads back as a given binary floating-point number, and of those with that
many digits the nearest. All arithmetic is on natural numbers, so no step rounds. Which of two equally
near decimals is taken is left to the caller.
-/

namespace FilterClause.Decimal

/-- A positive number `mantissa * 2 ^ exponent`. `narrow` says that the next lower number is only half
as far away as the next higher one. -/
structure Binary where
  mantissa : Nat
  exponent : Int
  narrow : Bool
  deriving DecidableEq, Repr

inductive FloatView
  | nan
  | infinite (negative : Bool)
  | zero (negative : Bool)
  | finite (negative : Bool) (magnitude : Binary)
  deriving DecidableEq, Repr

def FloatView.ofBits (bits : Nat) : FloatView :=
  let negative := decide (Nat.pow 2 63 ≤ bits)
  let e : Nat := bits / Nat.pow 2 52 % 2048
  let m : Nat := bits % Nat.pow 2 52
  if e = 2047 then
    if m = 0 then .infinite negative else .nan
  else if e = 0 then
    if m = 0 then .zero negative else .finite negative ⟨m, -1074, false⟩
  else .finite negative ⟨m + Nat.pow 2 52, (e : Int) - 1075, m = 0 && e ≠ 1⟩

def FloatView.of (x : Float) : FloatView :=
  .ofBits x.toBits.toNat

inductive Tie
  | toEven
  | up
  deriving DecidableEq, Repr

/-- Significant digits, the first and the last not zero, and the power of ten of the first. -/
structure Digits where
  digits : List Char
  exponent : Int
  deriving DecidableEq, Repr

def digitCount (n : Nat) : Nat :=
  if n = 0 then 0 else (Nat.toDigits 10 n).length

def leadingExponent (num den : Nat) : Int :=
  if den ≤ num then (digitCount (num / den) : Int) - 1
  else -(digitCount ((den + num - 1) / num - 1) : Int)

namespace Binary

/-- Numerator and denominator of a quarter of a unit in the last place, over `10 ^ k`. -/
def quarter (b : Binary) (k : Int) : Nat × Nat :=
  (Nat.pow 2 (b.exponent - 2).toNat * Nat.pow 10 (-k).toNat,
    Nat.pow 2 (2 - b.exponent).toNat * Nat.pow 10 k.toNat)

/-- Whether `c * 10 ^ k` reads back as `b`. The ends of the interval do if the mantissa is even. -/
def readsBack (b : Binary) (k : Int) (c : Nat) : Bool :=
  let (num, den) := b.quarter k
  let low := (4 * b.mantissa - if b.narrow then 1 else 2) * num
  let high := (4 * b.mantissa + 2) * num
  if b.mantissa % 2 = 0 then low ≤ c * den && c * den ≤ high
  else low < c * den && c * den < high

/-- The better of `c * 10 ^ k` and `(c + 1) * 10 ^ k` where `b` lies between the two. -/
def nearer (tie : Tie) (b : Binary) (k : Int) (c : Nat) : Nat :=
  let (num, den) := b.quarter k
  let below := 4 * b.mantissa * num - c * den
  let above := (c + 1) * den - 4 * b.mantissa * num
  if below < above then c
  else if above < below then c + 1
  else match tie with
    | .up => c + 1
    | .toEven => c + c % 2

/-- The multiple of `10 ^ k` next to `b` that reads back, if there is one. -/
def onGrid? (tie : Tie) (b : Binary) (k : Int) : Option Nat :=
  let (num, den) := b.quarter k
  let c := 4 * b.mantissa * num / den
  match b.readsBack k c, b.readsBack k (c + 1) with
  | true, true => some (b.nearer tie k c)
  | true, false => some c
  | false, true => some (c + 1)
  | false, false => none

def magnitude (b : Binary) : Int :=
  leadingExponent (b.mantissa * Nat.pow 2 b.exponent.toNat) (Nat.pow 2 (-b.exponent).toNat)

def digitsOnGrid? (tie : Tie) (b : Binary) (k : Int) : Option Digits :=
  (b.onGrid? tie k).map fun c =>
    let ds := Nat.toDigits 10 c
    ⟨(ds.reverse.dropWhile (· = '0')).reverse, k + ds.length - 1⟩

/-- The coarsest of the grids from one digit to seventeen that holds a decimal of `b`. -/
def shortest (tie : Tie) (b : Binary) : Digits :=
  let magnitude := b.magnitude
  let grids := (List.range 17).map fun places : Nat => magnitude - places
  (grids.findSome? fun k => b.digitsOnGrid? tie k).getD ⟨['0'], 0⟩

end Binary

end FilterClause.Decimal
