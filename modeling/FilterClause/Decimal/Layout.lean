import FilterClause.Decimal.Shortest

/-!
How a floating-point number is written once its digits are known. A layout is a record of decisions;
the two that the library's texts use are named where those texts are written.
-/

namespace FilterClause.Decimal

structure Layout where
  /-- Powers of ten of the first digit that are written without an exponent; all of them if `none`. -/
  positional : Option (Int × Int)
  /-- A whole number keeps a fraction digit. -/
  keepsFraction : Bool
  /-- A positive exponent has a sign. -/
  signsExponent : Bool
  tie : Tie
  deriving DecidableEq, Repr

namespace Layout

def isPositional (layout : Layout) (exponent : Int) : Bool :=
  match layout.positional with
  | none => true
  | some (low, high) => low ≤ exponent && exponent ≤ high

def withFraction (layout : Layout) (whole fraction : List Char) : List Char :=
  match fraction with
  | [] => if layout.keepsFraction then whole ++ ['.', '0'] else whole
  | fraction => whole ++ '.' :: fraction

def place (layout : Layout) (d : Digits) : List Char :=
  if d.exponent < 0 then
    layout.withFraction ['0'] (List.replicate ((-d.exponent).toNat - 1) '0' ++ d.digits)
  else
    let places := d.exponent.toNat + 1
    layout.withFraction (d.digits.take places ++ List.replicate (places - d.digits.length) '0')
      (d.digits.drop places)

def exponentText (layout : Layout) (e : Int) : List Char :=
  let sign := if e < 0 then ['-'] else if layout.signsExponent then ['+'] else []
  sign ++ Nat.toDigits 10 e.natAbs

def scientific (layout : Layout) (d : Digits) : List Char :=
  let fraction := match d.digits.drop 1 with
    | [] => []
    | ds => '.' :: ds
  d.digits.take 1 ++ fraction ++ 'e' :: layout.exponentText d.exponent

def magnitude (layout : Layout) (b : Binary) : List Char :=
  let d := b.shortest layout.tie
  if layout.isPositional d.exponent then layout.place d else layout.scientific d

def signed (negative : Bool) (cs : List Char) : List Char :=
  if negative then '-' :: cs else cs

def view (layout : Layout) : FloatView → List Char
  | .nan => ['N', 'a', 'N']
  | .infinite negative => signed negative ['i', 'n', 'f']
  | .zero negative => signed negative (layout.withFraction ['0'] [])
  | .finite negative b => signed negative (layout.magnitude b)

def write (layout : Layout) (x : Float) : String :=
  String.ofList (layout.view (.of x))

end Layout

end FilterClause.Decimal
