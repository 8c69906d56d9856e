import FilterClause.Decimal.Layout

/-!
Literals on the right-hand side of a comparison: one scalar, or a list of scalars in order.

Equality is that of the values: a NaN differs from itself, the two zeros are equal, and an integer
never equals a floating-point number.
-/

namespace FilterClause

inductive Scalar
  | bool (b : Bool)
  | int (n : Int64)
  | float (x : Float)
  | string (s : String)
  deriving BEq

inductive Value
  | list (items : List Scalar)
  | scalar (s : Scalar)
  deriving BEq

/-- Plain decimals of any length, with no fraction part where there is none. -/
def plainDecimal : Decimal.Layout :=
  { positional := none, keepsFraction := false, signsExponent := false, tie := .up }

namespace Scalar

/-- The text of a literal without any quoting. -/
def display : Scalar → String
  | bool b => if b then "true" else "false"
  | int n => toString n.toInt
  | float x => plainDecimal.write x
  | string s => s

def isFloat : Scalar → Bool
  | float _ => true
  | _ => false

end Scalar

/-- Data that is one literal. -/
class ToScalar (α : Type) where
  toScalar : α → Scalar

export ToScalar (toScalar)

instance : ToScalar Scalar := ⟨id⟩
instance : ToScalar Bool := ⟨.bool⟩
instance : ToScalar Int64 := ⟨.int⟩
instance : ToScalar Int32 := ⟨fun n => .int n.toInt64⟩
instance : ToScalar UInt32 := ⟨fun n => .int (Int64.ofNat n.toNat)⟩
instance : ToScalar Float := ⟨.float⟩
instance : ToScalar Float32 := ⟨fun x => .float x.toFloat⟩
instance : ToScalar String := ⟨.string⟩

namespace Value

def of {α : Type} [ToScalar α] (a : α) : Value :=
  scalar (toScalar a)

def ofList {α : Type} [ToScalar α] (items : List α) : Value :=
  list (items.map toScalar)

def isList : Value → Bool
  | list _ => true
  | scalar _ => false

/-- The literals in order; a scalar has itself. -/
def literals : Value → List Scalar
  | list items => items
  | scalar s => [s]

end Value

end FilterClause
