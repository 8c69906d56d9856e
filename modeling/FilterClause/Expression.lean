import FilterClause.Operator
import FilterClause.Value

/-!
Filter expressions: comparisons, two operands joined by a connective, and explicit groups. The tree
admits any operator at any place; which places are right is the renderer's concern.
-/

namespace FilterClause

/-- A test of one field. The key is kept as it was given, outer quotes included. -/
structure Comparison where
  key : String
  op : Operator
  value : Value
  deriving BEq

inductive Expression
  | comparison (c : Comparison)
  | logical (left : Expression) (op : Operator) (right : Expression)
  | group (inner : Expression)
  deriving BEq

namespace Expression

def and (left right : Expression) : Expression :=
  logical left .and right

def or (left right : Expression) : Expression :=
  logical left .or right

/-- Nodes on the longest way down; a comparison alone has depth one. -/
def depth : Expression → Nat
  | comparison _ => 1
  | logical left _ right => 1 + max left.depth right.depth
  | group inner => 1 + inner.depth

def test {α : Type} [ToScalar α] (key : String) (op : Operator) (a : α) : Expression :=
  comparison ⟨key, op, .of a⟩

end Expression

end FilterClause
