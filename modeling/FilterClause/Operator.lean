import FilterClause.Text.Blank

/-!
The closed set of filter operators: two connectives, six comparisons and two membership tests. An
operator has a name, read without regard to letter case, and a symbol, the same in every dialect.
-/

namespace FilterClause

inductive Operator
  | and
  | or
  | eq
  | ne
  | lt
  | lte
  | gt
  | gte
  | isIn
  | notIn
  deriving DecidableEq, Repr

namespace Operator

def all : List Operator :=
  [and, or, eq, ne, lt, lte, gt, gte, isIn, notIn]

/-- What stands between the two operands, its spaces included. -/
def symbol : Operator → String
  | and => " AND "
  | or => " OR "
  | eq => " = "
  | ne => " != "
  | lt => " < "
  | lte => " <= "
  | gt => " > "
  | gte => " >= "
  | isIn => " IN "
  | notIn => " NOT IN "

def name : Operator → String
  | and => "AND"
  | or => "OR"
  | eq => "EQ"
  | ne => "NE"
  | lt => "LT"
  | lte => "LTE"
  | gt => "GT"
  | gte => "GTE"
  | isIn => "IN"
  | notIn => "NIN"

def isLogical : Operator → Bool
  | and | or => true
  | _ => false

def isComparison (op : Operator) : Bool :=
  !op.isLogical

/-- Membership tests stand before a list. The renderer does not insist on it. -/
def expectsList : Operator → Bool
  | isIn | notIn => true
  | _ => false

theorem mem_all (op : Operator) : op ∈ all := by
  cases op <;> decide

end Operator

/-- No operator has this name. The token has lost its outer blanks and kept its letter case. -/
structure UnknownOperator where
  token : String
  deriving DecidableEq, Repr

def UnknownOperator.message (e : UnknownOperator) : String :=
  "Unsupported operator: " ++ e.token

/-- Equal up to the case of the letters A to Z; no other letter has a partner here. -/
def sameLetters (s t : List Char) : Bool :=
  s.map Char.toLower == t.map Char.toLower

def Operator.ofToken (s : String) : Except UnknownOperator Operator :=
  match Operator.all.find? fun op => sameLetters op.name.toList (Text.trimmed s.toList) with
  | some op => .ok op
  | none => .error ⟨Text.trim s⟩

end FilterClause
