import FilterClause.Dialect
import FilterClause.Json.Failure
import FilterClause.Operator

/-!
Why an expression is not converted.
-/

namespace FilterClause

/-- Where in a tree an operator stands. -/
inductive OperatorPosition
  | comparison
  | logical
  deriving DecidableEq, Repr

namespace OperatorPosition

def text : OperatorPosition → String
  | comparison => "comparison"
  | logical => "logical expression"

def admits : OperatorPosition → Operator → Bool
  | comparison, op => op.isComparison
  | logical, op => op.isLogical

end OperatorPosition

inductive ConvertError
  | unsupportedOperator (op : Operator) (position : OperatorPosition)
  | depthExceeded (limit : Nat)
  | unknownDialect (e : UnknownDialect)
  | invalidExpression (report : Json.Report)
  deriving DecidableEq, Repr

def ConvertError.message : ConvertError → String
  | unsupportedOperator op position =>
    "Unsupported operator " ++ op.name ++ " in " ++ position.text
  | depthExceeded limit => "Expression nesting exceeds the maximum depth of " ++ toString limit
  | unknownDialect e => e.message
  | invalidExpression report =>
    "Failed to deserialize the filter expression: " ++ report.message

end FilterClause
