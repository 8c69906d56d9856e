import FilterClause.ConvertError
import FilterClause.Expression
import FilterClause.Text.Quoted

/-!
Diagnostic texts of trees and errors, for the log and the command's error line: constructors by name,
fields in braces, strings quoted.
-/

namespace FilterClause

/-- Plain decimals of medium size with a fraction digit, all others in scientific form. -/
def diagnosticNumber : Decimal.Layout :=
  { positional := some (-4, 15), keepsFraction := true, signsExponent := false, tie := .up }

def constructed (name : String) (content : String) : String :=
  name ++ "(" ++ content ++ ")"

def braced (name : String) (fields : List (String × String)) : String :=
  name ++ " \x7b " ++ String.intercalate ", " (fields.map fun (field, text) => field ++ ": " ++ text)
    ++ " \x7d"

def Operator.diagnostic : Operator → String
  | and => "And"
  | or => "Or"
  | eq => "Eq"
  | ne => "Ne"
  | lt => "Lt"
  | lte => "Lte"
  | gt => "Gt"
  | gte => "Gte"
  | isIn => "In"
  | notIn => "Nin"

def Scalar.diagnostic : Scalar → String
  | bool b => constructed "Bool" (if b then "true" else "false")
  | int n => constructed "Int" (toString n.toInt)
  | float x => constructed "Float" (diagnosticNumber.write x)
  | string s => constructed "String" (Text.quoted s)

def Value.diagnostic : Value → String
  | list items =>
    constructed "List" ("[" ++ String.intercalate ", " (items.map Scalar.diagnostic) ++ "]")
  | scalar s => constructed "Scalar" s.diagnostic

def Comparison.diagnostic (c : Comparison) : String :=
  braced "Comparison"
    [("key", constructed "Key" (Text.quoted c.key)), ("op", c.op.diagnostic),
      ("value", c.value.diagnostic)]

def Expression.diagnostic : Expression → String
  | comparison c => constructed "Comparison" c.diagnostic
  | logical left op right =>
    constructed "Logical" (braced "LogicalExpression"
      [("left", left.diagnostic), ("op", op.diagnostic), ("right", right.diagnostic)])
  | group inner => constructed "Group" (braced "Group" [("inner", inner.diagnostic)])

def OperatorPosition.diagnostic : OperatorPosition → String
  | comparison => "Comparison"
  | logical => "Logical"

def Json.Report.diagnostic (r : Json.Report) : String :=
  "Error(" ++ Text.quoted r.text ++ ", line: " ++ toString r.line ++ ", column: "
    ++ toString r.column ++ ")"

def ConvertError.diagnostic : ConvertError → String
  | unsupportedOperator op position =>
    braced "UnsupportedOperator"
      [("operator", op.diagnostic), ("position", position.diagnostic)]
  | depthExceeded limit => braced "DepthExceeded" [("limit", toString limit)]
  | unknownDialect e => constructed "UnknownDialect" (Text.quoted e.name)
  | invalidExpression report => constructed "InvalidExpression" report.diagnostic

end FilterClause
