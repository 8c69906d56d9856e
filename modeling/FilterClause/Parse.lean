import FilterClause.ConvertError
import FilterClause.Schema.Source

/-!
Reading an expression from JSON text.
-/

namespace FilterClause

def parseJson (text : String) : Except ConvertError Expression :=
  (Source.parse Source.readExpression text).mapError ConvertError.invalidExpression

end FilterClause
