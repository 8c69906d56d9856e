/-!
JSON documents as data. Members of an object keep their order and may repeat a name; what a repeated
name means is decided by who reads the object.
-/

namespace FilterClause.Json

inductive Document
  | null
  | bool (b : Bool)
  | integer (n : Int)
  | float (x : Float)
  | string (s : String)
  | array (items : List Document)
  | object (members : List (String × Document))

end FilterClause.Json
