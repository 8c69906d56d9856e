import FilterClause.Text.Blank

/-!
Keys that arrive wrapped in quotes. One layer of matching outer quotes is taken off, with the blanks
outside of it; a key without such a layer is left as it is, its blanks included.
-/

namespace FilterClause.Key

def isQuote (c : Char) : Bool :=
  c = '"' || c = '\''

/-- What stands between a quote that opens the text and the same quote that ends it. -/
def unwrap? : List Char → Option (List Char)
  | [] => none
  | q :: cs =>
    if isQuote q && cs.getLast? = some q then some cs.dropLast else none

def stripOuterQuotes (key : String) : String :=
  match unwrap? (Text.trimmed key.toList) with
  | some inner => String.ofList inner
  | none => key

end FilterClause.Key
