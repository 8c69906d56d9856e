import FilterClause.Json.Document
import FilterClause.Json.Writer
import FilterClause.Operator
import FilterClause.Text.Quoted

/-!
Why a text could not be read. A fault is a cause with what its wording needs; where in the text it lies
is kept apart from it.
-/

namespace FilterClause.Json

inductive Category
  | syntactic
  | data
  | endOfText
  deriving DecidableEq, Repr

inductive Fault
  | endOfValue
  | endOfList
  | endOfObject
  | endOfString
  | expectedValue
  | expectedKeyword
  | expectedColon
  | expectedListEnd
  | expectedObjectEnd
  | keyNotString
  | trailingComma
  | trailingCharacters
  | controlCharacter
  | invalidEscape
  | loneSurrogate
  | unfinishedSurrogate
  | invalidNumber
  | numberOutOfRange
  | nestingLimit
  | wrongKind (found : Document) (expected : String)
  | wrongInteger (n : Int) (expected : String)
  | wrongLength (n : Nat) (expected : String)
  | unknownVariant (name : String) (known : List String)
  | missingField (name : String)
  | duplicateField (name : String)
  | noVariantMatches (typeName : String)
  | unknownOperator (e : UnknownOperator)

/-- How a document is called where another one was expected. -/
def Document.described : Document → String
  | .null => "null"
  | .bool b => "boolean `" ++ (if b then "true" else "false") ++ "`"
  | .integer n => "integer `" ++ toString n ++ "`"
  | .float x => "floating point `" ++ String.ofList (floatText x) ++ "`"
  | .string s => "string " ++ Text.quoted s
  | .array _ => "sequence"
  | .object _ => "map"

def inBackticks (name : String) : String :=
  "`" ++ name ++ "`"

/-- The names one of which was expected. -/
def choiceText : List String → String
  | [] => "nothing"
  | [a] => inBackticks a
  | [a, b] => inBackticks a ++ " or " ++ inBackticks b
  | names => "one of " ++ String.intercalate ", " (names.map inBackticks)

namespace Fault

def message : Fault → String
  | endOfValue => "EOF while parsing a value"
  | endOfList => "EOF while parsing a list"
  | endOfObject => "EOF while parsing an object"
  | endOfString => "EOF while parsing a string"
  | expectedValue => "expected value"
  | expectedKeyword => "expected ident"
  | expectedColon => "expected `:`"
  | expectedListEnd => "expected `,` or `]`"
  | expectedObjectEnd => "expected `,` or `\x7d`"
  | keyNotString => "key must be a string"
  | trailingComma => "trailing comma"
  | trailingCharacters => "trailing characters"
  | controlCharacter => "control character (\\u0000-\\u001F) found while parsing a string"
  | invalidEscape => "invalid escape"
  | loneSurrogate => "lone leading surrogate in hex escape"
  | unfinishedSurrogate => "unexpected end of hex escape"
  | invalidNumber => "invalid number"
  | numberOutOfRange => "number out of range"
  | nestingLimit => "recursion limit exceeded"
  | wrongKind found expected => "invalid type: " ++ found.described ++ ", expected " ++ expected
  | wrongInteger n expected => "invalid value: integer `" ++ toString n ++ "`, expected " ++ expected
  | wrongLength n expected => "invalid length " ++ toString n ++ ", expected " ++ expected
  | unknownVariant name known =>
    "unknown variant " ++ inBackticks name ++ ", expected " ++ choiceText known
  | missingField name => "missing field " ++ inBackticks name
  | duplicateField name => "duplicate field " ++ inBackticks name
  | noVariantMatches typeName => "data did not match any variant of untagged enum " ++ typeName
  | unknownOperator e => e.message

def category : Fault → Category
  | endOfValue | endOfList | endOfObject | endOfString => .endOfText
  | wrongKind .. | wrongInteger .. | wrongLength .. | unknownVariant .. | missingField ..
  | duplicateField .. | noVariantMatches .. | unknownOperator .. => .data
  | _ => .syntactic

end Fault

end FilterClause.Json
