import FilterClause.Decimal.Layout
import FilterClause.Json.Document

/-!
Writing a document as JSON text, on one line without blanks or indented by two spaces a level. Only
quotes, backslashes and control characters are escaped, and a number that JSON has no form for is
written as null. A text is written before a given rest, so that leaving a nesting copies nothing.
-/

namespace FilterClause.Json

/-- Plain up to sixteen digits before the point and down to five zeros at the front, always with a
fraction digit; scientific with a signed exponent beyond. -/
def numberLayout : Decimal.Layout :=
  { positional := some (-5, 15), keepsFraction := true, signsExponent := true, tie := .toEven }

def floatText (x : Float) : List Char :=
  match Decimal.FloatView.of x with
  | .nan | .infinite _ => ['n', 'u', 'l', 'l']
  | view => numberLayout.view view

def hexDigit (n : Nat) : Char :=
  Nat.digitChar (n % 16)

def escapedChar (c : Char) : List Char :=
  match c with
  | '"' => ['\\', '"']
  | '\\' => ['\\', '\\']
  | '\x08' => ['\\', 'b']
  | '\x0c' => ['\\', 'f']
  | '\n' => ['\\', 'n']
  | '\r' => ['\\', 'r']
  | '\t' => ['\\', 't']
  | c =>
    if c.toNat < 0x20 then ['\\', 'u', '0', '0', hexDigit (c.toNat / 16), hexDigit c.toNat] else [c]

def stringText (s : String) (rest : List Char) : List Char :=
  '"' :: s.toList.flatMap escapedChar ++ '"' :: rest

def integerText (n : Int) : List Char :=
  (toString n).toList

/-- Levels of indentation so far, or none where all stands on one line. -/
abbrev Indent := Option Nat

namespace Indent

def deeper (indent : Indent) : Indent :=
  indent.map (· + 1)

def lineBreak : Indent → List Char → List Char
  | none, rest => rest
  | some level, rest => '\n' :: List.replicate (2 * level) ' ' ++ rest

def colon : Indent → List Char → List Char
  | none, rest => ':' :: rest
  | some _, rest => ':' :: ' ' :: rest

end Indent

namespace Document

mutual

def text (indent : Indent) : Document → List Char → List Char
  | .null, rest => 'n' :: 'u' :: 'l' :: 'l' :: rest
  | .bool true, rest => 't' :: 'r' :: 'u' :: 'e' :: rest
  | .bool false, rest => 'f' :: 'a' :: 'l' :: 's' :: 'e' :: rest
  | .integer n, rest => integerText n ++ rest
  | .float x, rest => floatText x ++ rest
  | .string s, rest => stringText s rest
  | .array [], rest => '[' :: ']' :: rest
  | .array (d :: ds), rest =>
    '[' :: indent.deeper.lineBreak (text indent.deeper d (itemsText indent ds rest))
  | .object [], rest => '\x7b' :: '\x7d' :: rest
  | .object ((name, d) :: ms), rest =>
    '\x7b' :: indent.deeper.lineBreak
      (stringText name (indent.colon (text indent.deeper d (membersText indent ms rest))))

/-- Further items, each after its comma, and the closing bracket. -/
def itemsText (indent : Indent) : List Document → List Char → List Char
  | [], rest => indent.lineBreak (']' :: rest)
  | d :: ds, rest =>
    ',' :: indent.deeper.lineBreak (text indent.deeper d (itemsText indent ds rest))

def membersText (indent : Indent) : List (String × Document) → List Char → List Char
  | [], rest => indent.lineBreak ('\x7d' :: rest)
  | (name, d) :: ms, rest =>
    ',' :: indent.deeper.lineBreak
      (stringText name (indent.colon (text indent.deeper d (membersText indent ms rest))))

end

def compact (d : Document) : String :=
  String.ofList (d.text none [])

def indented (d : Document) : String :=
  String.ofList (d.text (some 0) [])

end Document

end FilterClause.Json
