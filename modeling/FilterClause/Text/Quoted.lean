import FilterClause.Text.Hexadecimal
import FilterClause.Text.Hidden

/-!
Quoted text in diagnostics: double quotes around it, the usual short escapes, and a code in braces for
a character that would not be seen. A single quote stands as it is.
-/

namespace FilterClause.Text

/-- A character by its code in braces. -/
def bracedCode (c : Char) : List Char :=
  ['\\', 'u', '\x7b'] ++ hexadecimal c.toNat ++ ['\x7d']

def quotedChar (c : Char) : List Char :=
  match c with
  | '\x00' => ['\\', '0']
  | '\t' => ['\\', 't']
  | '\r' => ['\\', 'r']
  | '\n' => ['\\', 'n']
  | '\\' => ['\\', '\\']
  | '"' => ['\\', '"']
  | c => if isHidden c then bracedCode c else [c]

def quoted (s : String) : String :=
  String.ofList ('"' :: s.toList.flatMap quotedChar ++ ['"'])

end FilterClause.Text
