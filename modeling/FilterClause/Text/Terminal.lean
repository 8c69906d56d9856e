import FilterClause.Text.Quoted

/-!
Text of a message as it goes to a terminal. Controls that a terminal acts upon are written as codes;
line breaks and tabs stay, as does every character that is only shown.
-/

namespace FilterClause.Text

def terminalChar (c : Char) : List Char :=
  match c with
  | '\x07' => ['\\', 'x', '0', '7']
  | '\x08' => ['\\', 'x', '0', '8']
  | '\x0c' => ['\\', 'x', '0', 'c']
  | '\x1b' => ['\\', 'x', '1', 'b']
  | '\x7f' => ['\\', 'x', '7', 'f']
  | c => if 0x80 ≤ c.toNat && c.toNat ≤ 0x9F then bracedCode c else [c]

def terminalSafe (s : String) : String :=
  String.ofList (s.toList.flatMap terminalChar)

end FilterClause.Text
