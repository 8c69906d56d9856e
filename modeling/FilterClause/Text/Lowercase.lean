import FilterClause.Text.Casing

/-!
Lower case of a whole text. One capital has two characters for its small letter, and a sigma that ends
a word has a shape of its own; every other character is mapped by itself.
-/

namespace FilterClause.Text

def isCaseIgnorable (c : Char) : Bool :=
  Span.anyHolds caseIgnorableSpans c

def isCased (c : Char) : Bool :=
  Span.anyHolds casedSpans c

/-- The small letter of one character, whatever stands around it. -/
def lowerChar (c : Char) : List Char :=
  if c = 'İ' then ['i', Char.ofNat 0x307]
  else
    match caseRuns.find? fun run => run.covers c.toNat with
    | some run => [Char.ofNat (run.small c.toNat)]
    | none => [c]

/-- Whether the first character that is not looked through is a letter with case. -/
def meetsCased (cs : List Char) : Bool :=
  match cs.dropWhile isCaseIgnorable with
  | c :: _ => isCased c
  | [] => false

/-- The small sigma between the text before it, given backwards, and the text after it. -/
def lowerSigma (before after : List Char) : Char :=
  if meetsCased before && !meetsCased after then 'ς' else 'σ'

def lowerFrom (before : List Char) : List Char → List Char
  | [] => []
  | c :: after =>
    (if c = 'Σ' then [lowerSigma before after] else lowerChar c) ++ lowerFrom (c :: before) after

def lowercase (s : String) : String :=
  String.ofList (lowerFrom [] s.toList)

end FilterClause.Text
