import FilterClause.Json.Number
import FilterClause.Json.Punctuation
import FilterClause.Json.StringLiteral
import FilterClause.Text.Clock

/-!
Reading a document from text. Brackets nest to a fixed depth: each array or object uses up one level of
a budget, and the first bracket beyond it is a fault. Elements and members are folded over by one loop
each, which the readers of typed records share.
-/

namespace FilterClause.Json

def readKeyword : List Char → List Char → Except Failure (List Char)
  | [], rest => .ok rest
  | _ :: _, [] => .error (.here .endOfValue [])
  | k :: ks, c :: rest =>
    if c = k then readKeyword ks rest else .error (.atNext .expectedKeyword (c :: rest))

/-- A document without brackets, no blanks before it. -/
def readAtom : List Char → Except Failure (Document × List Char)
  | [] => .error (.atNext .endOfValue [])
  | 'n' :: rest => do
    let rest ← readKeyword ['u', 'l', 'l'] rest
    .ok (.null, rest)
  | 't' :: rest => do
    let rest ← readKeyword ['r', 'u', 'e'] rest
    .ok (.bool true, rest)
  | 'f' :: rest => do
    let rest ← readKeyword ['a', 'l', 's', 'e'] rest
    .ok (.bool false, rest)
  | '"' :: rest => do
    let (s, rest) ← readString rest
    .ok (.string (String.ofList s), rest)
  | c :: rest =>
    if c = '-' || c.isDigit then do
      match ← readNumber (c :: rest) with
      | (.integer n, rest) => .ok (.integer n, rest)
      | (.float x, rest) => .ok (.float x, rest)
    else .error (.atNext .expectedValue (c :: rest))

/-- Takes a state through the elements of an array body, a tick each. An element takes at least one
character, so that the ticks of the body do not run out. -/
def foldElements {σ : Type} (step : σ → Reader σ) : List Char → Bool → σ → Reader σ
  | [], _, _, rest => .error (.atNext .endOfList rest)
  | _ :: ticks, first, state, rest =>
    match nextElement first rest with
    | .error f => .error f
    | .ok (false, rest) => .ok (state, rest)
    | .ok (true, rest) =>
      match step state rest with
      | .error f => .error f
      | .ok (state, rest) => foldElements step ticks false state rest

/-- Takes a state through the members of an object body, a tick each. The step is given the name and
reads on from behind it, colon and value. -/
def foldMembers {σ : Type} (step : σ → String → Reader σ) : List Char → Bool → σ → Reader σ
  | [], _, _, rest => .error (.atNext .endOfObject rest)
  | _ :: ticks, first, state, rest =>
    match nextMember first rest with
    | .error f => .error f
    | .ok (false, rest) => .ok (state, rest)
    | .ok (true, rest) =>
      match readString rest with
      | .error f => .error f
      | .ok (name, rest) =>
        match step state (String.ofList name) rest with
        | .error f => .error f
        | .ok (state, rest) => foldMembers step ticks false state rest

def elements {σ : Type} (step : σ → Reader σ) (state : σ) : Reader σ :=
  Bracket.array.enclose fun rest => foldElements step (Text.clock rest) true state rest

def members {σ : Type} (step : σ → String → Reader σ) (state : σ) : Reader σ :=
  Bracket.object.enclose fun rest => foldMembers step (Text.clock rest) true state rest

def readMemberValue {α : Type} (value : Reader α) : Reader α := fun rest =>
  match readColon rest with
  | .ok rest => value rest
  | .error f => .error f

def collect {α : Type} (item : Reader α) (collected : List α) : Reader (List α) := fun rest =>
  match item rest with
  | .ok (a, rest) => .ok (a :: collected, rest)
  | .error f => .error f

def collectMember {α : Type} (value : Reader α) (collected : List (String × α)) (name : String) :
    Reader (List (String × α)) := fun rest =>
  match readMemberValue value rest with
  | .ok (a, rest) => .ok ((name, a) :: collected, rest)
  | .error f => .error f

/-- A document with at most `budget` brackets inside one another. -/
def readDocument : Nat → Reader Document
  | budget, rest =>
    match skipBlanks rest with
    | '[' :: body =>
      match budget with
      | 0 => .error (.atNext .nestingLimit ('[' :: body))
      | budget + 1 =>
        match elements (collect (readDocument budget)) [] body with
        | .ok (items, rest) => .ok (.array items.reverse, rest)
        | .error f => .error f
    | '\x7b' :: body =>
      match budget with
      | 0 => .error (.atNext .nestingLimit ('\x7b' :: body))
      | budget + 1 =>
        match members (collectMember (readDocument budget)) [] body with
        | .ok (ms, rest) => .ok (.object ms.reverse, rest)
        | .error f => .error f
    | rest => readAtom rest

def nestingLimit : Nat := 127

def readText {α : Type} (value : Reader α) (text : String) : Except Report α :=
  match value text.toList with
  | .error f => .error (f.report text.toList)
  | .ok (a, rest) =>
    match skipBlanks rest with
    | [] => .ok a
    | rest => .error ((Failure.atNext .trailingCharacters rest).report text.toList)

end FilterClause.Json
