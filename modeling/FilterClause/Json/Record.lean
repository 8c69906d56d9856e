import FilterClause.Json.Skipping

/-!
Reading values of a known kind straight from the text: strings, numbers, and records written as an
object or as the array of their fields. A value of another kind is read as far as needed to say what it
is; of an array or object the bracket tells.
-/

namespace FilterClause.Json

/-- The failure where a value of another kind stands. -/
def refuse {α : Type} (expected : String) (rest : List Char) : Reading α :=
  match rest with
  | '[' :: body => .error (.here (.wrongKind (.array []) expected) ('[' :: body))
  | '\x7b' :: body => .error (.here (.wrongKind (.object []) expected) ('\x7b' :: body))
  | rest =>
    match readAtom rest with
    | .ok (found, rest) => .error (.here (.wrongKind found expected) rest)
    | .error f => .error f

def readStringValue (expected : String) (rest : List Char) : Reading String :=
  match skipBlanks rest with
  | '"' :: rest => (readString rest).map fun (s, rest) => (String.ofList s, rest)
  | rest => refuse expected rest

def readCount (rest : List Char) : Reading Nat :=
  match readAtom (skipBlanks rest) with
  | .ok (.integer n, rest) =>
    if n < 0 then .error (.here (.wrongInteger n "usize") rest) else .ok (n.toNat, rest)
  | _ => refuse "usize" (skipBlanks rest)

def readOptional {α : Type} (value : Reader α) (rest : List Char) : Reading (Option α) :=
  match skipBlanks rest with
  | 'n' :: rest => (readKeyword ['u', 'l', 'l'] rest).map fun rest => (none, rest)
  | rest => (value rest).map fun (a, rest) => (some a, rest)

/-- Lifts a fault found in what has been read; it has no place of its own. -/
def settle {α : Type} (outcome : Except Fault α) (rest : List Char) : Reading α :=
  match outcome with
  | .ok a => .ok (a, rest)
  | .error fault => .error (.unplaced fault rest)

/-- A record, as the array of its fields or as an object; both bodies are given the budget that is left
inside of the bracket and read up to the closing one. -/
def readRecord {α : Type} (expected : String) (ofArray ofObject : Nat → Reader α) (budget : Nat)
    (rest : List Char) : Reading α :=
  match skipBlanks rest with
  | '[' :: body =>
    match budget with
    | 0 => .error (.atNext .nestingLimit ('[' :: body))
    | budget + 1 => Bracket.array.enclose (ofArray budget) body
  | '\x7b' :: body =>
    match budget with
    | 0 => .error (.atNext .nestingLimit ('\x7b' :: body))
    | budget + 1 => Bracket.object.enclose (ofObject budget) body
  | rest => refuse expected rest

def readElement? {α : Type} (item : Reader α) (first : Bool) (rest : List Char) :
    Except Failure (Option α × List Char) := do
  let (more, rest) ← nextElement first rest
  if more then
    let (a, rest) ← item rest
    .ok (some a, rest)
  else .ok (none, rest)

/-- An element that a record's array has to have; `position` elements stand before it. -/
def readElement {α : Type} (item : Reader α) (position : Nat) (expected : String)
    (rest : List Char) : Except Failure (α × List Char) := do
  match ← readElement? item (position = 0) rest with
  | (some a, rest) => .ok (a, rest)
  | (none, rest) => .error (.unplaced (.wrongLength position expected) rest)

def vacant {α : Type} (name : String) : Option α → Except Fault Unit
  | none => .ok ()
  | some _ => .error (.duplicateField name)

def required {α : Type} (name : String) : Option α → Except Fault α
  | some a => .ok a
  | none => .error (.missingField name)

def readField {α : Type} (name : String) (slot : Option α) (value : Reader α) (rest : List Char) :
    Except Failure (α × List Char) := do
  let (_, rest) ← settle (vacant name slot) rest
  readMemberValue value rest

def skipMember (rest : List Char) : Except Failure (List Char) := do
  let rest ← readColon rest
  skipValue rest

/-- The members of a record, the rest standing behind the opening bracket. -/
def recordMembers {σ : Type} (step : σ → String → Reader σ) (state : σ) (rest : List Char) :
    Reading σ :=
  foldMembers step (Text.clock rest) true state rest

end FilterClause.Json
