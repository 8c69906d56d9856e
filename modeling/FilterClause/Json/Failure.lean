import FilterClause.Decimal.Natural
import FilterClause.Json.Fault

/-!
A fault together with the place where reading stood, and its report in lines and columns.

Readers walk the list of characters left, so a place is the rest of the text; the report recovers the
position by counting the bytes before it. A fault found in a document that had been read as a whole
has no place of its own, and takes one from the array or object around it, if any.
-/

namespace FilterClause.Json

structure Failure where
  fault : Fault
  /-- The text left where reading stood. -/
  rest : List Char
  /-- Bytes of the rest that the position takes in. -/
  ahead : Nat
  placed : Bool

namespace Failure

/-- The fault ends just before the rest. -/
def here (fault : Fault) (rest : List Char) : Failure :=
  ⟨fault, rest, 0, true⟩

/-- The fault takes in the next byte. -/
def atNext (fault : Fault) (rest : List Char) : Failure :=
  ⟨fault, rest, 1, true⟩

def unplaced (fault : Fault) (rest : List Char) : Failure :=
  ⟨fault, rest, 0, false⟩

def place (f : Failure) (rest : List Char) : Failure :=
  if f.placed then f else here f.fault rest

end Failure

abbrev Reading (α : Type) := Except Failure (α × List Char)

abbrev Reader (α : Type) := List Char → Reading α

/-- A fault as it is told: a line of zero means that there is no position. -/
structure Report where
  text : String
  line : Nat
  column : Nat
  category : Category
  deriving DecidableEq, Repr

def Report.message (r : Report) : String :=
  if r.line = 0 then r.text
  else r.text ++ " at line " ++ toString r.line ++ " column " ++ toString r.column

/-- Line and column after these bytes: lines count from one, columns are bytes since the last break. -/
def positionAfter (bytes : List UInt8) : Nat × Nat :=
  let step : Nat × Nat → UInt8 → Nat × Nat := fun (line, column) b =>
    if b = 10 then (line + 1, 0) else (line, column + 1)
  bytes.foldl step (1, 0)

def bytesOf (cs : List Char) : List UInt8 :=
  (String.ofList cs).toUTF8.toList

/-- The position `ahead` bytes into the rest of a text, or at its end if that comes first. -/
def positionIn (text rest : List Char) (ahead : Nat) : Nat × Nat :=
  let before := text.take (text.length - rest.length)
  positionAfter (bytesOf before ++ (bytesOf rest).take ahead)

/-- The text before its last occurrence of `mark`, and the text after it. -/
def splitLast? (mark : List Char) : List Char → Option (List Char × List Char)
  | [] => none
  | c :: cs =>
    match splitLast? mark cs with
    | some (before, after) => some (c :: before, after)
    | none => if mark.isPrefixOf (c :: cs) then some ([], (c :: cs).drop mark.length) else none

/-- A message that ends in a position of its own, split into the two. Only a message that repeats a
part of the text it reports on can end so. -/
def statedPosition? (message : List Char) : Option (List Char × Nat × Nat) := do
  let (text, position) ← splitLast? " at line ".toList message
  let line ← Decimal.word? (position.takeWhile Char.isDigit)
  let column := position.dropWhile Char.isDigit
  let mark := " column ".toList
  if mark.isPrefixOf column then
    let column ← Decimal.word? (column.drop mark.length)
    some (text, line, column)
  else none

def Failure.report (f : Failure) (source : List Char) : Report :=
  let position := if f.placed then positionIn source f.rest f.ahead else (0, 0)
  match statedPosition? f.fault.message.toList with
  | none => ⟨f.fault.message, position.1, position.2, f.fault.category⟩
  | some (text, line, column) =>
    if f.placed && line = 0 then ⟨String.ofList text, position.1, position.2, f.fault.category⟩
    else ⟨String.ofList text, line, column, f.fault.category⟩

end FilterClause.Json
