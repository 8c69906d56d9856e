import FilterClause.Json.Record
import FilterClause.Schema.Tree

/-!
Reading the model's types straight from text. A tagged expression keeps its fields as documents until
its tag is known and its bracket closed; the bare records are read field by field, so that a fault in
one of them is placed at the innermost bracket around it.
-/

namespace FilterClause.Source

open Json (Document Fault Failure Reader Reading)

def readKey : Reader String :=
  Json.readStringValue "a string"

def readOperator (rest : List Char) : Reading Operator :=
  match Json.readStringValue "a string" rest with
  | .ok (s, rest) => Json.settle (Operator.ofName s) rest
  | .error f => .error f

/-- A document as some type that has a reading from documents. -/
def readAs {α : Type} (ofDocument : Document → Except Fault α) (budget : Nat) (rest : List Char) :
    Reading α :=
  match Json.readDocument budget rest with
  | .ok (d, rest) => Json.settle (ofDocument d) rest
  | .error f => .error f

def readScalar : Nat → Reader Scalar :=
  readAs Scalar.ofDocument

def readValue : Nat → Reader Value :=
  readAs Value.ofDocument

/-- A tag, which in the text itself has to be a name. An unknown one is placed behind it. -/
def readVariant (rest : List Char) : Reading Variant :=
  match Json.readStringValue "variant identifier" rest with
  | .ok (s, rest) =>
    match Variant.ofName s with
    | .ok v => .ok (v, rest)
    | .error fault => .error (.here fault rest)
  | .error f => .error f

/-- The tag, if it has been met, and the other members, last first. -/
structure Tagged where
  variant : Option Variant := none
  members : List (String × Document) := []

def taggedMember (budget : Nat) (t : Tagged) (name : String) (rest : List Char) : Reading Tagged :=
  if name = "type" then
    (Json.readField name t.variant readVariant rest).map fun (v, rest) =>
      ({ t with variant := some v }, rest)
  else
    (Json.collectMember (Json.readDocument budget) t.members name rest).map fun (ms, rest) =>
      ({ t with members := ms }, rest)

abbrev Node := Variant × Expression.Contents

def nodeOfMembers (budget : Nat) (rest : List Char) : Except Failure (Node × List Char) := do
  let (t, rest) ← Json.recordMembers (taggedMember budget) {} rest
  let (v, rest) ← Json.settle (Json.required "type" t.variant) rest
  .ok ((v, .members t.members.reverse), rest)

def nodeOfElements (budget : Nat) (rest : List Char) : Except Failure (Node × List Char) := do
  match ← Json.readElement? readVariant true rest with
  | (none, rest) => .error (.unplaced (.missingField "type") rest)
  | (some v, rest) =>
    let item := Json.collect (Json.readDocument budget)
    let (ds, rest) ← Json.foldElements item (Text.clock rest) false [] rest
    .ok ((v, .items ds.reverse), rest)

def readNode : Nat → Reader Node :=
  Json.readRecord "internally tagged enum Expression" nodeOfElements nodeOfMembers

def readExpression (budget : Nat) (rest : List Char) : Reading Expression :=
  match readNode budget rest with
  | .ok ((v, contents), rest) => Json.settle (Expression.ofContents v contents) rest
  | .error f => .error f

def comparisonMember (budget : Nat) (f : ComparisonFields) (name : String) (rest : List Char) :
    Reading ComparisonFields :=
  match name with
  | "key" => (Json.readField name f.key readKey rest).map fun (key, rest) =>
    ({ f with key := some key }, rest)
  | "op" => (Json.readField name f.op readOperator rest).map fun (op, rest) =>
    ({ f with op := some op }, rest)
  | "value" => (Json.readField name f.value (readValue budget) rest).map fun (value, rest) =>
    ({ f with value := some value }, rest)
  | _ => (Json.skipMember rest).map fun rest => (f, rest)

def comparisonOfMembers (budget : Nat) (rest : List Char) :
    Except Failure (Comparison × List Char) := do
  let (f, rest) ← Json.recordMembers (comparisonMember budget) {} rest
  Json.settle f.finish rest

def comparisonOfElements (budget : Nat) (rest : List Char) :
    Except Failure (Comparison × List Char) := do
  let (key, rest) ← Json.readElement readKey 0 comparisonShape rest
  let (op, rest) ← Json.readElement readOperator 1 comparisonShape rest
  let (value, rest) ← Json.readElement (readValue budget) 2 comparisonShape rest
  .ok (⟨key, op, value⟩, rest)

def readComparison : Nat → Reader Comparison :=
  Json.readRecord "struct Comparison" comparisonOfElements comparisonOfMembers

def logicalMember (budget : Nat) (f : LogicalFields) (name : String) (rest : List Char) :
    Reading LogicalFields :=
  match name with
  | "left" => (Json.readField name f.left (readExpression budget) rest).map fun (left, rest) =>
    ({ f with left := some left }, rest)
  | "op" => (Json.readField name f.op readOperator rest).map fun (op, rest) =>
    ({ f with op := some op }, rest)
  | "right" => (Json.readField name f.right (readExpression budget) rest).map fun (right, rest) =>
    ({ f with right := some right }, rest)
  | _ => (Json.skipMember rest).map fun rest => (f, rest)

def logicalOfMembers (budget : Nat) (rest : List Char) :
    Except Failure (Expression × List Char) := do
  let (f, rest) ← Json.recordMembers (logicalMember budget) {} rest
  Json.settle f.finish rest

def logicalOfElements (budget : Nat) (rest : List Char) :
    Except Failure (Expression × List Char) := do
  let (left, rest) ← Json.readElement (readExpression budget) 0 logicalShape rest
  let (op, rest) ← Json.readElement readOperator 1 logicalShape rest
  let (right, rest) ← Json.readElement (readExpression budget) 2 logicalShape rest
  .ok (.logical left op right, rest)

def readLogical : Nat → Reader Expression :=
  Json.readRecord "struct LogicalExpression" logicalOfElements logicalOfMembers

def groupMember (budget : Nat) (inner : Option Expression) (name : String) (rest : List Char) :
    Reading (Option Expression) :=
  match name with
  | "inner" => (Json.readField name inner (readExpression budget) rest).map fun (e, rest) =>
    (some e, rest)
  | _ => (Json.skipMember rest).map fun rest => (inner, rest)

def groupOfMembers (budget : Nat) (rest : List Char) :
    Except Failure (Expression × List Char) := do
  let (inner, rest) ← Json.recordMembers (groupMember budget) none rest
  let (e, rest) ← Json.settle (Json.required "inner" inner) rest
  .ok (.group e, rest)

def groupOfElements (budget : Nat) (rest : List Char) :
    Except Failure (Expression × List Char) := do
  let (e, rest) ← Json.readElement (readExpression budget) 0 groupShape rest
  .ok (.group e, rest)

def readGroup : Nat → Reader Expression :=
  Json.readRecord "struct Group" groupOfElements groupOfMembers

def parse {α : Type} (value : Nat → Reader α) (text : String) : Except Json.Report α :=
  Json.readText (value Json.nestingLimit) text

end FilterClause.Source
