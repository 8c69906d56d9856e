import FilterClause.Expression
import FilterClause.Json.Record
import FilterClause.Schema.Literal

/-!
Expressions as documents. A node is an object with a `type` and the fields of its variant, in any order
and among any other members, or an array of the tag and the fields in order. The document is given as a
whole, so a fault in it has no position.
-/

namespace FilterClause

open Json (Document Fault)

inductive Variant
  | comparison
  | logical
  | group
  deriving DecidableEq, Repr

namespace Variant

def name : Variant → String
  | comparison => "comparison"
  | logical => "logical"
  | group => "group"

def all : List Variant :=
  [comparison, logical, group]

def ofName (s : String) : Except Fault Variant :=
  match all.find? fun v => v.name == s with
  | some v => .ok v
  | none => .error (.unknownVariant s (all.map name))

/-- Inside a document a tag may also be the variant's place in the list of variants. -/
def ofDocument : Document → Except Fault Variant
  | .string s => ofName s
  | .integer n =>
    if n < 0 then wrong (.integer n) "variant identifier"
    else
      match all[n.toNat]? with
      | some v => .ok v
      | none => .error (.wrongInteger n "variant index 0 <= i < 3")
  | d => wrong d "variant identifier"

/-- The one `type` among the members. -/
def ofMembers (found : Option Variant) : List (String × Document) → Except Fault Variant
  | [] => Json.required "type" found
  | (name, d) :: ms =>
    if name = "type" then do
      Json.vacant "type" found
      let v ← ofDocument d
      ofMembers (some v) ms
    else ofMembers found ms

end Variant

def keyOfDocument : Document → Except Fault String
  | .string s => .ok s
  | d => wrong d "a string"

def Operator.ofDocument : Document → Except Fault Operator
  | .string s => ofName s
  | d => wrong d "a string"

structure ComparisonFields where
  key : Option String := none
  op : Option Operator := none
  value : Option Value := none

namespace ComparisonFields

def finish (f : ComparisonFields) : Except Fault Comparison := do
  let key ← Json.required "key" f.key
  let op ← Json.required "op" f.op
  let value ← Json.required "value" f.value
  .ok ⟨key, op, value⟩

def ofMembers (f : ComparisonFields) : List (String × Document) → Except Fault ComparisonFields
  | [] => .ok f
  | (name, d) :: ms =>
    match name with
    | "key" => do
      Json.vacant name f.key
      let key ← keyOfDocument d
      ofMembers { f with key := some key } ms
    | "op" => do
      Json.vacant name f.op
      let op ← Operator.ofDocument d
      ofMembers { f with op := some op } ms
    | "value" => do
      Json.vacant name f.value
      let value ← Value.ofDocument d
      ofMembers { f with value := some value } ms
    | _ => ofMembers f ms

end ComparisonFields

/-- The fault of an array with too few fields for a node, or with too many. -/
def tooFew (n : Nat) (expected : String) : Fault :=
  .wrongLength n expected

def tooMany (n : Nat) (expected : String) : Fault :=
  .wrongLength n (expected ++ " in sequence")

def comparisonShape : String := "struct Comparison with 3 elements"

def logicalShape : String := "struct LogicalExpression with 3 elements"

def groupShape : String := "struct Group with 1 element"

namespace Comparison

def ofItems : List Document → Except Fault Comparison
  | [] => .error (tooFew 0 comparisonShape)
  | key :: items => do
    let key ← keyOfDocument key
    match items with
    | [] => .error (tooFew 1 comparisonShape)
    | op :: items => do
      let op ← Operator.ofDocument op
      match items with
      | [] => .error (tooFew 2 comparisonShape)
      | value :: items => do
        let value ← Value.ofDocument value
        match items with
        | [] => .ok ⟨key, op, value⟩
        | items => .error (tooMany (3 + items.length) "3 elements")

def ofMembers (ms : List (String × Document)) : Except Fault Comparison := do
  let f ← ComparisonFields.ofMembers {} ms
  f.finish

end Comparison

structure LogicalFields where
  left : Option Expression := none
  op : Option Operator := none
  right : Option Expression := none

def LogicalFields.finish (f : LogicalFields) : Except Fault Expression := do
  let left ← Json.required "left" f.left
  let op ← Json.required "op" f.op
  let right ← Json.required "right" f.right
  .ok (.logical left op right)

namespace Expression

mutual

def ofDocument : Document → Except Fault Expression
  | .object ms => do
    match ← Variant.ofMembers none ms with
    | .comparison => do
      let c ← Comparison.ofMembers ms
      .ok (.comparison c)
    | .logical => do
      let f ← logicalOfMembers {} ms
      f.finish
    | .group => groupOfMembers none ms
  | .array [] => .error (.missingField "type")
  | .array (tag :: items) => do
    match ← Variant.ofDocument tag with
    | .comparison => do
      let c ← Comparison.ofItems items
      .ok (.comparison c)
    | .logical => logicalOfItems items
    | .group => groupOfItems items
  | d => wrong d "internally tagged enum Expression"

def logicalOfMembers (f : LogicalFields) : List (String × Document) → Except Fault LogicalFields
  | [] => .ok f
  | (name, d) :: ms =>
    match name with
    | "left" => do
      Json.vacant name f.left
      let left ← ofDocument d
      logicalOfMembers { f with left := some left } ms
    | "op" => do
      Json.vacant name f.op
      let op ← Operator.ofDocument d
      logicalOfMembers { f with op := some op } ms
    | "right" => do
      Json.vacant name f.right
      let right ← ofDocument d
      logicalOfMembers { f with right := some right } ms
    | _ => logicalOfMembers f ms

def groupOfMembers (inner : Option Expression) :
    List (String × Document) → Except Fault Expression
  | [] => (Json.required "inner" inner).map group
  | (name, d) :: ms =>
    match name with
    | "inner" => do
      Json.vacant name inner
      let e ← ofDocument d
      groupOfMembers (some e) ms
    | _ => groupOfMembers inner ms

def logicalOfItems : List Document → Except Fault Expression
  | [] => .error (tooFew 0 logicalShape)
  | left :: items => do
    let left ← ofDocument left
    match items with
    | [] => .error (tooFew 1 logicalShape)
    | op :: items => do
      let op ← Operator.ofDocument op
      match items with
      | [] => .error (tooFew 2 logicalShape)
      | right :: items => do
        let right ← ofDocument right
        match items with
        | [] => .ok (.logical left op right)
        | items => .error (tooMany (3 + items.length) "3 elements")

def groupOfItems : List Document → Except Fault Expression
  | [] => .error (tooFew 0 groupShape)
  | inner :: items => do
    let inner ← ofDocument inner
    match items with
    | [] => .ok (.group inner)
    | items => .error (tooMany (1 + items.length) "1 element")

end

/-- The members of a node's object, or the items of its array behind the tag. -/
inductive Contents
  | members (ms : List (String × Document))
  | items (ds : List Document)

/-- A node of a known variant. A `type` among the members is no field of any variant. -/
def ofContents : Variant → Contents → Except Fault Expression
  | .comparison, .members ms => (Comparison.ofMembers ms).map comparison
  | .comparison, .items ds => (Comparison.ofItems ds).map comparison
  | .logical, .members ms => do
    let f ← logicalOfMembers {} ms
    f.finish
  | .logical, .items ds => logicalOfItems ds
  | .group, .members ms => groupOfMembers none ms
  | .group, .items ds => groupOfItems ds

/-- The document of an expression, the tag first and the fields in order. -/
def toDocument : Expression → Document
  | comparison c =>
    .object [("type", .string "comparison"), ("key", .string c.key), ("op", c.op.toDocument),
      ("value", c.value.toDocument)]
  | logical left op right =>
    .object [("type", .string "logical"), ("left", left.toDocument), ("op", op.toDocument),
      ("right", right.toDocument)]
  | group inner => .object [("type", .string "group"), ("inner", inner.toDocument)]

end Expression

end FilterClause
