import FilterClause.Parse
import FilterClause.Proofs.Comparisons
import FilterClause.Proofs.Rereading

/-!
Expressions through JSON and back. The text written for a tree without floating-point numbers is read as
the same tree, if its brackets nest no deeper than the reader goes; the reader gives up at the first
bracket beyond. Each node of the tree takes a bracket, and a list one more.
-/

namespace FilterClause

open Json (Document Limited Indent)

theorem Operator.ofName_name (op : Operator) : Operator.ofName op.name = .ok op := by
  cases op <;> rfl

theorem Variant.ofName_name (v : Variant) : Variant.ofName v.name = .ok v := by
  cases v <;> rfl

theorem Scalar.ofDocument?_toDocument {s : Scalar} (h : s.isFloat = false) :
    Scalar.ofDocument? s.toDocument = some s := by
  cases s with
  | bool b => rfl
  | int n =>
      have hword : Int64.minValue.toInt ≤ n.toInt ∧ n.toInt ≤ Int64.maxValue.toInt :=
        ⟨n.minValue_le_toInt, n.toInt_le⟩
      simp only [Scalar.toDocument, Scalar.ofDocument?, Scalar.ofInteger, if_pos hword,
        Int64.ofInt_toInt]
  | float x => cases h
  | string s => rfl

theorem Scalar.mapM_ofDocument?_toDocument {items : List Scalar}
    (h : ∀ s ∈ items, s.isFloat = false) :
    (items.map Scalar.toDocument).mapM Scalar.ofDocument? = some items := by
  induction items with
  | nil => rfl
  | cons s items ih =>
      rw [List.forall_mem_cons] at h
      rw [List.map_cons, List.mapM_cons, Scalar.ofDocument?_toDocument h.1, ih h.2]
      rfl

theorem Value.ofDocument_toDocument {v : Value} (h : ∀ s ∈ v.literals, s.isFloat = false) :
    Value.ofDocument v.toDocument = .ok v := by
  have hread : Value.ofDocument? v.toDocument = some v := by
    cases v with
    | list items =>
        have hitems : (items.map Scalar.toDocument).mapM Scalar.ofDocument? = some items :=
          Scalar.mapM_ofDocument?_toDocument h
        rw [Value.toDocument, Value.ofDocument?, hitems, Option.map_some]
    | scalar s =>
        have hs := Scalar.ofDocument?_toDocument (h s List.mem_cons_self)
        have hscalar : Value.ofDocument? s.toDocument = (Scalar.ofDocument? s.toDocument).map scalar := by
          cases s <;> rfl
        rw [Value.toDocument, hscalar, hs, Option.map_some]
  rw [Value.ofDocument, hread]

namespace Expression

def variant : Expression → Variant
  | comparison _ => .comparison
  | logical .. => .logical
  | group _ => .group

/-- The members of a node's document behind its tag. -/
def fields : Expression → List (String × Document)
  | comparison c =>
    [("key", .string c.key), ("op", c.op.toDocument), ("value", c.value.toDocument)]
  | logical left op right =>
    [("left", left.toDocument), ("op", op.toDocument), ("right", right.toDocument)]
  | group inner => [("inner", inner.toDocument)]

theorem toDocument_eq (e : Expression) :
    e.toDocument = .object (("type", .string e.variant.name) :: e.fields) := by
  cases e <;> rfl

theorem name_ne_type_of_mem_fields {e : Expression} : ∀ m ∈ e.fields, m.1 ≠ "type" := by
  cases e <;> simp [fields]

theorem ofMembers_eq_ok {ms : List (String × Document)} (h : ∀ m ∈ ms, m.1 ≠ "type") (v : Variant) :
    Variant.ofMembers (some v) ms = .ok v := by
  induction ms with
  | nil => rfl
  | cons m ms ih =>
      rw [List.forall_mem_cons] at h
      rw [Variant.ofMembers, if_neg h.1]
      exact ih h.2

theorem ofDocument_tagged {ms : List (String × Document)} (h : ∀ m ∈ ms, m.1 ≠ "type")
    (v : Variant) :
    ofDocument (.object (("type", .string v.name) :: ms)) = ofContents v (.members ms) := by
  have htag : Variant.ofMembers none (("type", .string v.name) :: ms) = .ok v := by
    rw [Variant.ofMembers, if_pos rfl, Variant.ofDocument, Variant.ofName_name]
    exact ofMembers_eq_ok h v
  rw [ofDocument, htag]
  cases v with
  | comparison => rfl
  | logical => rfl
  | group => rfl

theorem ofDocument_toDocument_eq (e : Expression) :
    ofDocument e.toDocument = ofContents e.variant (.members e.fields) := by
  rw [toDocument_eq, ofDocument_tagged name_ne_type_of_mem_fields]

theorem ofContents_fields {e : Expression} (h : e.FloatFree) :
    ofContents e.variant (.members e.fields) = .ok e := by
  induction e with
  | comparison c =>
      have hvalue := Value.ofDocument_toDocument (forall_comparisons_comparison.mp h)
      have hfields : ComparisonFields.ofMembers {} (comparison c).fields =
          .ok ⟨some c.key, some c.op, some c.value⟩ := by
        simp [fields, ComparisonFields.ofMembers, Json.vacant, keyOfDocument, Operator.toDocument,
          Operator.ofDocument, Operator.ofName_name, hvalue]
      rw [variant, ofContents, Comparison.ofMembers, hfields]
      rfl
  | logical left op right ihl ihr =>
      have hf := forall_comparisons_logical.mp h
      have hleft := (ofDocument_toDocument_eq left).trans (ihl hf.1)
      have hright := (ofDocument_toDocument_eq right).trans (ihr hf.2)
      have hfields : logicalOfMembers {} (logical left op right).fields =
          .ok ⟨some left, some op, some right⟩ := by
        simp [fields, logicalOfMembers, Json.vacant, Operator.toDocument, Operator.ofDocument,
          Operator.ofName_name, hleft, hright]
      rw [variant, ofContents, hfields]
      rfl
  | group inner ih =>
      have hinner := (ofDocument_toDocument_eq inner).trans (ih h)
      have hfields : groupOfMembers none (group inner).fields = .ok (group inner) := by
        simp only [fields, groupOfMembers, Json.vacant, Except.ok_bind, hinner, Json.required]
        rfl
      rw [variant, ofContents, hfields]

end Expression

theorem Scalar.exact_toDocument {s : Scalar} (h : s.isFloat = false) : s.toDocument.Exact := by
  cases s with
  | bool b => exact .bool b
  | int n =>
      have hmax : Int64.maxValue.toInt < UInt64.size := by decide
      exact .integer n.toInt n.minValue_le_toInt (Int.lt_of_le_of_lt n.toInt_le hmax)
  | float x => cases h
  | string s => exact .string s

theorem Value.exact_toDocument {v : Value} (h : ∀ s ∈ v.literals, s.isFloat = false) :
    v.toDocument.Exact := by
  cases v with
  | list items =>
      refine .array _ (List.forall_mem_map.mpr ?_)
      intro s hs
      exact Scalar.exact_toDocument (h s hs)
  | scalar s => exact Scalar.exact_toDocument (h s List.mem_cons_self)

theorem Operator.exact_toDocument (op : Operator) : op.toDocument.Exact :=
  .string op.name

namespace Expression

theorem exact_of_fields {e : Expression} (h : ∀ m ∈ e.fields, m.2.Exact) : e.toDocument.Exact := by
  rw [toDocument_eq]
  exact .object _ (List.forall_mem_cons.mpr ⟨.string _, h⟩)

theorem exact_fields {e : Expression} (h : e.FloatFree) : ∀ m ∈ e.fields, m.2.Exact := by
  induction e with
  | comparison c =>
      have hvalue := Value.exact_toDocument (forall_comparisons_comparison.mp h)
      simp only [fields, List.forall_mem_cons, List.not_mem_nil, false_implies, implies_true,
        and_true]
      exact ⟨.string _, c.op.exact_toDocument, hvalue⟩
  | logical left op right ihl ihr =>
      have hf := forall_comparisons_logical.mp h
      simp only [fields, List.forall_mem_cons, List.not_mem_nil, false_implies, implies_true,
        and_true]
      exact ⟨exact_of_fields (ihl hf.1), op.exact_toDocument, exact_of_fields (ihr hf.2)⟩
  | group inner ih =>
      simp only [fields, List.forall_mem_singleton]
      exact exact_of_fields (ih h)

/-- The deepest bracket of a tree whose root is at the given level: each expression takes one, and
a list one more. -/
def nestingFrom (level : Nat) : Expression → Nat
  | comparison c => if c.value.isList then level + 1 else level
  | logical left _ right => max (left.nestingFrom (level + 1)) (right.nestingFrom (level + 1))
  | group inner => inner.nestingFrom (level + 1)

def nesting (e : Expression) : Nat :=
  e.nestingFrom 1

theorem itemsNesting_scalars (items : List Scalar) :
    Document.itemsNesting (items.map Scalar.toDocument) = 0 := by
  induction items with
  | nil => rfl
  | cons s items ih =>
      have hs : s.toDocument.nesting = 0 := by
        cases s <;> rfl
      rw [List.map_cons, Document.itemsNesting, hs, ih, Nat.max_self]

theorem nesting_value (v : Value) : v.toDocument.nesting = if v.isList then 1 else 0 := by
  cases v with
  | list items => rw [Value.toDocument, Document.nesting, itemsNesting_scalars]; rfl
  | scalar s => cases s <;> rfl

theorem nesting_toDocument_add (e : Expression) (level : Nat) :
    e.toDocument.nesting + level = e.nestingFrom (level + 1) := by
  induction e generalizing level with
  | comparison c =>
      simp only [toDocument, Operator.toDocument, Document.nesting, Document.membersNesting,
        nesting_value, nestingFrom]
      split <;> omega
  | logical left op right ihl ihr =>
      have hleft := ihl (level + 1)
      have hright := ihr (level + 1)
      simp only [toDocument, Operator.toDocument, Document.nesting, Document.membersNesting,
        nestingFrom]
      omega
  | group inner ih =>
      have hinner := ih (level + 1)
      simp only [toDocument, Document.nesting, Document.membersNesting, nestingFrom]
      omega

theorem nesting_eq (e : Expression) : e.nesting = e.toDocument.nesting :=
  (nesting_toDocument_add e 0).symm

theorem nesting_toDocument_eq (e : Expression) :
    e.toDocument.nesting = Document.membersNesting e.fields + 1 := by
  have htag : (Document.string e.variant.name).nesting = 0 := rfl
  rw [toDocument_eq, Document.nesting, Document.membersNesting, htag, Nat.zero_max]

end Expression

namespace Source

section

variable {budget : Nat} {indent : Indent} {rest : List Char}

theorem readVariant_name (v : Variant) {text : List Char}
    (h : Json.skipBlanks text = Json.stringText v.name rest) : readVariant text = .ok (v, rest) := by
  rw [Json.stringText_eq] at h
  rw [readVariant, Json.readStringValue, h]
  simp only [Json.readString_escaped, Except.map, String.ofList_toList, Variant.ofName_name]

theorem taggedMember_type (v : Variant) :
    taggedMember budget {} "type" (indent.colon (Json.stringText v.name rest)) =
      .ok ({ variant := some v }, rest) := by
  obtain ⟨blanks, hcolon, hskip⟩ := Json.readColon_colon indent (Json.stringText v.name rest)
  have hvariant : readVariant blanks = .ok (v, rest) := readVariant_name v hskip
  rw [taggedMember, if_pos rfl]
  simp only [Json.readField, Json.vacant, Json.settle, Except.ok_bind, Json.readMemberValue,
    hcolon, hvariant, Except.map]

theorem taggedMember_field {m : String × Document} (h : m.2.Exact) (hname : m.1 ≠ "type")
    (t : Tagged) (hr : Json.NumberEnds rest) :
    Limited (m.2.nesting ≤ budget)
      (taggedMember budget t m.1 (indent.colon (m.2.text indent.deeper rest)))
      ({ t with members := m :: t.members }, rest) := by
  have hvalue := (Json.readDocument_text budget h indent.deeper hr).memberValue indent
  have hmembers := hvalue.map fun d => (m.1, d) :: t.members
  rw [← Json.collectMember_eq_map] at hmembers
  rw [taggedMember, if_neg hname]
  exact hmembers.map fun ms => { t with members := ms }

theorem nodeOfMembers_fields (budget : Nat) (indent : Indent) (rest : List Char) {e : Expression}
    (h : e.FloatFree) :
    Limited (∀ m ∈ e.fields, m.2.nesting ≤ budget)
      (nodeOfMembers budget (Json.fieldsText indent true
        (("type", .string e.variant.name) :: e.fields) rest))
      ((e.variant, .members e.fields), '\x7d' :: rest) := by
  let text := Json.fieldsText indent true (("type", .string e.variant.name) :: e.fields) rest
  have htag : Json.recordMembers (taggedMember budget) {} text =
      Json.foldMembers (taggedMember budget) text false { variant := some e.variant }
        (Json.fieldsText indent false e.fields rest) := by
    rw [Json.recordMembers, Text.clock, Json.foldMembers_cons, Document.text, taggedMember_type,
      Json.membersText_eq]
    rfl
  -- The tag has taken one tick of the clock, so that the text itself has to do for the fields.
  have hticks : e.fields.length < text.length :=
    Nat.lt_of_succ_lt_succ (Json.length_lt_clock_fieldsText indent (_ :: e.fields) rest)
  have hfold := Json.foldMembers_fieldsText indent (taggedMember budget)
    (fun t m => { t with members := m :: t.members }) (fun m => m.2.nesting ≤ budget) e.fields false
    text { variant := some e.variant } rest
    (fun m hm t rest hr => taggedMember_field (Expression.exact_fields h m hm)
      (Expression.name_ne_type_of_mem_fields m hm) t hr) hticks
  rw [← htag] at hfold
  refine hfold.bind_ok _ ?_
  cases e <;> rfl

theorem readExpression_object (budget : Nat) (body : List Char) :
    readExpression (budget + 1) ('\x7b' :: body) =
      (Json.Bracket.object.enclose (nodeOfMembers budget) body).bind fun node =>
        Json.settle (Expression.ofContents node.1.1 node.1.2) node.2 := by
  have hrecord : readNode (budget + 1) ('\x7b' :: body) =
      Json.Bracket.object.enclose (nodeOfMembers budget) body := rfl
  rw [readExpression, hrecord]
  cases Json.Bracket.object.enclose (nodeOfMembers budget) body <;> rfl

theorem readExpression_text (budget : Nat) (indent : Indent) (rest : List Char) {e : Expression}
    (h : e.FloatFree) :
    Limited (e.nesting ≤ budget) (readExpression budget (e.toDocument.text indent rest))
      (e, rest) := by
  rw [Expression.nesting_eq, Expression.nesting_toDocument_eq, Expression.toDocument_eq,
    Json.text_object]
  cases budget with
  | zero => exact ⟨fun hf => absurd hf (Nat.not_succ_le_zero _), fun _ => ⟨_, rfl, rfl, rfl⟩⟩
  | succ budget =>
      have hnode := Limited.enclose (b := .object) (nodeOfMembers budget)
        (nodeOfMembers_fields budget indent rest h)
      rw [readExpression_object]
      refine (hnode.bind_ok _ ?_).congr ?_
      · simp only [Expression.ofContents_fields h, Json.settle]
      · rw [Nat.add_le_add_iff_right, Document.membersNesting_le_iff]

end

end Source

theorem Json.Failure.OverNested.text_report {f : Json.Failure} (h : f.OverNested)
    (source : List Char) : (f.report source).text = Json.Fault.nestingLimit.message := by
  have hstated : Json.statedPosition? Json.Fault.nestingLimit.message.toList = none := by
    decide
  rw [Json.Failure.report, h.1, hstated]

/-- The text of a tree, on one line or indented, is the tree again if it nests no deeper than a text may,
and is refused for its nesting otherwise. -/
theorem parseJson_text {e : Expression} (h : e.FloatFree) (indent : Indent) :
    (e.nesting ≤ 127 → parseJson (String.ofList (e.toDocument.text indent [])) = .ok e) ∧
    (127 < e.nesting → ∃ report,
      parseJson (String.ofList (e.toDocument.text indent [])) = .error (.invalidExpression report) ∧
        report.text = Json.Fault.nestingLimit.message) := by
  have hread := Source.readExpression_text Json.nestingLimit indent [] h
  constructor
  · intro hle
    rw [parseJson, Source.parse, Json.readText, String.toList_ofList, hread.ok hle]
    rfl
  · intro hlt
    obtain ⟨f, hf, hover⟩ := hread.error (Nat.not_le_of_lt hlt)
    refine ⟨f.report (e.toDocument.text indent []), ?_, hover.text_report _⟩
    rw [parseJson, Source.parse, Json.readText, String.toList_ofList, hf]
    rfl

/-- Writing a tree and reading it back, in either form. -/
theorem parseJson_toDocument {e : Expression} (h : e.FloatFree) :
    (e.nesting ≤ 127 →
      parseJson e.toDocument.compact = .ok e ∧ parseJson e.toDocument.indented = .ok e) ∧
    (127 < e.nesting →
      (∃ report, parseJson e.toDocument.compact = .error (.invalidExpression report) ∧
        report.text = Json.Fault.nestingLimit.message) ∧
      ∃ report, parseJson e.toDocument.indented = .error (.invalidExpression report) ∧
        report.text = Json.Fault.nestingLimit.message) := by
  have hcompact := parseJson_text h none
  have hindented := parseJson_text h (some 0)
  exact ⟨fun hle => ⟨hcompact.1 hle, hindented.1 hle⟩,
    fun hlt => ⟨hcompact.2 hlt, hindented.2 hlt⟩⟩

/-- A membership test in that many groups. -/
def buried : Nat → Expression
  | 0 => .comparison ⟨"\"k\n", .isIn, .ofList [(-1 : Int64), 2]⟩
  | n + 1 => .group (buried n)

theorem floatFree_buried (n : Nat) : (buried n).FloatFree := by
  induction n with
  | zero => decide
  | succ n ih => exact ih

theorem nestingFrom_buried (n level : Nat) : (buried n).nestingFrom level = level + n + 1 := by
  induction n generalizing level with
  | zero => rfl
  | succ n ih =>
      rw [buried, Expression.nestingFrom, ih]
      omega

/-- The last tree that is read back and the first that is not: the list takes a bracket of its own. -/
theorem parseJson_buried :
    parseJson (buried 125).toDocument.compact = .ok (buried 125) ∧
    parseJson (buried 125).toDocument.indented = .ok (buried 125) ∧
    ∃ report, parseJson (buried 126).toDocument.indented = .error (.invalidExpression report) := by
  have hlast : (buried 125).nesting ≤ 127 := Nat.le_of_eq (nestingFrom_buried 125 1)
  have hnext : 127 < (buried 126).nesting := Nat.lt_of_lt_of_eq (by decide)
    (nestingFrom_buried 126 1).symm
  obtain ⟨hcompact, hindented⟩ := (parseJson_toDocument (floatFree_buried 125)).1 hlast
  obtain ⟨-, report, hover, -⟩ := (parseJson_toDocument (floatFree_buried 126)).2 hnext
  exact ⟨hcompact, hindented, report, hover⟩

end FilterClause
