import FilterClause.Proofs.Fields
import FilterClause.Proofs.RoundTrip
import Mathlib.Data.List.Forall2

/-!
The schema of expressions: which documents spell which trees. A node is an object with one `type` and one
of each of its variant's own members; their order and all other members are of no account. Reading
accepts exactly the documents that spell a tree, as long as every node is given as an object whose `type`
is a string. (Arrays of fields and numbers for tags are read too; the schema does not speak of them.)
-/

namespace FilterClause

open Json (Document Fault valuesOf Fills ReadsField)

namespace Json.Document

inductive SpellsScalar : Document → Scalar → Prop
  | bool (b : Bool) : SpellsScalar (.bool b) (.bool b)
  | integer (n : Int) (h : Int64.minValue.toInt ≤ n ∧ n ≤ Int64.maxValue.toInt) :
      SpellsScalar (.integer n) (.int (Int64.ofInt n))
  | wide (n : Int) (h : ¬ (Int64.minValue.toInt ≤ n ∧ n ≤ Int64.maxValue.toInt)) :
      SpellsScalar (.integer n) (.float (Scalar.wideInteger n))
  | float (x : Float) : SpellsScalar (.float x) (.float x)
  | string (s : String) : SpellsScalar (.string s) (.string s)

inductive SpellsValue : Document → Value → Prop
  | scalar {d : Document} {s : Scalar} (h : SpellsScalar d s) : SpellsValue d (.scalar s)
  | list {ds : List Document} {items : List Scalar} (h : List.Forall₂ SpellsScalar ds items) :
      SpellsValue (.array ds) (.list items)

/-- The document spells the tree. -/
inductive Spells : Document → Expression → Prop
  | comparison {ms : List (String × Document)} {key token : String} {op : Operator} {d : Document}
      {value : Value} (htype : valuesOf "type" ms = [.string "comparison"])
      (hkey : valuesOf "key" ms = [.string key])
      (hop : valuesOf "op" ms = [.string token]) (htoken : Operator.ofToken token = .ok op)
      (hvalue : valuesOf "value" ms = [d]) (hd : SpellsValue d value) :
      Spells (.object ms) (.comparison ⟨key, op, value⟩)
  | logical {ms : List (String × Document)} {dl dr : Document} {token : String}
      {left right : Expression} {op : Operator}
      (htype : valuesOf "type" ms = [.string "logical"])
      (hleft : valuesOf "left" ms = [dl]) (hl : Spells dl left)
      (hop : valuesOf "op" ms = [.string token]) (htoken : Operator.ofToken token = .ok op)
      (hright : valuesOf "right" ms = [dr]) (hr : Spells dr right) :
      Spells (.object ms) (.logical left op right)
  | group {ms : List (String × Document)} {d : Document} {inner : Expression}
      (htype : valuesOf "type" ms = [.string "group"])
      (hinner : valuesOf "inner" ms = [d]) (hd : Spells d inner) :
      Spells (.object ms) (.group inner)

end Json.Document

theorem Variant.ofName_eq_ok_iff {s : String} {v : Variant} :
    Variant.ofName s = .ok v ↔ s = v.name := by
  constructor
  · intro h
    rw [Variant.ofName] at h
    cases hfind : Variant.all.find? fun v => v.name == s with
    | none =>
        rw [hfind] at h
        cases h
    | some w =>
        rw [hfind] at h
        cases h
        have hname := List.find?_some hfind
        exact (eq_of_beq hname).symm
  · rintro rfl
    exact Variant.ofName_name v

theorem Variant.name_inj {v w : Variant} : v.name = w.name ↔ v = w := by
  refine ⟨fun h => ?_, congrArg Variant.name⟩
  have hread := Variant.ofName_name v
  rw [h, Variant.ofName_name w] at hread
  cases hread
  rfl

theorem Variant.ofMembers_eq_ok_iff {found : Option Variant} {ms : List (String × Document)}
    {v : Variant} :
    Variant.ofMembers found ms = .ok v ↔
      Fills Variant.ofDocument found (valuesOf "type" ms) (some v) := by
  induction ms generalizing found with
  | nil =>
      rw [Variant.ofMembers, Json.required_eq_ok_iff]
      exact eq_comm
  | cons m ms ih =>
      obtain ⟨name, d⟩ := m
      rw [Variant.ofMembers]
      split
      · rename_i h
        subst h
        simp only [Json.fill_eq_ok_iff, Json.valuesOf_cons_self, Fills, ih]
      · rename_i h
        rw [Json.valuesOf_cons_of_ne h, ih]

theorem ComparisonFields.ofMembers_eq_ok_iff {f f' : ComparisonFields}
    {ms : List (String × Document)} :
    f.ofMembers ms = .ok f' ↔
      Fills keyOfDocument f.key (valuesOf "key" ms) f'.key ∧
      Fills Operator.ofDocument f.op (valuesOf "op" ms) f'.op ∧
      Fills Value.ofDocument f.value (valuesOf "value" ms) f'.value := by
  induction ms generalizing f with
  | nil =>
      obtain ⟨key, op, value⟩ := f
      obtain ⟨key', op', value'⟩ := f'
      simp only [ComparisonFields.ofMembers, Json.valuesOf_nil, Fills, Except.ok.injEq,
        ComparisonFields.mk.injEq, eq_comm]
  | cons m ms ih =>
      obtain ⟨name, d⟩ := m
      unfold ComparisonFields.ofMembers
      split
      case h_4 hkey hop hvalue =>
        rw [ih, Json.valuesOf_cons_of_ne hkey, Json.valuesOf_cons_of_ne hop,
          Json.valuesOf_cons_of_ne hvalue]
      -- A member of the name of a field fills that field and leaves the others as they are.
      all_goals
        simp only [Json.fill_eq_ok_iff, ih, Json.valuesOf_cons, reduceIte, String.reduceEq, Fills]
        grind

namespace Expression

theorem logicalOfMembers_eq_ok_iff {f f' : LogicalFields} {ms : List (String × Document)} :
    logicalOfMembers f ms = .ok f' ↔
      Fills ofDocument f.left (valuesOf "left" ms) f'.left ∧
      Fills Operator.ofDocument f.op (valuesOf "op" ms) f'.op ∧
      Fills ofDocument f.right (valuesOf "right" ms) f'.right := by
  induction ms generalizing f with
  | nil =>
      obtain ⟨left, op, right⟩ := f
      obtain ⟨left', op', right'⟩ := f'
      simp only [logicalOfMembers, Json.valuesOf_nil, Fills, Except.ok.injEq,
        LogicalFields.mk.injEq, eq_comm]
  | cons m ms ih =>
      obtain ⟨name, d⟩ := m
      unfold logicalOfMembers
      split
      case h_4 hleft hop hright =>
        rw [ih, Json.valuesOf_cons_of_ne hleft, Json.valuesOf_cons_of_ne hop,
          Json.valuesOf_cons_of_ne hright]
      all_goals
        simp only [Json.fill_eq_ok_iff, ih, Json.valuesOf_cons, reduceIte, String.reduceEq, Fills]
        grind

theorem groupOfMembers_eq_ok_iff {slot : Option Expression} {ms : List (String × Document)}
    {e : Expression} :
    groupOfMembers slot ms = .ok e ↔
      ∃ inner, Fills ofDocument slot (valuesOf "inner" ms) (some inner) ∧ e = .group inner := by
  induction ms generalizing slot with
  | nil =>
      cases slot with
      | none => simp [groupOfMembers, Json.required, Fills, Except.map]
      | some inner => simp [groupOfMembers, Json.required, Fills, Except.map, eq_comm]
  | cons m ms ih =>
      obtain ⟨name, d⟩ := m
      unfold groupOfMembers
      split
      · simp only [Json.fill_eq_ok_iff, ih, Json.valuesOf_cons_self, Fills]
        grind
      · rename_i hinner
        rw [ih, Json.valuesOf_cons_of_ne hinner]

end Expression

theorem Variant.ofMembers_none_eq_ok_iff {ms : List (String × Document)} {v : Variant} :
    Variant.ofMembers none ms = .ok v ↔ ReadsField Variant.ofDocument ms "type" v :=
  Variant.ofMembers_eq_ok_iff.trans Json.fills_none_some_iff

theorem ComparisonFields.finish_eq_ok_iff {f : ComparisonFields} {c : Comparison} :
    f.finish = .ok c ↔ f = ⟨some c.key, some c.op, some c.value⟩ := by
  obtain ⟨key, op, value⟩ := f
  obtain ⟨key', op', value'⟩ := c
  simp only [ComparisonFields.finish, Except.bind_eq_ok_iff, Json.required_eq_ok_iff,
    Except.ok.injEq, Comparison.mk.injEq, ComparisonFields.mk.injEq]
  constructor
  · rintro ⟨_, rfl, _, rfl, _, rfl, rfl, rfl, rfl⟩
    exact ⟨rfl, rfl, rfl⟩
  · rintro ⟨rfl, rfl, rfl⟩
    exact ⟨_, rfl, _, rfl, _, rfl, rfl, rfl, rfl⟩

theorem Comparison.ofMembers_eq_ok_iff {ms : List (String × Document)} {c : Comparison} :
    Comparison.ofMembers ms = .ok c ↔
      ReadsField keyOfDocument ms "key" c.key ∧ ReadsField Operator.ofDocument ms "op" c.op ∧
      ReadsField Value.ofDocument ms "value" c.value := by
  simp only [Comparison.ofMembers, Except.bind_eq_ok_iff, ComparisonFields.finish_eq_ok_iff,
    exists_eq_right, ComparisonFields.ofMembers_eq_ok_iff, Json.fills_none_some_iff, ReadsField]

theorem LogicalFields.finish_eq_ok_iff {f : LogicalFields} {e : Expression} :
    f.finish = .ok e ↔
      ∃ left op right, f = ⟨some left, some op, some right⟩ ∧ e = .logical left op right := by
  obtain ⟨left, op, right⟩ := f
  simp only [LogicalFields.finish, Except.bind_eq_ok_iff, Json.required_eq_ok_iff,
    Except.ok.injEq, LogicalFields.mk.injEq]
  constructor
  · rintro ⟨_, rfl, _, rfl, _, rfl, rfl⟩
    exact ⟨_, _, _, ⟨rfl, rfl, rfl⟩, rfl⟩
  · rintro ⟨_, _, _, ⟨rfl, rfl, rfl⟩, rfl⟩
    exact ⟨_, rfl, _, rfl, _, rfl, rfl⟩

namespace Expression

theorem ofContents_comparison_eq_ok_iff {ms : List (String × Document)} {e : Expression} :
    ofContents .comparison (.members ms) = .ok e ↔
      ∃ c : Comparison, (ReadsField keyOfDocument ms "key" c.key ∧
        ReadsField Operator.ofDocument ms "op" c.op ∧
        ReadsField Value.ofDocument ms "value" c.value) ∧ e = .comparison c := by
  simp only [← Comparison.ofMembers_eq_ok_iff, ofContents]
  cases Comparison.ofMembers ms with
  | error fault => simp only [Except.map, reduceCtorEq, false_and, exists_false]
  | ok c => simp only [Except.map, Except.ok.injEq, exists_eq_left', eq_comm]

theorem ofContents_logical_eq_ok_iff {ms : List (String × Document)} {e : Expression} :
    ofContents .logical (.members ms) = .ok e ↔
      ∃ left op right, (ReadsField ofDocument ms "left" left ∧
        ReadsField Operator.ofDocument ms "op" op ∧ ReadsField ofDocument ms "right" right) ∧
        e = .logical left op right := by
  simp only [ofContents, Except.bind_eq_ok_iff, LogicalFields.finish_eq_ok_iff,
    logicalOfMembers_eq_ok_iff]
  constructor
  · rintro ⟨_, h, left, op, right, rfl, rfl⟩
    simp only [Json.fills_none_some_iff] at h
    exact ⟨left, op, right, h, rfl⟩
  · rintro ⟨left, op, right, h, rfl⟩
    refine ⟨⟨some left, some op, some right⟩, ?_, left, op, right, rfl, rfl⟩
    simp only [Json.fills_none_some_iff]
    exact h

theorem ofContents_group_eq_ok_iff {ms : List (String × Document)} {e : Expression} :
    ofContents .group (.members ms) = .ok e ↔
      ∃ inner, ReadsField ofDocument ms "inner" inner ∧ e = .group inner := by
  simp only [ofContents, groupOfMembers_eq_ok_iff, Json.fills_none_some_iff, ReadsField]

theorem ofDocument_object_eq_ok_iff {ms : List (String × Document)} {e : Expression} :
    ofDocument (.object ms) = .ok e ↔
      ∃ v, ReadsField Variant.ofDocument ms "type" v ∧ ofContents v (.members ms) = .ok e := by
  have hread : ofDocument (.object ms) =
      (Variant.ofMembers none ms).bind fun v => ofContents v (.members ms) := by
    rw [ofDocument]
    cases Variant.ofMembers none ms with
    | error fault => rfl
    | ok v =>
        cases v with
        | comparison =>
            change (Comparison.ofMembers ms >>= fun c => .ok (comparison c)) =
              (Comparison.ofMembers ms).map comparison
            cases Comparison.ofMembers ms <;> rfl
        | logical => rfl
        | group => rfl
  simp only [← Variant.ofMembers_none_eq_ok_iff, hread]
  exact Except.bind_eq_ok_iff

end Expression

namespace Json.Document

theorem ofDocument?_eq_some_iff {d : Document} {s : Scalar} :
    Scalar.ofDocument? d = some s ↔ SpellsScalar d s := by
  constructor
  · intro h
    cases d with
    | bool b => cases h; exact .bool b
    | float x => cases h; exact .float x
    | string t => cases h; exact .string t
    | integer n =>
        cases h
        rw [Scalar.ofInteger]
        split
        · rename_i hword
          exact .integer n hword
        · rename_i hwide
          exact .wide n hwide
    | null => cases h
    | array items => cases h
    | object ms => cases h
  · intro h
    cases h with
    | bool b => rfl
    | float x => rfl
    | string t => rfl
    | integer n hword => rw [Scalar.ofDocument?, Scalar.ofInteger, if_pos hword]
    | wide n hwide => rw [Scalar.ofDocument?, Scalar.ofInteger, if_neg hwide]

theorem mapM_ofDocument?_eq_some_iff {ds : List Document} {items : List Scalar} :
    ds.mapM Scalar.ofDocument? = some items ↔ List.Forall₂ SpellsScalar ds items := by
  induction ds generalizing items with
  | nil => simp [eq_comm]
  | cons d ds ih =>
      simp only [List.mapM_cons, Option.bind_eq_bind, Option.bind_eq_some_iff, Option.pure_def,
        Option.some.injEq, ofDocument?_eq_some_iff, ih, List.forall₂_cons_left_iff]
      constructor
      · rintro ⟨s, hs, rest, hrest, rfl⟩
        exact ⟨s, rest, hs, hrest, rfl⟩
      · rintro ⟨s, rest, hs, hrest, rfl⟩
        exact ⟨s, hs, rest, hrest, rfl⟩

theorem valueOfDocument_eq_ok_iff {d : Document} {v : Value} :
    Value.ofDocument d = .ok v ↔ SpellsValue d v := by
  have hok : Value.ofDocument d = .ok v ↔ Value.ofDocument? d = some v := by
    rw [Value.ofDocument]
    cases Value.ofDocument? d with
    | none => simp only [reduceCtorEq]
    | some w => simp only [Except.ok.injEq, Option.some.injEq]
  rw [hok]
  constructor
  · intro h
    cases d with
    | array ds =>
        obtain ⟨items, hitems, rfl⟩ := Option.map_eq_some_iff.mp h
        exact .list (mapM_ofDocument?_eq_some_iff.mp hitems)
    | _ =>
        simp only [Value.ofDocument?, Option.map_eq_some_iff] at h
        obtain ⟨s, hs, rfl⟩ := h
        exact .scalar (ofDocument?_eq_some_iff.mp hs)
  · intro h
    cases h with
    | list h => rw [Value.ofDocument?, mapM_ofDocument?_eq_some_iff.mpr h, Option.map_some]
    | scalar h =>
        have hs := ofDocument?_eq_some_iff.mpr h
        cases h <;> exact congrArg (Option.map Value.scalar) hs

theorem keyOfDocument_eq_ok_iff {d : Document} {key : String} :
    keyOfDocument d = .ok key ↔ d = .string key := by
  constructor
  · intro h
    cases d <;> cases h
    rfl
  · rintro rfl
    rfl

theorem operatorOfDocument_eq_ok_iff {d : Document} {op : Operator} :
    Operator.ofDocument d = .ok op ↔ ∃ token, d = .string token ∧ Operator.ofToken token = .ok op := by
  have hname : ∀ token, Operator.ofName token = .ok op ↔ Operator.ofToken token = .ok op := by
    intro token
    rw [Operator.ofName]
    cases Operator.ofToken token with
    | error e => exact ⟨fun h => (nomatch h), fun h => (nomatch h)⟩
    | ok op' => simp only [Except.mapError, Except.ok.injEq]
  constructor
  · intro h
    cases d with
    | string token => exact ⟨token, rfl, (hname token).mp h⟩
    | _ => cases h
  · rintro ⟨token, rfl, h⟩
    exact (hname token).mpr h

end Json.Document

/-- The names under which a variant has expressions. -/
def Variant.operands : Variant → List String
  | comparison => []
  | logical => ["left", "right"]
  | group => ["inner"]

/-- Wherever an expression is called for there is an object, and its `type`s are strings. Below a node
an expression is called for under the names that its own tag gives. -/
inductive Json.Document.Tagged : Document → Prop
  | node {ms : List (String × Document)} (tags : ∀ d ∈ valuesOf "type" ms, ∃ s, d = .string s)
      (operands : ∀ v : Variant, valuesOf "type" ms = [.string v.name] →
        ∀ name ∈ v.operands, ∀ d ∈ valuesOf name ms, Tagged d) : Tagged (.object ms)

namespace Json.Document

theorem readsField_key_iff {ms : List (String × Document)} {key : String} :
    ReadsField keyOfDocument ms "key" key ↔ valuesOf "key" ms = [.string key] := by
  simp only [ReadsField, keyOfDocument_eq_ok_iff, exists_eq_right]

theorem readsField_op_iff {ms : List (String × Document)} {op : Operator} :
    ReadsField Operator.ofDocument ms "op" op ↔
      ∃ token, valuesOf "op" ms = [.string token] ∧ Operator.ofToken token = .ok op := by
  simp only [ReadsField, operatorOfDocument_eq_ok_iff]
  constructor
  · rintro ⟨_, hvalues, token, rfl, htoken⟩
    exact ⟨token, hvalues, htoken⟩
  · rintro ⟨token, hvalues, htoken⟩
    exact ⟨_, hvalues, token, rfl, htoken⟩

theorem readsField_type_name (ms : List (String × Document)) (v : Variant)
    (h : valuesOf "type" ms = [.string v.name]) : ReadsField Variant.ofDocument ms "type" v :=
  ⟨_, h, Variant.ofName_name v⟩

theorem Spells.ofDocument_eq_ok {d : Document} {e : Expression} (h : d.Spells e) :
    Expression.ofDocument d = .ok e := by
  induction h with
  | comparison htype hkey hop htoken hvalue hd =>
      refine Expression.ofDocument_object_eq_ok_iff.mpr
        ⟨.comparison, readsField_type_name _ _ htype, ?_⟩
      refine Expression.ofContents_comparison_eq_ok_iff.mpr ⟨_, ⟨?_, ?_, ?_⟩, rfl⟩
      · exact readsField_key_iff.mpr hkey
      · exact readsField_op_iff.mpr ⟨_, hop, htoken⟩
      · exact ⟨_, hvalue, valueOfDocument_eq_ok_iff.mpr hd⟩
  | logical htype hleft _ hop htoken hright _ ihl ihr =>
      refine Expression.ofDocument_object_eq_ok_iff.mpr
        ⟨.logical, readsField_type_name _ _ htype, ?_⟩
      exact Expression.ofContents_logical_eq_ok_iff.mpr
        ⟨_, _, _, ⟨⟨_, hleft, ihl⟩, readsField_op_iff.mpr ⟨_, hop, htoken⟩, ⟨_, hright, ihr⟩⟩, rfl⟩
  | group htype hinner _ ih =>
      refine Expression.ofDocument_object_eq_ok_iff.mpr
        ⟨.group, readsField_type_name _ _ htype, ?_⟩
      exact Expression.ofContents_group_eq_ok_iff.mpr ⟨_, ⟨_, hinner, ih⟩, rfl⟩

theorem Tagged.spells_of_ofDocument {d : Document} (h : d.Tagged) {e : Expression}
    (he : Expression.ofDocument d = .ok e) : d.Spells e := by
  induction h generalizing e with
  | node tags operands ih =>
      rename_i ms
      obtain ⟨v, ⟨t, hvalues, ht⟩, hcontents⟩ := Expression.ofDocument_object_eq_ok_iff.mp he
      obtain ⟨s, rfl⟩ := tags t (hvalues ▸ List.mem_singleton_self t)
      have htype : valuesOf "type" ms = [.string v.name] := by
        rw [hvalues, Variant.ofName_eq_ok_iff.mp ht]
      -- An operand is the one value under a name of the variant, so that it is tagged as well.
      have hoperand : ∀ name ∈ v.operands, ∀ inner,
          ReadsField Expression.ofDocument ms name inner →
            ∃ d, valuesOf name ms = [d] ∧ d.Spells inner := by
        rintro name hname inner ⟨d, hd, hread⟩
        exact ⟨d, hd, ih v htype name hname d (hd ▸ List.mem_singleton_self d) hread⟩
      cases v with
      | comparison =>
          obtain ⟨c, ⟨hkey, hop, d, hvalue, hd⟩, rfl⟩ :=
            Expression.ofContents_comparison_eq_ok_iff.mp hcontents
          obtain ⟨token, hop, htoken⟩ := readsField_op_iff.mp hop
          exact .comparison htype (readsField_key_iff.mp hkey) hop htoken hvalue
            (valueOfDocument_eq_ok_iff.mp hd)
      | logical =>
          obtain ⟨left, op, right, ⟨hleft, hop, hright⟩, rfl⟩ :=
            Expression.ofContents_logical_eq_ok_iff.mp hcontents
          obtain ⟨token, hop, htoken⟩ := readsField_op_iff.mp hop
          obtain ⟨dl, hdl, hl⟩ := hoperand "left" (by decide) left hleft
          obtain ⟨dr, hdr, hr⟩ := hoperand "right" (by decide) right hright
          exact .logical htype hdl hl hop htoken hdr hr
      | group =>
          obtain ⟨inner, hinner, rfl⟩ := Expression.ofContents_group_eq_ok_iff.mp hcontents
          obtain ⟨d, hd, hspells⟩ := hoperand "inner" (by decide) inner hinner
          exact .group htype hd hspells

theorem tagged_of_type {ms : List (String × Document)} {v : Variant}
    (htype : valuesOf "type" ms = [.string v.name])
    (h : ∀ name ∈ v.operands, ∀ d ∈ valuesOf name ms, Tagged d) : Tagged (.object ms) := by
  refine .node (fun d hd => ⟨v.name, List.mem_singleton.mp (htype ▸ hd)⟩) fun w hw => ?_
  rw [htype, List.cons.injEq, string.injEq, Variant.name_inj] at hw
  exact hw.1 ▸ h

theorem Spells.tagged {d : Document} {e : Expression} (h : d.Spells e) : d.Tagged := by
  induction h with
  | comparison htype => exact tagged_of_type (v := .comparison) htype fun _ hname => nomatch hname
  | logical htype hleft _ _ _ hright _ ihl ihr =>
      refine tagged_of_type (v := .logical) htype fun name hname d hd => ?_
      rcases List.mem_pair.mp hname with rfl | rfl
      · exact List.mem_singleton.mp (hleft ▸ hd) ▸ ihl
      · exact List.mem_singleton.mp (hright ▸ hd) ▸ ihr
  | group htype hinner _ ih =>
      refine tagged_of_type (v := .group) htype fun name hname d hd => ?_
      obtain rfl := List.mem_singleton.mp hname
      exact List.mem_singleton.mp (hinner ▸ hd) ▸ ih

theorem Tagged.ofDocument_eq_ok_iff {d : Document} (h : d.Tagged) {e : Expression} :
    Expression.ofDocument d = .ok e ↔ d.Spells e :=
  ⟨h.spells_of_ofDocument, Spells.ofDocument_eq_ok⟩

end Json.Document

end FilterClause
