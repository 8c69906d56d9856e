import FilterClause.Proofs.Reshaping
import FilterClause.Proofs.Walking

/-!
Which texts are read as expressions. A text that is a document is read exactly if the document spells a
tree, and then as that tree. At the root the tag and the members are taken from the text itself, below it
from the document; the two agree.
-/

namespace FilterClause

open Json (Document Fault valuesOf Fills ReadsField)

namespace Source

/-- What the reader of a node keeps of a member. -/
def taggedNext (t : Tagged) (m : String × Document) : Option Tagged :=
  if m.1 = "type" then
    Json.once t.variant (Variant.ofDocument m.2).toOption fun v => { t with variant := some v }
  else some { t with members := m :: t.members }

theorem readsAs_readVariant (budget : Nat) :
    Json.ReadsAs budget readVariant (fun d => (Variant.ofDocument d).toOption)
      fun d => ∃ s, d = .string s := by
  constructor
  rintro text rest _ h ⟨s, rfl⟩ v last
  change _ ↔ (Variant.ofName s).toOption = some v ∧ last = rest
  rw [readVariant, Json.readStringValue_of_readDocument h]
  cases hname : Variant.ofName s with
  | error fault => simp only [hname, Except.toOption, reduceCtorEq, false_and]
  | ok w =>
      simp only [hname, Except.ok.injEq, Prod.mk.injEq, Except.toOption, Option.some.injEq, eq_comm]

theorem taggedMember_eq_ok_iff {budget : Nat} {t t' : Tagged} {name : String} {d : Document}
    {text rest last : List Char}
    (h : Json.readMemberValue (Json.readDocument budget) text = .ok (d, rest))
    (htag : name = "type" → ∃ s, d = .string s) :
    taggedMember budget t name text = .ok (t', last) ↔
      taggedNext t (name, d) = some t' ∧ last = rest := by
  rw [taggedMember, taggedNext]
  by_cases hname : name = "type"
  · simp only [if_pos hname]
    exact (readsAs_readVariant budget).readField_eq_ok_iff h (htag hname)
      fun v => { t with variant := some v }
  · simp only [if_neg hname, Json.collectMember_eq_map, h, Except.map, Except.ok.injEq,
      Prod.mk.injEq, Option.some.injEq, eq_comm]

theorem foldlM_taggedNext_eq_some_iff {t t' : Tagged} {ms : List (String × Document)} :
    ms.foldlM taggedNext t = some t' ↔
      Fills Variant.ofDocument t.variant (valuesOf "type" ms) t'.variant ∧
        t'.members = (ms.filter fun m => m.1 ≠ "type").reverse ++ t.members := by
  induction ms generalizing t with
  | nil =>
      obtain ⟨v, ms⟩ := t
      obtain ⟨v', ms'⟩ := t'
      simp only [List.foldlM_nil, Option.pure_def, Option.some.injEq, Tagged.mk.injEq,
        Json.valuesOf_nil, Fills, List.filter_nil, List.reverse_nil, List.nil_append, eq_comm]
  | cons m ms ih =>
      obtain ⟨name, d⟩ := m
      simp only [List.foldlM_cons, Option.bind_eq_bind, Option.bind_eq_some_iff, ih, taggedNext]
      by_cases hname : name = "type"
      · subst hname
        cases t.variant with
        | none =>
            simp only [if_true, Json.once, Option.map_eq_some_iff, Except.toOption_eq_some_iff,
              Json.valuesOf_cons_self, Fills, true_and, ne_eq, not_true_eq_false, decide_false,
              Bool.false_eq_true, not_false_eq_true, List.filter_cons_of_neg]
            grind
        | some v => simp [Json.once, Fills]
      · rw [Json.valuesOf_cons_of_ne hname]
        simp [hname]

theorem nodeOfMembers_eq_ok_iff {budget : Nat} {body rest : List Char} {v : Variant}
    {contents : Expression.Contents} :
    nodeOfMembers budget body = .ok ((v, contents), rest) ↔
      ∃ t, Json.recordMembers (taggedMember budget) {} body = .ok (t, rest) ∧
        t.variant = some v ∧ contents = .members t.members.reverse := by
  simp only [nodeOfMembers, Except.bind_eq_ok_iff, Prod.exists, Json.settle_eq_ok_iff,
    Json.required_eq_ok_iff, Except.ok.injEq, Prod.mk.injEq]
  constructor
  · rintro ⟨t, _, ht, _, _, ⟨hv, rfl⟩, ⟨rfl, rfl⟩, rfl⟩
    exact ⟨t, ht, hv, rfl⟩
  · rintro ⟨t, ht, hv, rfl⟩
    exact ⟨t, rest, ht, v, rest, ⟨hv, rfl⟩, ⟨rfl, rfl⟩, rfl⟩

theorem enclose_nodeOfMembers_eq_ok_iff {budget : Nat} {body last : List Char} {v : Variant}
    {contents : Expression.Contents} :
    Json.Bracket.object.enclose (nodeOfMembers budget) body = .ok ((v, contents), last) ↔
      ∃ t, Json.Bracket.object.enclose (Json.recordMembers (taggedMember budget) {}) body =
          .ok (t, last) ∧
        t.variant = some v ∧ contents = .members t.members.reverse := by
  simp only [Json.Bracket.enclose_eq_ok_iff, nodeOfMembers_eq_ok_iff]
  constructor
  · rintro ⟨inner, ⟨t, ht, hv, hcontents⟩, hclose⟩
    exact ⟨t, ⟨inner, ht, hclose⟩, hv, hcontents⟩
  · rintro ⟨t, ⟨inner, ht, hclose⟩, hv, hcontents⟩
    exact ⟨inner, ⟨t, ht, hv, hcontents⟩, hclose⟩

theorem readNode_eq_ok_iff {budget : Nat} {text rest last : List Char}
    {ms : List (String × Document)} {v : Variant} {contents : Expression.Contents}
    (h : Json.readDocument budget text = .ok (.object ms, rest))
    (htags : ∀ d ∈ valuesOf "type" ms, ∃ s, d = .string s) :
    readNode budget text = .ok ((v, contents), last) ↔
      ReadsField Variant.ofDocument ms "type" v ∧
        contents = .members (ms.filter fun m => m.1 ≠ "type") ∧ last = rest := by
  obtain ⟨budget, body, rfl, htext, hbody⟩ := Json.exists_members_of_readDocument h
  have hnode : readNode (budget + 1) text =
      Json.Bracket.object.enclose (nodeOfMembers budget) body := by
    simp only [readNode, Json.readRecord, htext]
  have hstring : ∀ m ∈ ms, m.1 = "type" → ∃ s, m.2 = .string s := by
    rintro ⟨name, d⟩ hm rfl
    exact htags d (Json.mem_valuesOf.mpr hm)
  have hwalk : ∀ t, Json.Bracket.object.enclose (Json.recordMembers (taggedMember budget) {}) body =
      .ok (t, last) ↔ ms.foldlM taggedNext {} = some t ∧ last = rest := fun t =>
    Json.enclose_recordMembers_eq_ok_iff taggedNext hbody
      (fun _ _ _ _ _ hread htag _ _ => taggedMember_eq_ok_iff hread htag) hstring
  rw [hnode, enclose_nodeOfMembers_eq_ok_iff]
  simp only [hwalk, foldlM_taggedNext_eq_some_iff, ReadsField, ← Json.fills_none_some_iff,
    List.append_nil]
  constructor
  · rintro ⟨t, ⟨⟨hfills, hms⟩, hlast⟩, hv, hcontents⟩
    rw [hms, List.reverse_reverse] at hcontents
    exact ⟨hv ▸ hfills, hcontents, hlast⟩
  · rintro ⟨hfills, hcontents, hlast⟩
    refine ⟨⟨some v, (ms.filter fun m => m.1 ≠ "type").reverse⟩, ⟨⟨hfills, rfl⟩, hlast⟩, rfl, ?_⟩
    rw [List.reverse_reverse, hcontents]

theorem ofContents_filter_type_eq_ok_iff {v : Variant} {ms : List (String × Document)}
    {e : Expression} :
    Expression.ofContents v (.members (ms.filter fun m => m.1 ≠ "type")) = .ok e ↔
      Expression.ofContents v (.members ms) = .ok e := by
  have hkey : "key" ≠ "type" := by decide
  have hop : "op" ≠ "type" := by decide
  have hvalue : "value" ≠ "type" := by decide
  have hleft : "left" ≠ "type" := by decide
  have hright : "right" ≠ "type" := by decide
  have hinner : "inner" ≠ "type" := by decide
  cases v with
  | comparison =>
      simp only [Expression.ofContents_comparison_eq_ok_iff, Json.readsField_filter_ne hkey,
        Json.readsField_filter_ne hop, Json.readsField_filter_ne hvalue]
  | logical =>
      simp only [Expression.ofContents_logical_eq_ok_iff, Json.readsField_filter_ne hleft,
        Json.readsField_filter_ne hop, Json.readsField_filter_ne hright]
  | group =>
      simp only [Expression.ofContents_group_eq_ok_iff, Json.readsField_filter_ne hinner]

theorem readExpression_eq_ok_iff {budget : Nat} {text rest last : List Char}
    {ms : List (String × Document)} {e : Expression}
    (h : Json.readDocument budget text = .ok (.object ms, rest))
    (htags : ∀ d ∈ valuesOf "type" ms, ∃ s, d = .string s) :
    readExpression budget text = .ok (e, last) ↔
      Expression.ofDocument (.object ms) = .ok e ∧ last = rest := by
  have hbind : readExpression budget text =
      (readNode budget text).bind fun node =>
        Json.settle (Expression.ofContents node.1.1 node.1.2) node.2 := by
    rw [readExpression]
    cases readNode budget text <;> rfl
  have hnode : ∀ v contents last, readNode budget text = .ok ((v, contents), last) ↔ _ :=
    fun v contents last => readNode_eq_ok_iff h htags
  rw [hbind]
  refine Except.bind_eq_ok_iff.trans ?_
  simp only [Prod.exists, hnode, Json.settle_eq_ok_iff, Expression.ofDocument_object_eq_ok_iff]
  constructor
  · rintro ⟨v, _, _, ⟨htype, rfl, rfl⟩, he, rfl⟩
    exact ⟨⟨v, htype, ofContents_filter_type_eq_ok_iff.mp he⟩, rfl⟩
  · rintro ⟨⟨v, htype, he⟩, rfl⟩
    exact ⟨v, _, last, ⟨htype, rfl, rfl⟩, ofContents_filter_type_eq_ok_iff.mpr he, rfl⟩

end Source

theorem parseJson_eq_ok_iff {text : String} {e : Expression} :
    parseJson text = .ok e ↔ Source.parse Source.readExpression text = .ok e := by
  rw [parseJson]
  cases Source.parse Source.readExpression text with
  | error report => simp only [Except.mapError, reduceCtorEq]
  | ok e' => simp only [Except.mapError, Except.ok.injEq]

theorem exists_report_of_parseJson_ne_ok {text : String} (h : ∀ e, parseJson text ≠ .ok e) :
    ∃ report, parseJson text = .error (.invalidExpression report) := by
  cases hparse : Source.parse Source.readExpression text with
  | error report => exact ⟨report, by rw [parseJson, hparse, Except.mapError]⟩
  | ok e => exact absurd (parseJson_eq_ok_iff.mpr hparse) (h e)

theorem parseJson_eq_ok_iff_ofDocument {text : String} {d : Document}
    (hread : Json.readText (Json.readDocument Json.nestingLimit) text = .ok d) (htagged : d.Tagged)
    {e : Expression} : parseJson text = .ok e ↔ Expression.ofDocument d = .ok e := by
  obtain ⟨rest, hdocument, hrest⟩ := Json.readText_eq_ok_iff.mp hread
  cases htagged with
  | node tags operands =>
      rw [parseJson_eq_ok_iff, Source.parse, Json.readText_eq_ok_iff]
      simp only [Source.readExpression_eq_ok_iff hdocument tags]
      constructor
      · rintro ⟨_, ⟨he, rfl⟩, _⟩
        exact he
      · exact fun he => ⟨rest, ⟨he, rfl⟩, hrest⟩

/-- A text that is a document, with a tagged object wherever an expression is called for, is read as a
tree exactly if the document spells the tree. If it spells none the text is refused as an expression, and
any other text is read alike whose document differs in the order of members and in members that are no
fields. -/
theorem parseJson_eq_ok_iff_spells {text : String} {d : Document}
    (hread : Json.readText (Json.readDocument Json.nestingLimit) text = .ok d)
    (htagged : d.Tagged) :
    (∀ e, parseJson text = .ok e ↔ d.Spells e) ∧
    ((¬ ∃ e, d.Spells e) → ∃ report, parseJson text = .error (.invalidExpression report)) ∧
    ∀ text' d', Json.readText (Json.readDocument Json.nestingLimit) text' = .ok d' →
      d.Reshaped d' → ∀ e, parseJson text' = .ok e ↔ parseJson text = .ok e := by
  have hspells : ∀ {text d}, Json.readText (Json.readDocument Json.nestingLimit) text = .ok d →
      d.Tagged → ∀ e, parseJson text = .ok e ↔ d.Spells e := fun hread htagged _ =>
    (parseJson_eq_ok_iff_ofDocument hread htagged).trans htagged.ofDocument_eq_ok_iff
  refine ⟨hspells hread htagged, fun hnone => ?_, fun text' d' hread' hreshaped e => ?_⟩
  · exact exists_report_of_parseJson_ne_ok fun e he => hnone ⟨e, (hspells hread htagged e).mp he⟩
  · rw [hspells hread htagged, hspells hread' (hreshaped.alike.tagged.mp htagged),
      hreshaped.alike.spells]

/-- A group whose members and whose comparison's members are out of order and stand among others. -/
def scattered (more : List (String × Document)) : Document :=
  .object [("inner", .object (more ++ [("value", .array [.integer 1, .string "a"]), ("left", .null),
      ("op", .string " iN\n"), ("left", .object []), ("key", .string "k"),
      ("type", .string "comparison")])),
    ("key", .integer 3), ("type", .string "group"), ("key", .null)]

/-- The scattered group is read, and is refused with the key of the comparison given twice. -/
theorem parseJson_scattered :
    parseJson (scattered []).indented =
      .ok (.group (.comparison ⟨"k", .isIn, .list [.int 1, .string "a"]⟩)) ∧
    ∃ report, parseJson (scattered [("key", .string "k")]).indented =
      .error (.invalidExpression report) := by
  constructor
  · have hspells : (scattered []).Spells
        (.group (.comparison ⟨"k", .isIn, .list [.int 1, .string "a"]⟩)) := by
      refine .group rfl rfl (.comparison rfl rfl rfl (by decide) rfl (.list ?_))
      exact .cons (.integer 1 (by decide)) (.cons (.string "a") .nil)
    refine ((parseJson_eq_ok_iff_spells ?_ hspells.tagged).1 _).mpr hspells
    rw [Json.readText, Document.indented, String.toList_ofList]
    rfl
  · have htagged : (scattered [("key", .string "k")]).Tagged := by
      refine Document.tagged_of_type (v := .group) rfl fun name hname d hd => ?_
      obtain rfl := List.mem_singleton.mp hname
      obtain rfl := List.mem_singleton.mp hd
      exact Document.tagged_of_type (v := .comparison) rfl fun _ hname => absurd hname List.not_mem_nil
    have hnone : ¬ ∃ e, (scattered [("key", .string "k")]).Spells e := by
      rintro ⟨e, h⟩
      have hfault : Expression.ofDocument (scattered [("key", .string "k")]) =
          .error (.duplicateField "key") := rfl
      rw [h.ofDocument_eq_ok] at hfault
      cases hfault
    refine (parseJson_eq_ok_iff_spells ?_ htagged).2.1 hnone
    rw [Json.readText, Document.indented, String.toList_ofList]
    rfl

end FilterClause
