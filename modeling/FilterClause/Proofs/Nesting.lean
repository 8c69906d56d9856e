import FilterClause.Proofs.Acceptance
import FilterClause.Proofs.Following

/-!
How deep what has been read nests. A document nests no deeper than the budget of its reader, and a tree no
deeper than the document it is read from, in whatever form its nodes are given there.
-/

namespace FilterClause

open Json (Document Reader)

namespace Json

/-- Whatever is read has the property. -/
def ReadsOnly {α : Type} (value : Reader α) (p : α → Prop) : Prop :=
  ∀ text a rest, value text = .ok (a, rest) → p a

namespace ReadsOnly

variable {α β σ : Type} {value : Reader α} {p : α → Prop}

theorem follows (h : ReadsOnly value p) : Follows value value fun b a => b = a ∧ p a := by
  intro text a rest hread
  exact ⟨a, hread, rfl, h text a rest hread⟩

theorem of_follows (h : Follows value value fun b a => b = a ∧ p a) : ReadsOnly value p := by
  intro text a rest hread
  obtain ⟨b, -, -, ha⟩ := h text a rest hread
  exact ha

theorem map (h : ReadsOnly value p) {q : β → Prop} {f : α → β} (hf : ∀ a, p a → q (f a)) :
    ReadsOnly (fun text => (value text).map fun read => (f read.1, read.2)) q := by
  apply of_follows
  apply h.follows.map
  rintro b a ⟨rfl, ha⟩
  exact ⟨rfl, hf b ha⟩

theorem memberValue (h : ReadsOnly value p) : ReadsOnly (readMemberValue value) p :=
  of_follows h.follows.memberValue

theorem enclose (h : ReadsOnly value p) (b : Bracket) : ReadsOnly (b.enclose value) p :=
  of_follows (h.follows.enclose b)

theorem collect (h : ReadsOnly value p) {collected : List α} (hcollected : ∀ a ∈ collected, p a) :
    ReadsOnly (Json.collect value collected) fun items => ∀ a ∈ items, p a := by
  have hread := h.map (q := fun items => ∀ a ∈ items, p a) (f := fun a => a :: collected)
    fun a ha => List.forall_mem_cons.mpr ⟨ha, hcollected⟩
  intro text
  rw [collect_eq_map]
  exact hread text

theorem collectMember (h : ReadsOnly value p) {collected : List (String × α)}
    (hcollected : ∀ m ∈ collected, p m.2) (name : String) :
    ReadsOnly (Json.collectMember value collected name) fun ms => ∀ m ∈ ms, p m.2 := by
  have hread := h.memberValue.map (q := fun ms => ∀ m ∈ ms, p m.2)
    (f := fun a => (name, a) :: collected) fun a ha => List.forall_mem_cons.mpr ⟨ha, hcollected⟩
  intro text
  rw [collectMember_eq_map]
  exact hread text

theorem foldElements {step : σ → Reader σ} {p : σ → Prop} (h : ∀ s, p s → ReadsOnly (step s) p)
    (ticks : List Char) (first : Bool) {s : σ} (hs : p s) :
    ReadsOnly (Json.foldElements step ticks first s) p := by
  intro text last rest hread
  induction ticks generalizing first s text with
  | nil => cases hread
  | cons tick ticks ih =>
      rw [Json.foldElements] at hread
      split at hread
      · cases hread
      · cases hread
        exact hs
      · rename_i inner hnext
        split at hread
        · cases hread
        · rename_i s₁ rest₁ hstep
          exact ih false (h s hs inner s₁ rest₁ hstep) rest₁ hread

theorem foldMembers {step : σ → String → Reader σ} {p : σ → Prop}
    (h : ∀ s, p s → ∀ name, ReadsOnly (step s name) p) (ticks : List Char) (first : Bool) {s : σ}
    (hs : p s) : ReadsOnly (Json.foldMembers step ticks first s) p := by
  apply of_follows
  apply Follows.foldMembers (S := fun t s => t = s ∧ p s) _ ticks first ⟨rfl, hs⟩
  rintro t s ⟨rfl, hs⟩ name
  exact (h t hs name).follows

theorem record {expected : String} {ofArray ofObject : Nat → Reader α} {budget : Nat}
    (harray : ∀ inner, budget = inner + 1 → ReadsOnly (ofArray inner) p)
    (hobject : ∀ inner, budget = inner + 1 → ReadsOnly (ofObject inner) p) :
    ReadsOnly (readRecord expected ofArray ofObject budget) p := by
  intro text a rest hread
  unfold readRecord at hread
  split at hread
  · cases budget with
    | zero => cases hread
    | succ inner => exact (harray inner rfl).enclose .array _ a rest hread
  · cases budget with
    | zero => cases hread
    | succ inner => exact (hobject inner rfl).enclose .object _ a rest hread
  · exact absurd hread (refuse_ne_ok expected _ _)

end ReadsOnly

theorem nesting_of_readAtom {text rest : List Char} {d : Document}
    (h : readAtom text = .ok (d, rest)) : d.nesting = 0 := by
  cases readsAtom_of_eq_ok h <;> rfl

theorem readsOnly_readDocument (budget : Nat) :
    ReadsOnly (readDocument budget) fun d => d.nesting ≤ budget := by
  induction budget with
  | zero =>
      intro text d rest h
      cases readsDocument_of_eq_ok h with
      | atom hatom => exact Nat.le_of_eq (nesting_of_readAtom hatom)
  | succ budget ih =>
      intro text d rest h
      cases readsDocument_of_eq_ok h with
      | @array _ _ body items _ htext hbody =>
          have hitems : ReadsOnly (elements (Json.collect (readDocument budget)) [])
              fun items => ∀ d ∈ items, d.nesting ≤ budget := by
            refine ReadsOnly.enclose (fun text => ?_) .array
            exact ReadsOnly.foldElements (fun _ => ih.collect) (Text.clock text) true
              (List.forall_mem_nil _) text
          rw [Document.nesting, Nat.add_le_add_iff_right, Document.itemsNesting_le_iff]
          intro d hd
          exact hitems body items rest hbody d (List.mem_reverse.mp hd)
      | @object _ _ body ms _ htext hbody =>
          have hmembers : ReadsOnly (members (Json.collectMember (readDocument budget)) [])
              fun ms => ∀ m ∈ ms, m.2.nesting ≤ budget := by
            refine ReadsOnly.enclose (fun text => ?_) .object
            exact ReadsOnly.foldMembers (fun _ => ih.collectMember) (Text.clock text) true
              (List.forall_mem_nil _) text
          rw [Document.nesting, Nat.add_le_add_iff_right, Document.membersNesting_le_iff]
          intro m hm
          exact hmembers body ms rest hbody m (List.mem_reverse.mp hm)
      | atom hatom => exact nesting_of_readAtom hatom ▸ Nat.zero_le (budget + 1)

end Json

namespace Expression

/-- The documents among which the parts of a node are looked for. -/
def Contents.documents : Contents → List Document
  | members ms => ms.map Prod.snd
  | items ds => ds

/-- What nests in the node is read from some of the documents. -/
inductive Composed (ds : List Document) : Expression → Prop
  | comparison {c : Comparison} {d : Document} (hd : d ∈ ds) (h : Value.ofDocument d = .ok c.value) :
      Composed ds (comparison c)
  | logical {left right : Expression} {op : Operator} {dl dr : Document} (hdl : dl ∈ ds)
      (hl : ofDocument dl = .ok left) (hdr : dr ∈ ds) (hr : ofDocument dr = .ok right) :
      Composed ds (logical left op right)
  | group {inner : Expression} {d : Document} (hd : d ∈ ds) (h : ofDocument d = .ok inner) :
      Composed ds (group inner)

theorem exists_of_comparisonItems {ds : List Document} {c : Comparison}
    (h : Comparison.ofItems ds = .ok c) :
    ∃ key op value, ds = [key, op, value] ∧ keyOfDocument key = .ok c.key ∧
      Operator.ofDocument op = .ok c.op ∧ Value.ofDocument value = .ok c.value := by
  cases ds with
  | nil => cases h
  | cons key ds =>
      obtain ⟨k, hk, h⟩ := Except.bind_eq_ok_iff.mp h
      cases ds with
      | nil => cases h
      | cons op ds =>
          obtain ⟨o, ho, h⟩ := Except.bind_eq_ok_iff.mp h
          cases ds with
          | nil => cases h
          | cons value ds =>
              obtain ⟨v, hv, h⟩ := Except.bind_eq_ok_iff.mp h
              cases ds with
              | nil =>
                  cases h
                  exact ⟨key, op, value, rfl, hk, ho, hv⟩
              | cons d ds => cases h

theorem exists_of_logicalItems {ds : List Document} {e : Expression}
    (h : logicalOfItems ds = .ok e) :
    ∃ dl dop dr left op right, ds = [dl, dop, dr] ∧ ofDocument dl = .ok left ∧
      ofDocument dr = .ok right ∧ e = .logical left op right := by
  cases ds with
  | nil =>
      rw [logicalOfItems] at h
      cases h
  | cons dl ds =>
      rw [logicalOfItems] at h
      obtain ⟨left, hl, h⟩ := Except.bind_eq_ok_iff.mp h
      cases ds with
      | nil => cases h
      | cons dop ds =>
          obtain ⟨op, -, h⟩ := Except.bind_eq_ok_iff.mp h
          cases ds with
          | nil => cases h
          | cons dr ds =>
              obtain ⟨right, hr, h⟩ := Except.bind_eq_ok_iff.mp h
              cases ds with
              | nil =>
                  cases h
                  exact ⟨dl, dop, dr, left, op, right, rfl, hl, hr, rfl⟩
              | cons d ds => cases h

theorem exists_of_groupItems {ds : List Document} {e : Expression} (h : groupOfItems ds = .ok e) :
    ∃ d inner, ds = [d] ∧ ofDocument d = .ok inner ∧ e = .group inner := by
  cases ds with
  | nil =>
      rw [groupOfItems] at h
      cases h
  | cons d ds =>
      rw [groupOfItems] at h
      obtain ⟨inner, hd, h⟩ := Except.bind_eq_ok_iff.mp h
      cases ds with
      | nil =>
          cases h
          exact ⟨d, inner, rfl, hd, rfl⟩
      | cons d' ds => cases h

/-- The document that a node has for a field: the one under its name, or the one at its place. -/
inductive Contents.Field (name : String) (place : Nat) : Contents → Document → Prop
  | named {ms : List (String × Document)} {d : Document} (h : Json.valuesOf name ms = [d]) :
      Field name place (members ms) d
  | placed {ds : List Document} {d : Document} (h : ds[place]? = some d) :
      Field name place (items ds) d

/-- What is read at the fields of a node. -/
inductive Contents.Makes (contents : Contents) : Expression → Prop
  | comparison {c : Comparison} {d : Document} (hd : contents.Field "value" 2 d)
      (h : Value.ofDocument d = .ok c.value) : Makes contents (comparison c)
  | logical {left right : Expression} {op : Operator} {dl dr : Document}
      (hdl : contents.Field "left" 0 dl) (hl : ofDocument dl = .ok left)
      (hdr : contents.Field "right" 2 dr) (hr : ofDocument dr = .ok right) :
      Makes contents (logical left op right)
  | group {inner : Expression} {d : Document} (hd : contents.Field "inner" 0 d)
      (h : ofDocument d = .ok inner) : Makes contents (group inner)

theorem makes_of_ofContents {v : Variant} {contents : Contents} {e : Expression}
    (h : ofContents v contents = .ok e) : contents.Makes e := by
  cases contents with
  | members ms =>
      cases v with
      | comparison =>
          obtain ⟨c, ⟨-, -, d, hd, hvalue⟩, rfl⟩ := ofContents_comparison_eq_ok_iff.mp h
          exact .comparison (.named hd) hvalue
      | logical =>
          obtain ⟨left, op, right, ⟨⟨dl, hdl, hl⟩, -, dr, hdr, hr⟩, rfl⟩ :=
            ofContents_logical_eq_ok_iff.mp h
          exact .logical (.named hdl) hl (.named hdr) hr
      | group =>
          obtain ⟨inner, ⟨d, hd, hinner⟩, rfl⟩ := ofContents_group_eq_ok_iff.mp h
          exact .group (.named hd) hinner
  | items ds =>
      cases v with
      | comparison =>
          obtain ⟨c, hc, rfl⟩ := Except.map_eq_ok_iff.mp h
          obtain ⟨key, op, value, rfl, -, -, hvalue⟩ := exists_of_comparisonItems hc
          exact .comparison (.placed rfl) hvalue
      | logical =>
          obtain ⟨dl, dop, dr, left, op, right, rfl, hl, hr, rfl⟩ := exists_of_logicalItems h
          exact .logical (.placed rfl) hl (.placed rfl) hr
      | group =>
          obtain ⟨d, inner, rfl, hinner, rfl⟩ := exists_of_groupItems h
          exact .group (.placed rfl) hinner

theorem Contents.Field.mem {contents : Contents} {name : String} {place : Nat} {d : Document}
    (h : contents.Field name place d) : d ∈ contents.documents := by
  cases h with
  | @named ms _ h =>
      have hmem : (name, d) ∈ ms := Json.mem_valuesOf.mp (h ▸ List.mem_singleton_self d)
      exact List.mem_map_of_mem hmem
  | placed h => exact List.mem_of_getElem? h

theorem composed_of_ofContents {v : Variant} {contents : Contents} {e : Expression}
    (h : ofContents v contents = .ok e) : Composed contents.documents e := by
  cases makes_of_ofContents h with
  | comparison hd hvalue => exact .comparison hd.mem hvalue
  | logical hdl hl hdr hr => exact .logical hdl.mem hl hdr.mem hr
  | group hd hinner => exact .group hd.mem hinner

theorem ofDocument_array_eq_ok {tag : Document} {items : List Document} {e : Expression}
    (h : ofDocument (.array (tag :: items)) = .ok e) :
    ∃ v, Variant.ofDocument tag = .ok v ∧ ofContents v (.items items) = .ok e := by
  rw [ofDocument] at h
  obtain ⟨v, hv, h⟩ := Except.bind_eq_ok_iff.mp h
  refine ⟨v, hv, ?_⟩
  cases v with
  | comparison =>
      obtain ⟨c, hc, he⟩ := Except.bind_eq_ok_iff.mp h
      cases he
      exact Except.map_eq_ok_iff.mpr ⟨c, hc, rfl⟩
  | logical => exact h
  | group => exact h

/-- The parts of a node nest less deep than the node. -/
theorem exists_composed_of_ofDocument {d : Document} {e : Expression} (h : ofDocument d = .ok e) :
    ∃ ds, Composed ds e ∧ ∀ d' ∈ ds, d'.nesting < d.nesting := by
  cases d with
  | object ms =>
      obtain ⟨v, -, he⟩ := ofDocument_object_eq_ok_iff.mp h
      refine ⟨_, composed_of_ofContents he, ?_⟩
      intro d' hd'
      obtain ⟨m, hm, rfl⟩ := List.mem_map.mp hd'
      exact Nat.lt_succ_of_le (Document.membersNesting_le_iff.mp (Nat.le_refl _) m hm)
  | array items =>
      cases items with
      | nil =>
          rw [ofDocument] at h
          cases h
      | cons tag items =>
          obtain ⟨v, -, he⟩ := ofDocument_array_eq_ok h
          refine ⟨items, composed_of_ofContents he, ?_⟩
          intro d' hd'
          exact Nat.lt_succ_of_le (Document.itemsNesting_le_iff.mp (Nat.le_refl _) d'
            (List.mem_cons_of_mem tag hd'))
  | _ =>
      simp only [ofDocument] at h
      cases h

theorem nesting_value_le {d : Document} {v : Value} (h : Value.ofDocument d = .ok v) :
    v.toDocument.nesting ≤ d.nesting := by
  rw [nesting_value]
  cases Document.valueOfDocument_eq_ok_iff.mp h with
  | scalar h => exact Nat.zero_le _
  | list h => exact Nat.succ_le_succ (Nat.zero_le _)

theorem Composed.nesting_le {ds : List Document} {e : Expression} (h : Composed ds e) {n : Nat}
    (hds : ∀ d ∈ ds, d.nesting < n) : e.nesting ≤ n := by
  rw [nesting_eq]
  induction e generalizing ds n with
  | comparison c =>
      cases h with
      | comparison hd h =>
          have hvalue := Nat.lt_of_le_of_lt (nesting_value_le h) (hds _ hd)
          simp only [toDocument, Operator.toDocument, Document.nesting, Document.membersNesting]
          omega
  | logical left op right ihl ihr =>
      cases h with
      | logical hdl hl hdr hr =>
          obtain ⟨dsl, hcomposed, hdsl⟩ := exists_composed_of_ofDocument hl
          have hleft := Nat.lt_of_le_of_lt (ihl hcomposed hdsl) (hds _ hdl)
          obtain ⟨dsr, hcomposed, hdsr⟩ := exists_composed_of_ofDocument hr
          have hright := Nat.lt_of_le_of_lt (ihr hcomposed hdsr) (hds _ hdr)
          simp only [toDocument, Operator.toDocument, Document.nesting, Document.membersNesting]
          omega
  | group inner ih =>
      cases h with
      | group hd h =>
          obtain ⟨ds', hcomposed, hds'⟩ := exists_composed_of_ofDocument h
          have hinner := Nat.lt_of_le_of_lt (ih hcomposed hds') (hds _ hd)
          simp only [toDocument, Document.nesting, Document.membersNesting]
          omega

theorem depth_le_nesting (e : Expression) : e.depth ≤ e.nesting := by
  rw [nesting_eq]
  induction e with
  | comparison c =>
      simp only [depth, toDocument, Document.nesting]
      omega
  | logical left op right ihl ihr =>
      simp only [depth, toDocument, Document.nesting, Document.membersNesting]
      omega
  | group inner ih =>
      simp only [depth, toDocument, Document.nesting, Document.membersNesting]
      omega

end Expression

namespace Source

theorem readsOnly_taggedMember (budget : Nat) (t : Tagged)
    (ht : ∀ m ∈ t.members, m.2.nesting ≤ budget) (name : String) :
    Json.ReadsOnly (taggedMember budget t name) fun t => ∀ m ∈ t.members, m.2.nesting ≤ budget := by
  intro text t' rest h
  rw [taggedMember] at h
  split at h
  · obtain ⟨read, -, hread⟩ := Except.map_eq_ok_iff.mp h
    cases hread
    exact ht
  · obtain ⟨⟨ms, rest'⟩, hms, hread⟩ := Except.map_eq_ok_iff.mp h
    cases hread
    exact (Json.readsOnly_readDocument budget).collectMember ht name text ms rest hms

theorem readsOnly_nodeOfMembers (budget : Nat) :
    Json.ReadsOnly (nodeOfMembers budget) fun node => ∀ d ∈ node.2.documents, d.nesting ≤ budget := by
  rintro text ⟨v, contents⟩ rest h
  obtain ⟨t, ht, -, rfl⟩ := nodeOfMembers_eq_ok_iff.mp h
  have hmembers := Json.ReadsOnly.foldMembers (readsOnly_taggedMember budget) (Text.clock text) true
    (List.forall_mem_nil _) text t rest ht
  intro d hd
  obtain ⟨m, hm, rfl⟩ := List.mem_map.mp hd
  exact hmembers m (List.mem_reverse.mp hm)

theorem readsOnly_nodeOfElements (budget : Nat) :
    Json.ReadsOnly (nodeOfElements budget) fun node => ∀ d ∈ node.2.documents, d.nesting ≤ budget := by
  intro text node rest h
  obtain ⟨⟨v, behind⟩, -, h⟩ := Except.bind_eq_ok_iff.mp h
  cases v with
  | none => cases h
  | some v =>
      obtain ⟨⟨ds, last⟩, hds, hnode⟩ := Except.bind_eq_ok_iff.mp h
      cases hnode
      have hitems := Json.ReadsOnly.foldElements
        (fun _ => (Json.readsOnly_readDocument budget).collect) (Text.clock behind) false
        (List.forall_mem_nil _) behind ds rest hds
      intro d hd
      exact hitems d (List.mem_reverse.mp hd)

theorem readsOnly_readExpression (budget : Nat) :
    Json.ReadsOnly (readExpression budget) fun e => e.nesting ≤ budget := by
  have hnode : Json.ReadsOnly (readNode budget) fun node =>
      ∀ d ∈ node.2.documents, d.nesting < budget := by
    apply Json.ReadsOnly.record
    · rintro inner rfl text node rest h d hd
      exact Nat.lt_succ_of_le (readsOnly_nodeOfElements inner text node rest h d hd)
    · rintro inner rfl text node rest h d hd
      exact Nat.lt_succ_of_le (readsOnly_nodeOfMembers inner text node rest h d hd)
  intro text e rest h
  rw [readExpression] at h
  split at h
  · rename_i v contents behind hread
    obtain ⟨he, -⟩ := Json.settle_eq_ok_iff.mp h
    exact (Expression.composed_of_ofContents he).nesting_le (hnode text _ behind hread)
  · cases h

end Source

theorem nesting_le_of_parseJson {text : String} {e : Expression} (h : parseJson text = .ok e) :
    e.nesting ≤ 127 := by
  obtain ⟨rest, hread, -⟩ := Json.readText_eq_ok_iff.mp (parseJson_eq_ok_iff.mp h)
  exact Source.readsOnly_readExpression Json.nestingLimit text.toList e rest hread

end FilterClause
