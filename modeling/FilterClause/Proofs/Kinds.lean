import FilterClause.Proofs.Entries
import FilterClause.Proofs.Literals

/-!
Where the values of an expression come from. Whatever the form of its nodes, every value in a tree that
is read from a text is the value of a literal, or of an array of literals, which stands in the text where
the node has its field. So no literal changes its kind on its way into a tree.
-/

namespace FilterClause

open Json (Document NumberText StringText Spelled ArrayText ObjectText Blanks Takes valuesOf)

namespace Json

def textsOf (name : String) (raws : List (String × List Char)) : List (List Char) :=
  (raws.filter fun raw => raw.1 = name).map Prod.snd

/-- The text is an object with one member of this name, or an array, that has this text for the field.
In an array the tag comes before the fields. -/
inductive FieldText (name : String) (place : Nat) : List Char → List Char → Prop
  | named {t u : List Char} {raws : List (String × List Char)} {ds : List Document}
      (ht : ObjectText raws t) (hds : List.Forall₂ Spelled ds (raws.map Prod.snd))
      (hu : textsOf name raws = [u]) : FieldText name place t u
  | placed {t u : List Char} {ts : List (List Char)} {ds : List Document} (ht : ArrayText ts t)
      (hds : List.Forall₂ Spelled ds ts) (hu : ts[place + 1]? = some u) : FieldText name place t u

end Json

/-- The values of the tree stand in the text where its nodes have their fields. -/
inductive ValuesIn : List Char → Expression → Prop
  | comparison {t u : List Char} {c : Comparison} (hvalue : Json.FieldText "value" 2 t u)
      (h : ValueText u c.value) : ValuesIn t (.comparison c)
  | logical {t ul ur : List Char} {left right : Expression} {op : Operator}
      (hleft : Json.FieldText "left" 0 t ul) (hl : ValuesIn ul left)
      (hright : Json.FieldText "right" 2 t ur) (hr : ValuesIn ur right) :
      ValuesIn t (.logical left op right)
  | group {t u : List Char} {inner : Expression} (hinner : Json.FieldText "inner" 0 t u)
      (h : ValuesIn u inner) : ValuesIn t (.group inner)

namespace Expression

/-- The text of a node, in either form. -/
inductive ContentsText : Contents → List Char → Prop
  | members {ms : List (String × Document)} {raws : List (String × List Char)} {t : List Char}
      (ht : ObjectText raws t) (hnames : ms.map Prod.fst = raws.map Prod.fst)
      (hms : List.Forall₂ Spelled (ms.map Prod.snd) (raws.map Prod.snd)) :
      ContentsText (.members ms) t
  | items {d : Document} {ds : List Document} {tag t : List Char} {ts : List (List Char)}
      (ht : ArrayText (tag :: ts) t) (htag : Spelled d tag) (hds : List.Forall₂ Spelled ds ts) :
      ContentsText (.items ds) t

theorem ContentsText.exists_spelled {contents : Contents} {t : List Char}
    (h : ContentsText contents t) : ∃ d, Spelled d t := by
  cases h with
  | members ht hnames hms => exact ⟨_, .object ht hnames hms⟩
  | items ht htag hds => exact ⟨_, .array ht (.cons htag hds)⟩

theorem forall₂_valuesOf {ms : List (String × Document)} {raws : List (String × List Char)}
    (hnames : ms.map Prod.fst = raws.map Prod.fst)
    (h : List.Forall₂ Spelled (ms.map Prod.snd) (raws.map Prod.snd)) (name : String) :
    List.Forall₂ Spelled (valuesOf name ms) (Json.textsOf name raws) := by
  induction ms generalizing raws with
  | nil =>
      obtain rfl := List.map_eq_nil_iff.mp hnames.symm
      exact .nil
  | cons m ms ih =>
      cases raws with
      | nil => cases hnames
      | cons raw raws =>
          rw [List.map_cons, List.map_cons, List.cons.injEq] at hnames
          cases h with
          | cons hm hms =>
              have hrest := ih hnames.2 hms
              by_cases hname : m.1 = name
              · have hraw : raw.1 = name := hnames.1 ▸ hname
                simpa [valuesOf, Json.textsOf, hname, hraw] using And.intro hm hrest
              · have hraw : raw.1 ≠ name := hnames.1 ▸ hname
                simpa [valuesOf, Json.textsOf, hname, hraw] using hrest

theorem exists_getElem?_of_forall₂ {ds : List Document} {ts : List (List Char)}
    (h : List.Forall₂ Spelled ds ts) {i : Nat} {d : Document} (hd : ds[i]? = some d) :
    ∃ u, ts[i]? = some u ∧ Spelled d u := by
  induction h generalizing i with
  | nil => cases hd
  | cons hspelled _ ih =>
      cases i with
      | zero =>
          cases hd
          exact ⟨_, rfl, hspelled⟩
      | succ i => exact ih hd

theorem ContentsText.exists_fieldText {contents : Contents} {t : List Char}
    (ht : ContentsText contents t) {name : String} {place : Nat} {d : Document}
    (h : contents.Field name place d) : ∃ u, Json.FieldText name place t u ∧ Spelled d u := by
  cases ht with
  | members ht hnames hms =>
      cases h with
      | named h =>
          have hvalues := forall₂_valuesOf hnames hms name
          rw [h] at hvalues
          generalize hu : Json.textsOf name _ = us at hvalues
          cases hvalues with
          | cons hd hnil =>
              cases hnil
              exact ⟨_, .named ht hms hu, hd⟩
  | @items d' ds tag t ts ht htag hds =>
      cases h with
      | placed h =>
          obtain ⟨u, hu, hd⟩ := exists_getElem?_of_forall₂ hds h
          exact ⟨u, .placed ht (.cons htag hds) (by rw [List.getElem?_cons_succ]; exact hu), hd⟩

theorem exists_contents {d : Document} {t : List Char} {e : Expression} (hd : Spelled d t)
    (h : ofDocument d = .ok e) : ∃ contents : Contents, ContentsText contents t ∧ contents.Makes e := by
  cases hd with
  | object ht hnames hms =>
      obtain ⟨v, -, he⟩ := ofDocument_object_eq_ok_iff.mp h
      exact ⟨_, .members ht hnames hms, makes_of_ofContents he⟩
  | array ht hds =>
      cases hds with
      | nil =>
          rw [ofDocument] at h
          cases h
      | cons htag hds =>
          obtain ⟨v, -, he⟩ := ofDocument_array_eq_ok h
          exact ⟨_, .items ht htag hds, makes_of_ofContents he⟩
  | _ =>
      simp only [ofDocument] at h
      cases h

theorem ContentsText.valuesIn {contents : Contents} {t : List Char} (ht : ContentsText contents t)
    {e : Expression} (h : contents.Makes e) : ValuesIn t e := by
  induction e generalizing contents t with
  | comparison c =>
      cases h with
      | comparison hd hvalue =>
          obtain ⟨u, hu, hspelled⟩ := ht.exists_fieldText hd
          exact .comparison hu
            (valueText_iff.mpr ⟨_, hspelled, Document.valueOfDocument_eq_ok_iff.mp hvalue⟩)
  | logical left op right ihl ihr =>
      cases h with
      | logical hdl hl hdr hr =>
          obtain ⟨ul, hul, hspelled⟩ := ht.exists_fieldText hdl
          obtain ⟨cl, hcl, hleft⟩ := exists_contents hspelled hl
          obtain ⟨ur, hur, hspelled⟩ := ht.exists_fieldText hdr
          obtain ⟨cr, hcr, hright⟩ := exists_contents hspelled hr
          exact .logical hul (ihl hcl hleft) hur (ihr hcr hright)
  | group inner ih =>
      cases h with
      | group hd hinner =>
          obtain ⟨u, hu, hspelled⟩ := ht.exists_fieldText hd
          obtain ⟨contents', hcontents, hmakes⟩ := exists_contents hspelled hinner
          exact .group hu (ih hcontents hmakes)

end Expression

theorem Json.exists_nextElement_of_readElement? {α : Type} {item : Json.Reader α} {first : Bool}
    {text rest : List Char} {a : α}
    (h : Json.readElement? item first text = .ok (some a, rest)) :
    ∃ inner, Json.nextElement first text = .ok (true, inner) ∧ item inner = .ok (a, rest) := by
  obtain ⟨⟨more, inner⟩, hnext, hmore⟩ := Except.bind_eq_ok_iff.mp h
  cases more with
  | false => cases hmore
  | true =>
      obtain ⟨⟨_, _⟩, hitem, heq⟩ := Except.bind_eq_ok_iff.mp hmore
      cases heq
      exact ⟨inner, hnext, hitem⟩

namespace Source

open Expression (ContentsText)

theorem follows_readVariant (budget : Nat) :
    Json.Follows (Json.readDocument budget) readVariant fun d _ => ∃ s, d = .string s := by
  intro text v rest h
  rw [readVariant] at h
  split at h
  · rename_i s rest' hread
    split at h
    · cases h
      exact ⟨.string s, Json.readDocument_of_readStringValue hread, s, rfl⟩
    · cases h
  · cases h

theorem follows_taggedMember (budget : Nat) (ms : List (String × Document)) (t : Tagged)
    (h : t.members = ms.filter fun m => m.1 ≠ "type") (name : String) :
    Json.Follows (Json.collectMember (Json.readDocument budget) ms name) (taggedMember budget t name)
      fun ms t => t.members = ms.filter fun m => m.1 ≠ "type" := by
  intro text t' rest hread
  rw [taggedMember] at hread
  split at hread
  · rename_i hname
    obtain ⟨⟨v, rest'⟩, hfield, heq⟩ := Except.map_eq_ok_iff.mp hread
    cases heq
    obtain ⟨-, hvalue⟩ := Json.readField_eq_ok_iff.mp hfield
    obtain ⟨d, hd, -⟩ := (follows_readVariant budget).memberValue text v rest hvalue
    refine ⟨(name, d) :: ms, ?_, ?_⟩
    · rw [Json.collectMember_eq_map, hd]
      rfl
    · change t.members = List.filter _ ((name, d) :: ms)
      rw [List.filter_cons_of_neg (by simpa using hname)]
      exact h
  · rename_i hname
    obtain ⟨⟨ms', rest'⟩, hmembers, heq⟩ := Except.map_eq_ok_iff.mp hread
    cases heq
    rw [Json.collectMember_eq_map] at hmembers ⊢
    obtain ⟨⟨d, rest''⟩, hd, heq⟩ := Except.map_eq_ok_iff.mp hmembers
    cases heq
    refine ⟨(name, d) :: ms, by rw [hd]; rfl, ?_⟩
    change (name, d) :: t.members = List.filter _ ((name, d) :: ms)
    rw [List.filter_cons_of_pos (by simpa using hname), ← h]

theorem takes_nodeOfMembers {budget : Nat} {body rest : List Char} {v : Variant}
    {contents : Expression.Contents}
    (h : Json.Bracket.object.enclose (nodeOfMembers budget) body = .ok ((v, contents), rest)) :
    ∃ ms t, contents = .members (ms.filter fun m => m.1 ≠ "type") ∧
      ContentsText (.members ms) t ∧ '\x7b' :: body = t ++ rest := by
  obtain ⟨t, ht, -, rfl⟩ := enclose_nodeOfMembers_eq_ok_iff.mp h
  have hfollows := (Json.Follows.recordMembers (follows_taggedMember budget)
    (t := []) (s := {}) rfl).enclose .object
  obtain ⟨ms, hms, hmembers⟩ := hfollows body t rest ht
  obtain ⟨raws, u, hnames, hraws, hu, htext⟩ := (Json.takes_readDocument budget).members hms
  refine ⟨ms.reverse, u, ?_, .members hu hnames hraws, htext⟩
  rw [hmembers, List.filter_reverse]

theorem takes_nodeOfElements {budget : Nat} {body rest : List Char} {v : Variant}
    {contents : Expression.Contents}
    (h : Json.Bracket.array.enclose (nodeOfElements budget) body = .ok ((v, contents), rest)) :
    ∃ t, ContentsText contents t ∧ '[' :: body = t ++ rest := by
  obtain ⟨inner, hnode, hclose⟩ := Json.Bracket.enclose_eq_ok_iff.mp h
  obtain ⟨a, ha, rfl⟩ := Json.exists_blanks_of_close hclose
  obtain ⟨⟨tag?, behind⟩, htag, hnode⟩ := Except.bind_eq_ok_iff.mp hnode
  cases tag? with
  | none => cases hnode
  | some w =>
      obtain ⟨⟨ds, last⟩, hfold, heq⟩ := Except.bind_eq_ok_iff.mp hnode
      cases heq
      -- The tag is an item like the others: a document, here a string.
      obtain ⟨named, hnext, hvariant⟩ := Json.exists_nextElement_of_readElement? htag
      obtain ⟨lead, hlead, rfl⟩ := Json.lead_of_nextElement hnext
      obtain ⟨d, hd, -⟩ := follows_readVariant budget named v behind hvariant
      obtain ⟨pad, tag, hpad, hspelled, rfl⟩ := Json.takes_readDocument budget named d behind hd
      obtain ⟨items, ts, tail, rfl, hitems, hcut, rfl⟩ :=
        (Json.takes_readDocument budget).foldElements hfold
      have hbody := (Json.Cut.item (t := tag) (hlead.append_blanks hpad) hcut).append_blanks ha
      rw [List.append_nil, List.reverse_reverse]
      refine ⟨_, .items (.intro hbody) hspelled hitems, ?_⟩
      simp [Json.Bracket.closing]

theorem takes_readExpression (budget : Nat) :
    Takes (readExpression budget) fun e t => (∃ d, Spelled d t) ∧ ValuesIn t e := by
  intro text e rest h
  rw [readExpression] at h
  split at h
  · rename_i v contents rest' hnode
    obtain ⟨he, rfl⟩ := Json.settle_eq_ok_iff.mp h
    rw [readNode, Json.readRecord] at hnode
    split at hnode
    · rename_i body hopen
      cases budget with
      | zero => cases hnode
      | succ budget =>
          obtain ⟨t, ht, hfront⟩ := takes_nodeOfElements hnode
          obtain ⟨pad, hpad, htext⟩ := Json.exists_blanks_of_skipBlanks (hopen.trans hfront)
          have hmakes := Expression.makes_of_ofContents he
          exact ⟨pad, t, hpad, ⟨ht.exists_spelled, ht.valuesIn hmakes⟩, htext⟩
    · rename_i body hopen
      cases budget with
      | zero => cases hnode
      | succ budget =>
          obtain ⟨ms, t, rfl, ht, hfront⟩ := takes_nodeOfMembers hnode
          obtain ⟨pad, hpad, htext⟩ := Json.exists_blanks_of_skipBlanks (hopen.trans hfront)
          have hmakes := Expression.makes_of_ofContents (ofContents_filter_type_eq_ok_iff.mp he)
          exact ⟨pad, t, hpad, ⟨ht.exists_spelled, ht.valuesIn hmakes⟩, htext⟩
    · exact absurd hnode (Json.refuse_ne_ok _ _ _)
  · cases h

end Source

theorem valuesIn_of_parseJson {text : String} {e : Expression} (h : parseJson text = .ok e) :
    ∃ t, Json.Holds text t ∧ ValuesIn t e := by
  obtain ⟨rest, hread, hrest⟩ := Json.readText_eq_ok_iff.mp (parseJson_eq_ok_iff.mp h)
  obtain ⟨pad, t, hpad, ⟨hspelled, ht⟩, htext⟩ := Source.takes_readExpression _ _ e rest hread
  exact ⟨t, ⟨⟨pad, rest, hpad, Json.skipBlanks_eq_nil_iff.mp hrest, htext⟩, hspelled⟩, ht⟩

theorem parseJson_of_spells {text : String} {t : List Char} {d : Document} {e : Expression}
    (ht : Json.Padded t text.toList) (hd : Spelled d t) (hn : d.nesting ≤ Json.nestingLimit)
    (he : d.Spells e) : parseJson text = .ok e := by
  have hread := Json.readText_eq_ok_iff_spelled.mpr ⟨⟨t, ht, hd⟩, hn⟩
  exact (parseJson_eq_ok_iff_ofDocument hread he.tagged).mpr he.ofDocument_eq_ok

/-- A text holds one value, and a scalar alone, a value and the values in an expression are read from the
texts of literals, an expression at least wherever its text spells it by the schema. A number becomes
an integer, and the same one, exactly if it is written as one and has a signed word, and becomes a
floating-point number otherwise; a string becomes the string that it stands for; the keywords for truth
become truth values; and nothing else is a literal. -/
theorem literals_keep_kind :
    (∀ text t t', Json.Holds text t → Json.Holds text t' → t = t') ∧
    (∀ text s, Source.parse Source.readScalar text = .ok s ↔
      ∃ t, Json.Holds text t ∧ Literal t s) ∧
    (∀ text v, Source.parse Source.readValue text = .ok v ↔
      ∃ t, Json.Holds text t ∧ ValueText t v) ∧
    (∀ text e, parseJson text = .ok e → ∃ t, Json.Holds text t ∧ ValuesIn t e) ∧
    (∀ text t d e, Json.Padded t text.toList → Spelled d t → d.nesting ≤ Json.nestingLimit →
      d.Spells e → parseJson text = .ok e) ∧
    (∀ l t s, NumberText l t → Literal t s →
      (∀ n : Int64, s = .int n ↔ l.IsWord ∧ n.toInt = l.signed) ∧
      ((∃ x, s = .float x) ↔ ¬ l.IsWord)) ∧
    (∀ body cs s, StringText body cs →
      (Literal ('"' :: (body ++ ['"'])) s ↔ s = .string (String.ofList cs))) ∧
    (∀ b s, Literal (Json.boolText b) s ↔ s = .bool b) ∧
    (∀ s, ¬ Literal ['n', 'u', 'l', 'l'] s) ∧
    (∀ ts t s, ArrayText ts t → ¬ Literal t s) ∧
    (∀ raws t s, ObjectText raws t → ¬ Literal t s) := by
  refine ⟨fun _ _ _ => Json.Holds.unique, fun _ _ => Source.parse_readScalar_eq_ok_iff,
    fun _ _ => Source.parse_readValue_eq_ok_iff, fun _ _ => valuesIn_of_parseJson,
    fun _ _ _ _ => parseJson_of_spells, ?_, fun _ _ _ => literal_string_iff,
    fun _ _ => literal_bool_iff, fun _ => not_literal_cons (.inl rfl), ?_, ?_⟩
  · intro l t s h hs
    exact ⟨hs.eq_int_iff h, hs.exists_eq_float_iff h⟩
  · rintro ts t s ⟨-⟩
    exact not_literal_cons (.inr (.inl rfl))
  · rintro raws t s ⟨-, -⟩
    exact not_literal_cons (.inr (.inr rfl))

end FilterClause
