import FilterClause.Proofs.Spelling

/-!
What is spelled is read: a text of the grammar is taken whole, wherever it stands in front of what could
not belong to it. With the other direction this says which texts are documents, and of which document.
-/

namespace FilterClause.Json

theorem StringText.readString {body cs : List Char} (h : StringText body cs) (rest : List Char) :
    Json.readString (body ++ '"' :: rest) = .ok (cs, rest) := by
  induction h with
  | nil => rfl
  | plain hquote hslash hcontrol h ih =>
      rw [List.cons_append, readString_plain hquote hslash hcontrol, ih]
      rfl
  | @escape e c body cs he h ih =>
      have hread : Json.readString ('\\' :: e :: (body ++ '"' :: rest)) =
          andThen c (Json.readString (body ++ '"' :: rest)) := by
        unfold shortEscape? at he
        split at he
        case h_9 => cases he
        all_goals
          cases he
          rfl
      rw [List.cons_append, List.cons_append, hread, ih]
      rfl
  | unit hn hlow hhigh h ih =>
      simp only [List.cons_append, Json.readString, hn, hlow, hhigh, ih, Bool.false_eq_true, if_false]
      rfl
  | pair hn hlow hhigh hm hlow' h ih =>
      simp only [List.cons_append, Json.readString, hn, hlow, hhigh, hm, hlow', ih,
        Bool.false_eq_true, if_false, if_true]
      rfl

theorem StringText.unique {body cs cs' : List Char} (h : StringText body cs)
    (h' : StringText body cs') : cs = cs' := by
  have hread := h.readString []
  rw [h'.readString []] at hread
  cases hread
  rfl

theorem numberEnds_cons {c : Char} (rest : List Char)
    (h : (c.isDigit || c = '.' || c = 'e' || c = 'E') = false) : NumberEnds (c :: rest) :=
  Text.stops_cons rest h

theorem Blanks.numberEnds {a rest : List Char} (ha : Blanks a) (hr : NumberEnds rest) :
    NumberEnds (a ++ rest) := by
  cases a with
  | nil => exact hr
  | cons c a =>
      have hc : isBlank c = true := ha c List.mem_cons_self
      simp only [isBlank, Bool.or_eq_true, decide_eq_true_eq] at hc
      rcases hc with ((rfl | rfl) | rfl) | rfl
      all_goals exact numberEnds_cons _ (by decide)

theorem Blanks.numberEnds_self {a : List Char} (ha : Blanks a) : NumberEnds a := by
  rw [← List.append_nil a]
  exact ha.numberEnds fun c hc => nomatch hc

theorem Cut.numberEnds {body rest : List Char} {ts : List (List Char)} (h : Cut false body ts)
    (hr : NumberEnds rest) : NumberEnds (body ++ rest) := by
  generalize hfirst : false = first at h
  cases h with
  | done ha => exact ha.numberEnds hr
  | item hlead htail =>
      cases hlead with
      | first => cases hfirst
      | later ha hb =>
          simp only [List.append_assoc, List.cons_append]
          exact ha.numberEnds (numberEnds_cons _ (by decide))

/-- The text starts with what can be no blank and close no bracket. -/
def Opens (t : List Char) : Prop :=
  ∃ c cs, t = c :: cs ∧ isBlank c = false ∧ c ≠ ']' ∧ c ≠ '\x7d'

theorem Lead.nextElement {first : Bool} {lead t : List Char} (h : Lead first lead) (ht : Opens t)
    (rest : List Char) : Json.nextElement first (lead ++ (t ++ rest)) = .ok (true, t ++ rest) := by
  obtain ⟨c, cs, rfl, hblank, hclosing, -⟩ := ht
  have hskip : skipBlanks (c :: (cs ++ rest)) = c :: (cs ++ rest) := skipBlanks_cons hblank _
  rw [List.cons_append]
  cases h with
  | first ha => simp [Json.nextElement, ha.skipBlanks_append, hskip]
  | @later a b ha hb =>
      have hcomma : skipBlanks (',' :: (b ++ c :: (cs ++ rest))) = _ := skipBlanks_cons rfl _
      rw [List.append_assoc, List.cons_append]
      simp [Json.nextElement, ha.skipBlanks_append, hb.skipBlanks_append, hskip, hclosing, hcomma]

theorem Blanks.nextElement {a : List Char} (ha : Blanks a) (first : Bool) (rest : List Char) :
    Json.nextElement first (a ++ ']' :: rest) = .ok (false, ']' :: rest) := by
  have hskip : skipBlanks (']' :: rest) = ']' :: rest := rfl
  simp only [Json.nextElement, ha.skipBlanks_append, hskip]

theorem Lead.nextMember {first : Bool} {lead : List Char} (h : Lead first lead) (rest : List Char) :
    Json.nextMember first (lead ++ '"' :: rest) = .ok (true, rest) := by
  have hskip : skipBlanks ('"' :: rest) = '"' :: rest := rfl
  cases h with
  | first ha => simp [Json.nextMember, ha.skipBlanks_append, hskip]
  | @later a b ha hb =>
      have hcomma : skipBlanks (',' :: (b ++ '"' :: rest)) = _ := skipBlanks_cons rfl _
      rw [List.append_assoc, List.cons_append]
      simp [Json.nextMember, ha.skipBlanks_append, hb.skipBlanks_append, hskip, hcomma]

theorem Blanks.nextMember {a : List Char} (ha : Blanks a) (first : Bool) (rest : List Char) :
    Json.nextMember first (a ++ '\x7d' :: rest) = .ok (false, '\x7d' :: rest) := by
  have hskip : skipBlanks ('\x7d' :: rest) = '\x7d' :: rest := rfl
  simp only [Json.nextMember, ha.skipBlanks_append, hskip]

theorem Blanks.readColon {a : List Char} (ha : Blanks a) (rest : List Char) :
    Json.readColon (a ++ ':' :: rest) = .ok rest := by
  have hskip : skipBlanks (':' :: rest) = ':' :: rest := rfl
  simp only [Json.readColon, ha.skipBlanks_append, hskip]

/-- The value is read from the text, with blanks before it and what cannot belong to it behind. -/
def Gives {α : Type} (value : Reader α) (a : α) (t : List Char) : Prop :=
  ∀ pad rest, Blanks pad → NumberEnds rest → value (pad ++ (t ++ rest)) = .ok (a, rest)

theorem Gives.plain {α : Type} {value : Reader α} {a : α} {t : List Char} (h : Gives value a t)
    {rest : List Char} (hr : NumberEnds rest) : value (t ++ rest) = .ok (a, rest) :=
  h [] rest (List.forall_mem_nil _) hr

/-- Every item takes a character, so that the ticks of a body are enough. -/
theorem Cut.length_le {first : Bool} {body : List Char} {ts : List (List Char)}
    (h : Cut first body ts) (hts : ∀ t ∈ ts, t ≠ []) : ts.length ≤ body.length := by
  induction h with
  | done ha => exact Nat.zero_le _
  | item hlead htail ih =>
      rw [List.forall_mem_cons] at hts
      have hitem := List.length_pos_iff.mpr hts.1
      have htail := ih hts.2
      simp only [List.length_cons, List.length_append]
      omega

theorem Cut.foldElements {α : Type} {value : Reader α} {first : Bool} {body : List Char}
    {ts : List (List Char)} (h : Cut first body ts) {items : List α}
    (hitems : List.Forall₂ (Gives value) items ts) (hopens : ∀ t ∈ ts, Opens t)
    {ticks : List Char} (hticks : ts.length < ticks.length) (collected : List α)
    (rest : List Char) :
    Json.foldElements (collect value) ticks first collected (body ++ ']' :: rest) =
      .ok (items.reverse ++ collected, ']' :: rest) := by
  have hend : NumberEnds (']' :: rest) := numberEnds_cons rest (by decide)
  induction h generalizing items ticks collected with
  | done ha =>
      cases hitems
      obtain ⟨tick, ticks, rfl⟩ := List.exists_cons_of_length_pos hticks
      simp only [Json.foldElements, ha.nextElement, List.reverse_nil, List.nil_append]
  | item hlead htail ih =>
      rw [List.forall_mem_cons] at hopens
      obtain ⟨tick, ticks, rfl⟩ := List.exists_cons_of_length_pos (Nat.zero_lt_of_lt hticks)
      cases hitems with
      | cons hitem hitems =>
          have hread := hitem.plain (htail.numberEnds hend)
          have hfold := ih hitems hopens.2 (Nat.lt_of_succ_lt_succ hticks)
          simp only [List.append_assoc, Json.foldElements, hlead.nextElement hopens.1, collect, hread,
            hfold, List.reverse_cons, List.singleton_append]

theorem ne_nil_of_memberTexts {raws : List (String × List Char)} {ts : List (List Char)}
    (h : List.Forall₂ MemberText raws ts) : ∀ t ∈ ts, t ≠ [] := by
  induction h with
  | nil => exact List.forall_mem_nil _
  | cons h hs ih =>
      cases h
      exact List.forall_mem_cons.mpr ⟨List.cons_ne_nil _ _, ih⟩

theorem Cut.foldMembers {value : Reader Document} {first : Bool} {body : List Char}
    {ts : List (List Char)} (h : Cut first body ts) {raws : List (String × List Char)}
    (hraws : List.Forall₂ MemberText raws ts) {ms : List (String × Document)}
    (hnames : ms.map Prod.fst = raws.map Prod.fst)
    (hms : List.Forall₂ (Gives value) (ms.map Prod.snd) (raws.map Prod.snd)) {ticks : List Char}
    (hticks : ts.length < ticks.length) (collected : List (String × Document)) (rest : List Char) :
    Json.foldMembers (collectMember value) ticks first collected (body ++ '\x7d' :: rest) =
      .ok (ms.reverse ++ collected, '\x7d' :: rest) := by
  have hend : NumberEnds ('\x7d' :: rest) := numberEnds_cons rest (by decide)
  induction h generalizing raws ms ticks collected with
  | done ha =>
      cases hraws
      obtain rfl := List.map_eq_nil_iff.mp hnames
      obtain ⟨tick, ticks, rfl⟩ := List.exists_cons_of_length_pos hticks
      simp only [Json.foldMembers, ha.nextMember, List.reverse_nil, List.nil_append]
  | item hlead htail ih =>
      obtain ⟨tick, ticks, rfl⟩ := List.exists_cons_of_length_pos (Nat.zero_lt_of_lt hticks)
      cases hraws with
      | @cons raw _ raws _ hraw hraws =>
          cases ms with
          | nil => cases hnames
          | cons m ms =>
              obtain ⟨name, d⟩ := m
              cases hms with
              | cons hm hms =>
                  cases hraw with
                  | intro hname ha hb =>
                      rw [List.map_cons, List.map_cons, List.cons.injEq] at hnames
                      obtain ⟨rfl, hnames⟩ := hnames
                      have hread := hm _ _ hb (htail.numberEnds hend)
                      have hfold := ih hraws hnames hms (Nat.lt_of_succ_lt_succ hticks)
                      simp only [List.append_assoc, List.cons_append, Json.foldMembers,
                        hlead.nextMember, hname.readString, collectMember, readMemberValue,
                        ha.readColon, hread, hfold, List.reverse_cons, List.nil_append]

theorem ne_nil_of_opens {t : List Char} (h : Opens t) : t ≠ [] := by
  obtain ⟨c, cs, rfl, -⟩ := h
  exact List.cons_ne_nil c cs

theorem opens_of_startsInteger {c : Char} (h : c = '-' ∨ c.isDigit = true) (cs : List Char) :
    Opens (c :: cs) := by
  have hne : ∀ k : Char, '-' ≠ k → k.isDigit = false → c ≠ k := fun k => ne_of_startsInteger h
  refine ⟨c, cs, rfl, ?_, hne ']' (by decide) rfl, hne '\x7d' (by decide) rfl⟩
  simp [isBlank, hne ' ' (by decide) rfl, hne '\n' (by decide) rfl, hne '\t' (by decide) rfl,
    hne '\r' (by decide) rfl]

theorem Spelled.opens {d : Document} {t : List Char} (h : Spelled d t) : Opens t := by
  have hfixed : ∀ (c : Char) (cs : List Char), isBlank c = false ∧ c ≠ ']' ∧ c ≠ '\x7d' →
      Opens (c :: cs) := fun c cs hc => ⟨c, cs, rfl, hc⟩
  cases h with
  | null => exact hfixed _ _ (by decide)
  | bool b => cases b <;> exact hfixed _ _ (by decide)
  | string h => exact hfixed _ _ (by decide)
  | integer h =>
      obtain ⟨c, cs, rfl, hc⟩ := h.exists_cons
      exact opens_of_startsInteger hc cs
  | float h =>
      obtain ⟨c, cs, rfl, hc⟩ := h.exists_cons
      exact opens_of_startsInteger hc cs
  | array ht h =>
      cases ht
      exact hfixed _ _ (by decide)
  | object ht =>
      cases ht
      exact hfixed _ _ (by decide)

theorem opens_of_forall₂ {ds : List Document} {ts : List (List Char)}
    (h : List.Forall₂ Spelled ds ts) : ∀ t ∈ ts, Opens t := by
  induction h with
  | nil => exact List.forall_mem_nil _
  | cons h hs ih => exact List.forall_mem_cons.mpr ⟨h.opens, ih⟩

theorem NumberText.readNumber {l : NumberLiteral} {t rest : List Char} {n : Number}
    (h : NumberText l t) (hvalue : l.value = .ok n) (hr : NumberEnds rest) :
    Json.readNumber (t ++ rest) = .ok (n, rest) :=
  readNumber_eq_ok_iff.mpr ⟨l, h.readLiteral .endOfValue hr, hvalue⟩

theorem NumberText.readDocument {l : NumberLiteral} {t rest : List Char} {n : Number}
    (h : NumberText l t) (hvalue : l.value = .ok n) (hr : NumberEnds rest) (budget : Nat) :
    Json.readDocument budget (t ++ rest) =
      match n with
      | .integer n => .ok (.integer n, rest)
      | .float x => .ok (.float x, rest) := by
  have hread := h.readNumber hvalue hr
  obtain ⟨c, cs, rfl, hc⟩ := h.exists_cons
  obtain ⟨c', cs', heq, hblank, -⟩ := opens_of_startsInteger hc cs
  cases heq
  have hne : ∀ k : Char, '-' ≠ k → k.isDigit = false → c ≠ k := fun k => ne_of_startsInteger hc
  rw [List.cons_append] at hread ⊢
  rw [readDocument_atom hblank (hne _ (by decide) rfl) (hne _ (by decide) rfl), readAtom_number hc,
    hread]
  cases n <;> rfl

theorem length_lt_clock {first : Bool} {body rest : List Char} {ts : List (List Char)}
    (h : Cut first body ts) (hts : ∀ t ∈ ts, t ≠ []) :
    ts.length < (Text.clock (body ++ rest)).length := by
  have hle := h.length_le hts
  simp only [Text.clock, List.length_cons, List.length_append]
  omega

theorem ArrayText.elements {α : Type} {value : Reader α} {t : List Char} {ts : List (List Char)}
    (h : ArrayText ts t) {items : List α} (hitems : List.Forall₂ (Gives value) items ts)
    (hopens : ∀ t ∈ ts, Opens t) (rest : List Char) :
    ∃ body, t ++ rest = '[' :: body ∧
      Json.elements (collect value) [] body = .ok (items.reverse, rest) := by
  obtain ⟨h⟩ := h
  refine ⟨_, by rw [List.cons_append, List.append_assoc, List.singleton_append], ?_⟩
  refine Bracket.enclose_eq_ok_iff.mpr ⟨']' :: rest, ?_, rfl⟩
  rw [h.foldElements hitems hopens (length_lt_clock h fun t ht => ne_nil_of_opens (hopens t ht)),
    List.append_nil]

theorem ObjectText.members {value : Reader Document} {t : List Char}
    {raws : List (String × List Char)} (h : ObjectText raws t) {ms : List (String × Document)}
    (hnames : ms.map Prod.fst = raws.map Prod.fst)
    (hms : List.Forall₂ (Gives value) (ms.map Prod.snd) (raws.map Prod.snd)) (rest : List Char) :
    ∃ body, t ++ rest = '\x7b' :: body ∧
      Json.members (collectMember value) [] body = .ok (ms.reverse, rest) := by
  obtain ⟨h, hraws⟩ := h
  refine ⟨_, by rw [List.cons_append, List.append_assoc, List.singleton_append], ?_⟩
  refine Bracket.enclose_eq_ok_iff.mpr ⟨'\x7d' :: rest, ?_, rfl⟩
  rw [h.foldMembers hraws hnames hms (length_lt_clock h (ne_nil_of_memberTexts hraws)),
    List.append_nil]

theorem Spelled.readDocument_of_nesting_eq_zero {d : Document} {t rest : List Char}
    (h : Spelled d t) (hzero : d.nesting = 0) (hr : NumberEnds rest) (budget : Nat) :
    Json.readDocument budget (t ++ rest) = .ok (d, rest) := by
  have hkeyword : ∀ ks : List Char, readKeyword ks (ks ++ rest) = .ok rest :=
    fun ks => readKeyword_eq_ok_iff.mpr rfl
  cases h with
  | null =>
      refine (readDocument_atom rfl (by decide) (by decide) budget).trans ?_
      exact congrArg (· >>= fun rest => Except.ok (Document.null, rest)) (hkeyword ['u', 'l', 'l'])
  | bool b =>
      cases b with
      | true =>
          refine (readDocument_atom rfl (by decide) (by decide) budget).trans ?_
          exact congrArg (· >>= fun rest => Except.ok (Document.bool true, rest))
            (hkeyword ['r', 'u', 'e'])
      | false =>
          refine (readDocument_atom rfl (by decide) (by decide) budget).trans ?_
          exact congrArg (· >>= fun rest => Except.ok (Document.bool false, rest))
            (hkeyword ['a', 'l', 's', 'e'])
  | string h =>
      rw [List.cons_append, List.append_assoc, List.singleton_append,
        readDocument_atom rfl (by decide) (by decide), readAtom, h.readString]
      rfl
  | integer h hvalue => exact h.readDocument hvalue hr budget
  | float h hvalue => exact h.readDocument hvalue hr budget
  | array => cases hzero
  | object => cases hzero

theorem gives_of_plain {budget : Nat} {d : Document} {t : List Char}
    (h : ∀ rest, NumberEnds rest → readDocument budget (t ++ rest) = .ok (d, rest)) :
    Gives (readDocument budget) d t := by
  intro pad rest hpad hr
  rw [← h rest hr]
  exact readDocument_congr (hpad.skipBlanks_append _)

theorem Spelled.gives {budget : Nat} {d : Document} {t : List Char} (h : Spelled d t)
    (hn : d.nesting ≤ budget) : Gives (readDocument budget) d t := by
  refine gives_of_plain fun rest hr => ?_
  -- Inside of a bracket the budget is one less, so the induction is on the budget.
  induction budget generalizing d t rest with
  | zero => exact h.readDocument_of_nesting_eq_zero (Nat.le_zero.mp hn) hr 0
  | succ budget ih =>
      have hitems : ∀ {ds : List Document} {ts : List (List Char)}, List.Forall₂ Spelled ds ts →
          (∀ d ∈ ds, d.nesting ≤ budget) → List.Forall₂ (Gives (readDocument budget)) ds ts := by
        intro ds ts hds hle
        induction hds with
        | nil => exact .nil
        | cons hd hds ihs =>
            rw [List.forall_mem_cons] at hle
            exact .cons (gives_of_plain fun rest hr => ih hd hle.1 rest hr) (ihs hle.2)
      cases h with
      | array ht hds =>
          rw [Document.nesting, Nat.add_le_add_iff_right, Document.itemsNesting_le_iff] at hn
          obtain ⟨body, hbody, hread⟩ := ht.elements (hitems hds hn) (opens_of_forall₂ hds) rest
          rw [hbody, readDocument_array, hread]
          simp only [Except.map, List.reverse_reverse]
      | object ht hnames hms =>
          rw [Document.nesting, Nat.add_le_add_iff_right, Document.membersNesting_le_iff] at hn
          have hvalues := hitems hms fun d hd => by
            obtain ⟨m, hm, rfl⟩ := List.mem_map.mp hd
            exact hn m hm
          obtain ⟨body, hbody, hread⟩ := ht.members hnames hvalues rest
          rw [hbody, readDocument_object, hread]
          simp only [Except.map, List.reverse_reverse]
      | _ => exact Spelled.readDocument_of_nesting_eq_zero (by constructor <;> assumption) rfl hr _

/-- The texts that are documents, with blanks around them, and the documents that they are. -/
theorem readText_eq_ok_iff_spelled {budget : Nat} {text : String} {d : Document} :
    readText (readDocument budget) text = .ok d ↔
      (∃ t, Padded t text.toList ∧ Spelled d t) ∧ d.nesting ≤ budget := by
  rw [readText_eq_ok_iff]
  constructor
  · rintro ⟨rest, hread, hrest⟩
    obtain ⟨pad, t, hpad, ht, htext⟩ := takes_readDocument budget _ d rest hread
    exact ⟨⟨t, ⟨pad, rest, hpad, skipBlanks_eq_nil_iff.mp hrest, htext⟩, ht⟩,
      readsOnly_readDocument budget _ d rest hread⟩
  · rintro ⟨⟨t, ⟨pad, rest, hpad, hrest, htext⟩, ht⟩, hn⟩
    exact ⟨rest, htext ▸ ht.gives hn pad rest hpad hrest.numberEnds_self,
      skipBlanks_eq_nil_iff.mpr hrest⟩

/-- The text is this one value, with blanks around it. -/
def Holds (text : String) (t : List Char) : Prop :=
  Padded t text.toList ∧ ∃ d, Spelled d t

theorem Holds.unique {text : String} {t t' : List Char} (h : Holds text t) (h' : Holds text t') :
    t = t' := by
  obtain ⟨⟨a, b, ha, hb, htext⟩, d, hd⟩ := h
  obtain ⟨⟨a', b', ha', hb', htext'⟩, d', hd'⟩ := h'
  -- Under a budget for both, each is read up to the blanks behind it.
  have hread := hd.gives (Nat.le_max_left _ d'.nesting) a b ha hb.numberEnds_self
  have hread' := hd'.gives (Nat.le_max_right d.nesting _) a' b' ha' hb'.numberEnds_self
  rw [← htext] at hread
  rw [← htext', hread] at hread'
  cases hread'
  have hskip : ∀ {a t : List Char}, Blanks a → Opens t → skipBlanks (a ++ (t ++ b)) = t ++ b := by
    rintro a _ ha ⟨c, cs, rfl, hblank, -⟩
    rw [ha.skipBlanks_append, List.cons_append, skipBlanks_cons hblank]
  have hsame : t ++ b = t' ++ b := by
    rw [← hskip ha hd.opens, ← hskip ha' hd'.opens, ← htext, ← htext']
  exact List.append_cancel_right hsame

end FilterClause.Json
