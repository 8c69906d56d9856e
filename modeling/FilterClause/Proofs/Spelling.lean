import FilterClause.Proofs.Nesting
import FilterClause.Proofs.Numerals

/-!
The grammar of documents: which text spells which document. Blanks may stand around every value, name
and comma. Whatever the reader of documents takes from a text is spelled there as the document that it
makes of it.
-/

namespace FilterClause.Json

def Blanks (cs : List Char) : Prop :=
  ∀ c ∈ cs, isBlank c = true

def Padded (t text : List Char) : Prop :=
  ∃ a b, Blanks a ∧ Blanks b ∧ text = a ++ (t ++ b)

/-- What may stand between the quotes of a string literal, and the characters it stands for. -/
inductive StringText : List Char → List Char → Prop
  | nil : StringText [] []
  | plain {c : Char} {body cs : List Char} (hquote : c ≠ '"') (hslash : c ≠ '\\')
      (hcontrol : ¬ c.toNat < 0x20) (h : StringText body cs) : StringText (c :: body) (c :: cs)
  | escape {e c : Char} {body cs : List Char} (he : shortEscape? e = some c)
      (h : StringText body cs) : StringText ('\\' :: e :: body) (c :: cs)
  | unit {a b c d : Char} {n : Nat} {body cs : List Char} (hn : unit? a b c d = some n)
      (hlow : isLowSurrogate n = false) (hhigh : isHighSurrogate n = false) (h : StringText body cs) :
      StringText ('\\' :: 'u' :: a :: b :: c :: d :: body) (Char.ofNat n :: cs)
  | pair {a b c d a' b' c' d' : Char} {n m : Nat} {body cs : List Char}
      (hn : unit? a b c d = some n) (hlow : isLowSurrogate n = false)
      (hhigh : isHighSurrogate n = true) (hm : unit? a' b' c' d' = some m)
      (hlow' : isLowSurrogate m = true) (h : StringText body cs) :
      StringText
        ('\\' :: 'u' :: a :: b :: c :: d :: '\\' :: 'u' :: a' :: b' :: c' :: d' :: body)
        (Char.ofNat (pairedCode n m) :: cs)

/-- What stands before an item: blanks, and a comma unless the item is the first. -/
inductive Lead : Bool → List Char → Prop
  | first {a : List Char} (ha : Blanks a) : Lead true a
  | later {a b : List Char} (ha : Blanks a) (hb : Blanks b) : Lead false (a ++ ',' :: b)

/-- A body cut at its commas into its items, of which the first is the first of all or not. -/
inductive Cut : Bool → List Char → List (List Char) → Prop
  | done {first : Bool} {a : List Char} (ha : Blanks a) : Cut first a []
  | item {first : Bool} {lead t tail : List Char} {ts : List (List Char)} (hlead : Lead first lead)
      (htail : Cut false tail ts) : Cut first (lead ++ (t ++ tail)) (t :: ts)

/-- A name, a colon and the text of a value. -/
inductive MemberText : String × List Char → List Char → Prop
  | intro {name cs a b t : List Char} (hname : StringText name cs) (ha : Blanks a) (hb : Blanks b) :
      MemberText (String.ofList cs, t) ('"' :: (name ++ '"' :: (a ++ ':' :: (b ++ t))))

/-- The text of an array whose elements have these texts. -/
inductive ArrayText : List (List Char) → List Char → Prop
  | intro {body : List Char} {ts : List (List Char)} (h : Cut true body ts) :
      ArrayText ts ('[' :: (body ++ [']']))

/-- The text of an object whose members have these names and texts. -/
inductive ObjectText : List (String × List Char) → List Char → Prop
  | intro {body : List Char} {raws : List (String × List Char)} {ts : List (List Char)}
      (h : Cut true body ts) (hraws : List.Forall₂ MemberText raws ts) :
      ObjectText raws ('\x7b' :: (body ++ ['\x7d']))

def boolText : Bool → List Char
  | true => ['t', 'r', 'u', 'e']
  | false => ['f', 'a', 'l', 's', 'e']

/-- The text spells the document, with no blanks around it. -/
inductive Spelled : Document → List Char → Prop
  | null : Spelled .null ['n', 'u', 'l', 'l']
  | bool (b : Bool) : Spelled (.bool b) (boolText b)
  | string {body cs : List Char} (h : StringText body cs) :
      Spelled (.string (String.ofList cs)) ('"' :: (body ++ ['"']))
  | integer {l : NumberLiteral} {t : List Char} {n : Int} (h : NumberText l t)
      (hvalue : l.value = .ok (.integer n)) : Spelled (.integer n) t
  | float {l : NumberLiteral} {t : List Char} {x : Float} (h : NumberText l t)
      (hvalue : l.value = .ok (.float x)) : Spelled (.float x) t
  | array {ds : List Document} {ts : List (List Char)} {t : List Char} (ht : ArrayText ts t)
      (h : List.Forall₂ Spelled ds ts) : Spelled (.array ds) t
  | object {ms : List (String × Document)} {raws : List (String × List Char)} {t : List Char}
      (ht : ObjectText raws t) (hnames : ms.map Prod.fst = raws.map Prod.fst)
      (h : List.Forall₂ Spelled (ms.map Prod.snd) (raws.map Prod.snd)) : Spelled (.object ms) t

theorem Blanks.append {a b : List Char} (ha : Blanks a) (hb : Blanks b) : Blanks (a ++ b) :=
  List.forall_mem_append.mpr ⟨ha, hb⟩

theorem exists_blanks_of_skipBlanks {text front : List Char} (h : skipBlanks text = front) :
    ∃ a, Blanks a ∧ text = a ++ front := by
  refine ⟨text.takeWhile isBlank, fun _ hc => List.mem_takeWhile_imp hc, ?_⟩
  rw [← h, skipBlanks, List.takeWhile_append_dropWhile]

theorem Blanks.skipBlanks_append {a : List Char} (ha : Blanks a) (rest : List Char) :
    skipBlanks (a ++ rest) = skipBlanks rest :=
  List.dropWhile_append_of_pos ha

theorem skipBlanks_eq_nil_iff {text : List Char} : skipBlanks text = [] ↔ Blanks text :=
  List.dropWhile_eq_nil_iff

theorem Lead.append_blanks {first : Bool} {lead a : List Char} (h : Lead first lead)
    (ha : Blanks a) : Lead first (lead ++ a) := by
  cases h with
  | first hlead => exact .first (hlead.append ha)
  | later hb hc =>
      rw [List.append_assoc, List.cons_append]
      exact .later hb (hc.append ha)

theorem Cut.append_blanks {first : Bool} {body a : List Char} {ts : List (List Char)}
    (h : Cut first body ts) (ha : Blanks a) : Cut first (body ++ a) ts := by
  induction h with
  | done hb => exact .done (hb.append ha)
  | item hlead htail ih =>
      rw [List.append_assoc, List.append_assoc]
      exact .item hlead ih

theorem andThen_eq_ok_iff {c : Char} {reading : Reading (List Char)} {cs rest : List Char} :
    andThen c reading = .ok (cs, rest) ↔ ∃ cs', reading = .ok (cs', rest) ∧ cs = c :: cs' := by
  cases reading with
  | error f => exact ⟨fun h => (nomatch h), fun ⟨_, h, _⟩ => (nomatch h)⟩
  | ok read => simp only [andThen, Except.ok.injEq, Prod.mk.injEq]; grind

theorem stringText_of_readString {text cs rest : List Char}
    (h : readString text = .ok (cs, rest)) :
    ∃ body, StringText body cs ∧ text = body ++ '"' :: rest := by
  fun_induction readString text generalizing cs with
  | case2 => -- the closing quote
      cases h
      exact ⟨[], .nil, rfl⟩
  | case7 _ _ _ _ _ hn hlow hhigh _ _ _ _ _ _ hm hlow' ih => -- a pair of units
      obtain ⟨cs', hread, rfl⟩ := andThen_eq_ok_iff.mp h
      obtain ⟨body, hbody, rfl⟩ := ih hread
      exact ⟨_, .pair hn (eq_false_of_ne_true hlow) hhigh hm hlow' hbody, rfl⟩
  | case10 _ _ _ _ _ _ hn hlow hhigh ih => -- a unit
      obtain ⟨cs', hread, rfl⟩ := andThen_eq_ok_iff.mp h
      obtain ⟨body, hbody, rfl⟩ := ih hread
      exact ⟨_, .unit hn (eq_false_of_ne_true hlow) (eq_false_of_ne_true hhigh) hbody, rfl⟩
  | case12 _ _ _ _ _ he ih => -- an escape of one letter
      obtain ⟨cs', hread, rfl⟩ := andThen_eq_ok_iff.mp h
      obtain ⟨body, hbody, rfl⟩ := ih hread
      exact ⟨_, .escape he hbody, rfl⟩
  | case15 c rest' hquote hend _ _ hslash hcontrol ih => -- any other character
      obtain ⟨cs', hread, rfl⟩ := andThen_eq_ok_iff.mp h
      obtain ⟨body, hbody, rfl⟩ := ih hread
      have hne : c ≠ '\\' := by
        intro hc
        obtain ⟨e, rest', he⟩ := List.exists_cons_of_ne_nil (hend hc)
        exact hslash e rest' hc he
      exact ⟨_, .plain hquote hne hcontrol hbody, rfl⟩
  | _ => cases h

theorem readKeyword_eq_ok_iff {ks text rest : List Char} :
    readKeyword ks text = .ok rest ↔ text = ks ++ rest := by
  induction ks generalizing text with
  | nil => simp only [readKeyword, Except.ok.injEq, List.nil_append]
  | cons k ks ih =>
      cases text with
      | nil => exact ⟨fun h => (nomatch h), fun h => (nomatch h)⟩
      | cons c text =>
          rw [readKeyword, List.cons_append, List.cons.injEq]
          by_cases hc : c = k
          · rw [if_pos hc, ih]
            exact ⟨fun h => ⟨hc, h⟩, And.right⟩
          · rw [if_neg hc]
            exact ⟨fun h => (nomatch h), fun h => absurd h.1 hc⟩

theorem exists_lead_of_comma {text rest : List Char} (h : skipBlanks text = ',' :: rest) :
    ∃ lead, Lead false lead ∧ text = lead ++ skipBlanks rest := by
  obtain ⟨a, ha, htext⟩ := exists_blanks_of_skipBlanks h
  obtain ⟨b, hb, hrest⟩ := exists_blanks_of_skipBlanks (rfl : skipBlanks rest = skipBlanks rest)
  refine ⟨a ++ ',' :: b, .later ha hb, ?_⟩
  rw [htext, List.append_assoc, List.cons_append, ← hrest]

theorem exists_lead_of_first {text front : List Char} (h : skipBlanks text = front) :
    ∃ lead, Lead true lead ∧ text = lead ++ front := by
  obtain ⟨a, ha, htext⟩ := exists_blanks_of_skipBlanks h
  exact ⟨a, .first ha, htext⟩

theorem lead_of_nextElement {first : Bool} {text rest : List Char}
    (h : nextElement first text = .ok (true, rest)) :
    ∃ lead, Lead first lead ∧ text = lead ++ rest := by
  unfold nextElement at h
  split at h
  · cases h
  · cases h
  · rename_i c cs _ hskip
    split at h
    · rename_i hfirst
      cases h
      exact hfirst ▸ exists_lead_of_first hskip
    · rename_i hfirst
      split at h
      · rename_i hc
        subst hc
        split at h
        · cases h
        · cases h
        · cases h
          exact eq_false_of_ne_true hfirst ▸ exists_lead_of_comma hskip
      · cases h

theorem blanks_of_nextElement {first : Bool} {text rest : List Char}
    (h : nextElement first text = .ok (false, rest)) : ∃ a, Blanks a ∧ text = a ++ rest := by
  unfold nextElement at h
  split at h
  · cases h
  · rename_i hskip
    cases h
    exact exists_blanks_of_skipBlanks hskip
  · split at h
    · cases h
    · split at h
      · split at h <;> cases h
      · cases h

theorem lead_of_nextMember {first : Bool} {text rest : List Char}
    (h : nextMember first text = .ok (true, rest)) :
    ∃ lead, Lead first lead ∧ text = lead ++ '"' :: rest := by
  unfold nextMember at h
  split at h
  · cases h
  · cases h
  · rename_i c cs _ hskip
    split at h
    · rename_i hfirst
      split at h
      · rename_i hc
        cases h
        exact hfirst ▸ exists_lead_of_first (hc ▸ hskip)
      · cases h
    · rename_i hfirst
      split at h
      · rename_i hc
        subst hc
        split at h
        · cases h
        · rename_i hquote
          cases h
          exact eq_false_of_ne_true hfirst ▸ hquote ▸ exists_lead_of_comma hskip
        · cases h
        · cases h
      · cases h

theorem blanks_of_nextMember {first : Bool} {text rest : List Char}
    (h : nextMember first text = .ok (false, rest)) : ∃ a, Blanks a ∧ text = a ++ rest := by
  unfold nextMember at h
  split at h
  · cases h
  · rename_i hskip
    cases h
    exact exists_blanks_of_skipBlanks hskip
  · split at h
    · split at h <;> cases h
    · split at h
      · split at h <;> cases h
      · cases h

theorem exists_blanks_of_close {b : Bracket} {text rest : List Char} (h : b.close text = .ok rest) :
    ∃ a, Blanks a ∧ text = a ++ b.closing :: rest := by
  unfold Bracket.close at h
  split at h
  · cases h
  · rename_i c cs hskip
    split at h
    · rename_i hc
      cases h
      exact exists_blanks_of_skipBlanks (hc ▸ hskip)
    · exfalso
      split at h
      · split at h
        · split at h <;> cases h
        · cases h
      · cases h

theorem exists_blanks_of_readColon {text rest : List Char} (h : readColon text = .ok rest) :
    ∃ a, Blanks a ∧ text = a ++ ':' :: rest := by
  unfold readColon at h
  split at h
  · cases h
  · rename_i hskip
    cases h
    exact exists_blanks_of_skipBlanks hskip
  · cases h

/-- Whatever is read stands in the text, behind blanks, as the relation has it. -/
def Takes {α : Type} (value : Reader α) (P : α → List Char → Prop) : Prop :=
  ∀ text a rest, value text = .ok (a, rest) →
    ∃ pad t, Blanks pad ∧ P a t ∧ text = pad ++ (t ++ rest)

section Takes

variable {α : Type} {value : Reader α} {P : α → List Char → Prop}

theorem Takes.foldElements (h : Takes value P) {ticks : List Char} {first : Bool}
    {collected read : List α} {text rest : List Char}
    (hread : Json.foldElements (collect value) ticks first collected text = .ok (read, rest)) :
    ∃ items ts body, read = items.reverse ++ collected ∧ List.Forall₂ P items ts ∧
      Cut first body ts ∧ text = body ++ rest := by
  induction ticks generalizing first collected text with
  | nil => cases hread
  | cons tick ticks ih =>
      rw [Json.foldElements] at hread
      split at hread
      · cases hread
      · rename_i hnext
        cases hread
        obtain ⟨a, ha, htext⟩ := blanks_of_nextElement hnext
        exact ⟨[], [], a, rfl, .nil, .done ha, htext⟩
      · rename_i inner hnext
        obtain ⟨lead, hlead, rfl⟩ := lead_of_nextElement hnext
        rw [collect_eq_map] at hread
        cases hvalue : value inner with
        | error f =>
            rw [hvalue] at hread
            cases hread
        | ok valued =>
            rw [hvalue] at hread
            obtain ⟨a, rest'⟩ := valued
            obtain ⟨pad, t, hpad, ht, rfl⟩ := h inner a rest' hvalue
            obtain ⟨items, ts, body, rfl, hitems, hcut, rfl⟩ := ih hread
            refine ⟨a :: items, t :: ts, _, ?_, .cons ht hitems,
              .item (hlead.append_blanks hpad) hcut, ?_⟩
            · rw [List.reverse_cons, List.append_assoc, List.singleton_append]
            · simp only [List.append_assoc]

theorem Takes.elements (h : Takes value P) {items : List α} {body rest : List Char}
    (hread : Json.elements (collect value) [] body = .ok (items, rest)) :
    ∃ ts t, List.Forall₂ P items.reverse ts ∧ ArrayText ts t ∧ '[' :: body = t ++ rest := by
  obtain ⟨inner, hfold, hclose⟩ := Bracket.enclose_eq_ok_iff.mp hread
  obtain ⟨items', ts, body', rfl, hitems, hcut, rfl⟩ := h.foldElements hfold
  obtain ⟨a, ha, rfl⟩ := exists_blanks_of_close hclose
  rw [List.append_nil, List.reverse_reverse]
  refine ⟨ts, _, hitems, .intro (hcut.append_blanks ha), ?_⟩
  simp [Bracket.closing]

end Takes

theorem ReadsMembers.exists_cut {value : Reader Document} {P : Document → List Char → Prop}
    (h : Takes value P) {ticks : List Char} {first : Bool} {text rest : List Char}
    {ms : List (String × Document)} (hread : ReadsMembers value ticks first text ms rest) :
    ∃ raws ts body, ms.map Prod.fst = raws.map Prod.fst ∧
      List.Forall₂ P (ms.map Prod.snd) (raws.map Prod.snd) ∧ List.Forall₂ MemberText raws ts ∧
      Cut first body ts ∧ text = body ++ rest := by
  induction hread with
  | done hnext =>
      obtain ⟨a, ha, htext⟩ := blanks_of_nextMember hnext
      exact ⟨[], [], a, rfl, .nil, .nil, .done ha, htext⟩
  | member hnext hname hvalue hms ih =>
      obtain ⟨raws, ts, body, hnames, hraws, hts, hcut, rfl⟩ := ih
      obtain ⟨lead, hlead, rfl⟩ := lead_of_nextMember hnext
      obtain ⟨behind, hcolon, hvalued⟩ := readMemberValue_eq_ok_iff.mp hvalue
      obtain ⟨b, t, hb, ht, rfl⟩ := h behind _ _ hvalued
      obtain ⟨a, ha, rfl⟩ := exists_blanks_of_readColon hcolon
      obtain ⟨name, htext, rfl⟩ := stringText_of_readString hname
      refine ⟨(_, t) :: raws, _ :: ts, _, ?_, .cons ht hraws, .cons (.intro htext ha hb) hts,
        .item hlead hcut, ?_⟩
      · rw [List.map_cons, List.map_cons, hnames]
      · simp only [List.append_assoc, List.cons_append]

theorem Takes.members {value : Reader Document} {P : Document → List Char → Prop}
    (h : Takes value P) {ms : List (String × Document)} {body rest : List Char}
    (hread : Json.members (collectMember value) [] body = .ok (ms, rest)) :
    ∃ raws t, ms.reverse.map Prod.fst = raws.map Prod.fst ∧
      List.Forall₂ P (ms.reverse.map Prod.snd) (raws.map Prod.snd) ∧ ObjectText raws t ∧
      '\x7b' :: body = t ++ rest := by
  obtain ⟨inner, hfold, hclose⟩ := Bracket.enclose_eq_ok_iff.mp hread
  obtain ⟨ms', rfl, hms⟩ := exists_readsMembers hfold
  obtain ⟨raws, ts, body', hnames, hraws, hts, hcut, rfl⟩ := hms.exists_cut h
  obtain ⟨a, ha, rfl⟩ := exists_blanks_of_close hclose
  rw [List.append_nil, List.reverse_reverse]
  refine ⟨raws, _, hnames, hraws, .intro (hcut.append_blanks ha) hts, ?_⟩
  simp [Bracket.closing]

theorem spelled_of_readNumber {text rest : List Char} {n : Number}
    (h : readNumber text = .ok (n, rest)) :
    ∃ l t, NumberText l t ∧ l.value = .ok n ∧ text = t ++ rest := by
  obtain ⟨l, hl, hvalue⟩ := readNumber_eq_ok_iff.mp h
  obtain ⟨t, ht, rfl⟩ := numberText_of_readLiteral hl
  exact ⟨l, t, ht, hvalue, rfl⟩

theorem spelled_of_readAtom {text rest : List Char} {d : Document}
    (h : readAtom text = .ok (d, rest)) : ∃ t, Spelled d t ∧ text = t ++ rest := by
  cases readsAtom_of_eq_ok h with
  | null h => exact ⟨_, .null, by rw [readKeyword_eq_ok_iff.mp h]; rfl⟩
  | true h => exact ⟨_, .bool true, by rw [readKeyword_eq_ok_iff.mp h]; rfl⟩
  | false h => exact ⟨_, .bool false, by rw [readKeyword_eq_ok_iff.mp h]; rfl⟩
  | string h =>
      obtain ⟨body, hbody, rfl⟩ := stringText_of_readString h
      exact ⟨_, .string hbody, by simp⟩
  | integer _ h =>
      obtain ⟨l, t, ht, hvalue, htext⟩ := spelled_of_readNumber h
      exact ⟨t, .integer ht hvalue, htext⟩
  | float _ h =>
      obtain ⟨l, t, ht, hvalue, htext⟩ := spelled_of_readNumber h
      exact ⟨t, .float ht hvalue, htext⟩

theorem takes_readDocument (budget : Nat) : Takes (readDocument budget) Spelled := by
  -- The induction is on the brackets that the budget still allows.
  induction budget with
  | zero =>
      intro text d rest h
      cases readsDocument_of_eq_ok h with
      | atom hatom =>
          obtain ⟨t, ht, hfront⟩ := spelled_of_readAtom hatom
          obtain ⟨pad, hpad, htext⟩ := exists_blanks_of_skipBlanks hfront
          exact ⟨pad, t, hpad, ht, htext⟩
  | succ budget ih =>
      intro text d rest h
      cases readsDocument_of_eq_ok h with
      | array hopen hbody =>
          obtain ⟨ts, t, hitems, ht, hfront⟩ := ih.elements hbody
          obtain ⟨pad, hpad, htext⟩ := exists_blanks_of_skipBlanks (hopen.trans hfront)
          exact ⟨pad, t, hpad, .array ht hitems, htext⟩
      | object hopen hbody =>
          obtain ⟨raws, t, hnames, hraws, ht, hfront⟩ := ih.members hbody
          obtain ⟨pad, hpad, htext⟩ := exists_blanks_of_skipBlanks (hopen.trans hfront)
          exact ⟨pad, t, hpad, .object ht hnames hraws, htext⟩
      | atom hatom =>
          obtain ⟨t, ht, hfront⟩ := spelled_of_readAtom hatom
          obtain ⟨pad, hpad, htext⟩ := exists_blanks_of_skipBlanks hfront
          exact ⟨pad, t, hpad, ht, htext⟩

end FilterClause.Json
