import FilterClause.Proofs.DocumentText

/-!
A document that has been written is read back as it was, on one line or indented, if its brackets nest
within the budget of the reader; otherwise the reader stops at the first bracket beyond it. Documents
with floating-point numbers are left out, and so are integers that no 64-bit word holds.
-/

namespace FilterClause.Json

open Document

theorem nextElement_trail (indent : Indent) (first : Bool) (rest : List Char) :
    nextElement first (trail indent first (']' :: rest)) = .ok (false, ']' :: rest) := by
  rw [nextElement, skipBlanks_trail]
  rfl

theorem nextMember_trail (indent : Indent) (first : Bool) (rest : List Char) :
    nextMember first (trail indent first ('\x7d' :: rest)) = .ok (false, '\x7d' :: rest) := by
  rw [nextMember, skipBlanks_trail]
  rfl

theorem nextElement_first {rest cs : List Char} {c : Char} (h : skipBlanks rest = c :: cs)
    (hclose : c ≠ ']') : nextElement true rest = .ok (true, c :: cs) := by
  simp [nextElement, h]

theorem nextElement_comma {rest cs : List Char} {c : Char} (h : skipBlanks rest = c :: cs)
    (hclose : c ≠ ']') : nextElement false (',' :: rest) = .ok (true, c :: cs) := by
  have hcomma : skipBlanks (',' :: rest) = ',' :: rest := rfl
  simp [nextElement, hcomma, h, hclose]

theorem nextMember_comma {rest cs : List Char} (h : skipBlanks rest = '"' :: cs) :
    nextMember false (',' :: rest) = .ok (true, cs) := by
  have hcomma : skipBlanks (',' :: rest) = ',' :: rest := rfl
  simp [nextMember, hcomma, h]

theorem nextElement_lead {d : Document} (h : d.Exact) (indent inner : Indent) (first : Bool)
    (rest : List Char) :
    nextElement first (lead indent first (d.text inner rest)) = .ok (true, d.text inner rest) := by
  obtain ⟨c, cs, hc, hblank, hclose⟩ := exists_text_eq_cons h inner rest
  have hskip : skipBlanks (indent.deeper.lineBreak (c :: cs)) = c :: cs := by
    rw [skipBlanks_lineBreak, skipBlanks_cons hblank]
  rw [hc]
  cases first with
  | true => exact nextElement_first hskip hclose
  | false => exact nextElement_comma hskip hclose

theorem nextMember_lead (indent : Indent) (first : Bool) (rest : List Char) :
    nextMember first (lead indent first ('"' :: rest)) = .ok (true, rest) := by
  have hskip : skipBlanks (indent.deeper.lineBreak ('"' :: rest)) = '"' :: rest :=
    skipBlanks_lineBreak indent.deeper _
  cases first with
  | true =>
      rw [lead, if_pos rfl, nextMember, hskip]
      rfl
  | false => exact nextMember_comma hskip

/-- The failure at a bracket too many. -/
def Failure.OverNested (f : Failure) : Prop :=
  f.fault = .nestingLimit ∧ f.placed = true

/-- What is read from a text that fits, and that reading fails at a bracket if the text does not. -/
structure Limited {α : Type} (fits : Prop) (reading : Reading α) (read : α × List Char) : Prop where
  ok : fits → reading = .ok read
  error : ¬ fits → ∃ f, reading = .error f ∧ f.OverNested

theorem Failure.OverNested.place {f : Failure} (h : f.OverNested) (rest : List Char) :
    f.place rest = f := by
  rw [Failure.place, if_pos h.2]

section Limited

variable {α β : Type} {fits fits' : Prop} {reading : Reading α} {a : α} {rest : List Char}
  {read : β × List Char}

theorem Limited.congr {read : α × List Char} (h : Limited fits reading read)
    (hfits : fits' ↔ fits) : Limited fits' reading read :=
  ⟨fun hf => h.ok (hfits.mp hf), fun hf => h.error (fun hf' => hf (hfits.mpr hf'))⟩

/-- One reading after another: the text fits if both parts do. -/
theorem Limited.bind (k : α × List Char → Reading β) (h : Limited fits reading (a, rest))
    (h' : Limited fits' (k (a, rest)) read) :
    Limited (fits ∧ fits') (reading.bind k) read := by
  constructor
  · rintro ⟨hf, hf'⟩
    rw [h.ok hf]
    exact h'.ok hf'
  · intro hn
    by_cases hf : fits
    · rw [h.ok hf]
      exact h'.error (fun hf' => hn ⟨hf, hf'⟩)
    · obtain ⟨f, hr, hover⟩ := h.error hf
      exact ⟨f, by rw [hr]; rfl, hover⟩

theorem Limited.bind_ok (k : α × List Char → Reading β) (h : Limited fits reading (a, rest))
    (hk : k (a, rest) = .ok read) : Limited fits (reading.bind k) read := by
  have hlast : Limited True (k (a, rest)) read := ⟨fun _ => hk, fun hn => absurd trivial hn⟩
  exact (h.bind k hlast).congr (iff_of_eq (and_true fits)).symm

theorem Limited.map (g : α → β) (h : Limited fits reading (a, rest)) :
    Limited fits (reading.map fun (a, rest) => (g a, rest)) (g a, rest) := by
  have hbind : reading.map (fun (a, rest) => (g a, rest)) =
      reading.bind fun read => .ok (g read.1, read.2) := by
    cases reading <;> rfl
  rw [hbind]
  exact h.bind_ok _ rfl

theorem Limited.enclose {b : Bracket} (body : Reader α) {text : List Char}
    (h : Limited fits (body text) (a, b.closing :: rest)) :
    Limited fits (b.enclose body text) (a, rest) := by
  constructor
  · intro hf
    have hclose : b.close (b.closing :: rest) = .ok rest := by
      cases b <;> rfl
    simp only [Bracket.enclose, h.ok hf, hclose]
  · intro hf
    obtain ⟨f, hr, hover⟩ := h.error hf
    refine ⟨f, ?_, hover⟩
    simp only [Bracket.enclose, hr, hover.place]

end Limited

section Fold

variable {σ : Type} (indent : Indent)

theorem foldElements_cons (step : σ → Reader σ) (first : Bool) {d : Document} (h : d.Exact)
    (ds : List Document) (tick : Char) (ticks : List Char) (state : σ) (rest : List Char) :
    foldElements step (tick :: ticks) first state (elementsText indent first (d :: ds) rest) =
      Except.bind (step state (d.text indent.deeper (itemsText indent ds rest)))
        fun read => foldElements step ticks false read.1 read.2 := by
  simp only [foldElements, elementsText, nextElement_lead h]
  cases step state (d.text indent.deeper (itemsText indent ds rest)) <;> rfl

theorem foldElements_elementsText (step : σ → Reader σ) (next : σ → Document → σ)
    (fits : Document → Prop) (ds : List Document) (first : Bool) (ticks : List Char) (state : σ)
    (rest : List Char) (hexact : ∀ d ∈ ds, d.Exact)
    (hstep : ∀ d ∈ ds, ∀ state rest, NumberEnds rest →
      Limited (fits d) (step state (d.text indent.deeper rest)) (next state d, rest))
    (hticks : ds.length < ticks.length) :
    Limited (∀ d ∈ ds, fits d)
      (foldElements step ticks first state (elementsText indent first ds rest))
      (ds.foldl next state, ']' :: rest) := by
  induction ds generalizing first ticks state with
  | nil =>
      obtain ⟨tick, ticks, rfl⟩ := List.exists_cons_of_length_pos hticks
      constructor
      · intro _
        simp only [foldElements, elementsText, nextElement_trail, List.foldl_nil]
      · intro hf
        exact absurd (fun d hd => absurd hd List.not_mem_nil) hf
  | cons d ds ih =>
      obtain ⟨tick, ticks, rfl⟩ := List.exists_cons_of_length_pos (Nat.zero_lt_of_lt hticks)
      rw [List.forall_mem_cons] at hexact hstep
      have hd := hstep.1 state (itemsText indent ds rest) (numberEnds_itemsText indent ds rest)
      have hds := ih false ticks (next state d) hexact.2 hstep.2 (Nat.lt_of_succ_lt_succ hticks)
      rw [← itemsText_eq] at hds
      refine Limited.congr ?_ List.forall_mem_cons
      rw [foldElements_cons indent step first hexact.1]
      exact hd.bind _ hds

theorem foldMembers_cons (step : σ → String → Reader σ) (first : Bool) (m : String × Document)
    (ms : List (String × Document)) (tick : Char) (ticks : List Char) (state : σ)
    (rest : List Char) :
    foldMembers step (tick :: ticks) first state (fieldsText indent first (m :: ms) rest) =
      Except.bind
        (step state m.1 (indent.colon (m.2.text indent.deeper (membersText indent ms rest))))
        fun read => foldMembers step ticks false read.1 read.2 := by
  simp only [foldMembers, fieldsText, stringText_eq, nextMember_lead, readString_escaped,
    String.ofList_toList]
  cases step state m.1 (indent.colon (m.2.text indent.deeper (membersText indent ms rest))) <;> rfl

theorem foldMembers_fieldsText (step : σ → String → Reader σ)
    (next : σ → String × Document → σ) (fits : String × Document → Prop)
    (ms : List (String × Document)) (first : Bool) (ticks : List Char) (state : σ)
    (rest : List Char)
    (hstep : ∀ m ∈ ms, ∀ state rest, NumberEnds rest →
      Limited (fits m) (step state m.1 (indent.colon (m.2.text indent.deeper rest)))
        (next state m, rest))
    (hticks : ms.length < ticks.length) :
    Limited (∀ m ∈ ms, fits m)
      (foldMembers step ticks first state (fieldsText indent first ms rest))
      (ms.foldl next state, '\x7d' :: rest) := by
  induction ms generalizing first ticks state with
  | nil =>
      obtain ⟨tick, ticks, rfl⟩ := List.exists_cons_of_length_pos hticks
      constructor
      · intro _
        simp only [foldMembers, fieldsText, nextMember_trail, List.foldl_nil]
      · intro hf
        exact absurd (fun m hm => absurd hm List.not_mem_nil) hf
  | cons m ms ih =>
      obtain ⟨tick, ticks, rfl⟩ := List.exists_cons_of_length_pos (Nat.zero_lt_of_lt hticks)
      rw [List.forall_mem_cons] at hstep
      have hm := hstep.1 state (membersText indent ms rest) (numberEnds_membersText indent ms rest)
      have hms := ih false ticks (next state m) hstep.2 (Nat.lt_of_succ_lt_succ hticks)
      rw [← membersText_eq] at hms
      refine Limited.congr ?_ List.forall_mem_cons
      rw [foldMembers_cons]
      exact hm.bind _ hms

end Fold

theorem length_lt_clock_elementsText (indent : Indent) (ds : List Document) (rest : List Char) :
    ds.length < (Text.clock (elementsText indent true ds rest)).length := by
  rw [Text.clock, List.length_cons]
  cases ds with
  | nil => exact Nat.succ_pos _
  | cons d ds =>
      have hitems := length_add_lt_itemsText indent ds rest
      have htext := le_length_text indent.deeper d (itemsText indent ds rest)
      have hbreak := le_length_lineBreak indent.deeper
        (d.text indent.deeper (itemsText indent ds rest))
      simp only [elementsText, lead, if_true, List.length_cons]
      omega

theorem length_lt_clock_fieldsText (indent : Indent) (ms : List (String × Document))
    (rest : List Char) : ms.length < (Text.clock (fieldsText indent true ms rest)).length := by
  rw [Text.clock, List.length_cons]
  cases ms with
  | nil => exact Nat.succ_pos _
  | cons m ms =>
      have hmembers := length_add_lt_membersText indent ms rest
      have htext := le_length_text indent.deeper m.2 (membersText indent ms rest)
      have hname := le_length_named indent m.1 (m.2.text indent.deeper (membersText indent ms rest))
      simp only [fieldsText, lead, if_true, List.length_cons]
      omega

theorem readDocument_congr {budget : Nat} {text text' : List Char}
    (h : skipBlanks text = skipBlanks text') : readDocument budget text = readDocument budget text' := by
  cases budget <;> rw [readDocument, readDocument, h]

section Body

variable {σ : Type} (indent : Indent) (state : σ) (rest : List Char)

theorem elements_elementsText (step : σ → Reader σ) (next : σ → Document → σ)
    (fits : Document → Prop) (ds : List Document) (hexact : ∀ d ∈ ds, d.Exact)
    (hstep : ∀ d ∈ ds, ∀ state rest, NumberEnds rest →
      Limited (fits d) (step state (d.text indent.deeper rest)) (next state d, rest)) :
    Limited (∀ d ∈ ds, fits d) (elements step state (elementsText indent true ds rest))
      (ds.foldl next state, rest) :=
  Limited.enclose (b := .array)
    (fun text => foldElements step (Text.clock text) true state text)
    (foldElements_elementsText indent step next fits ds true _ state rest hexact hstep
      (length_lt_clock_elementsText indent ds rest))

theorem members_fieldsText (step : σ → String → Reader σ) (next : σ → String × Document → σ)
    (fits : String × Document → Prop) (ms : List (String × Document))
    (hstep : ∀ m ∈ ms, ∀ state rest, NumberEnds rest →
      Limited (fits m) (step state m.1 (indent.colon (m.2.text indent.deeper rest)))
        (next state m, rest)) :
    Limited (∀ m ∈ ms, fits m) (members step state (fieldsText indent true ms rest))
      (ms.foldl next state, rest) :=
  Limited.enclose (b := .object)
    (fun text => foldMembers step (Text.clock text) true state text)
    (foldMembers_fieldsText indent step next fits ms true _ state rest hstep
      (length_lt_clock_fieldsText indent ms rest))

end Body

theorem Limited.memberValue {fits : Prop} {budget : Nat} {text rest : List Char} {d : Document}
    (h : Limited fits (readDocument budget text) (d, rest)) (indent : Indent) :
    Limited fits (readMemberValue (readDocument budget) (indent.colon text)) (d, rest) := by
  obtain ⟨blanks, hcolon, hskip⟩ := readColon_colon indent text
  simp only [readMemberValue, hcolon]
  rw [readDocument_congr hskip]
  exact h

theorem readDocument_atom {c : Char} {cs : List Char} (hblank : isBlank c = false) (harray : c ≠ '[')
    (hobject : c ≠ '\x7b') (budget : Nat) : readDocument budget (c :: cs) = readAtom (c :: cs) := by
  cases budget <;> simp [readDocument, skipBlanks_cons hblank, harray, hobject]

theorem readDocument_text_of_nesting_eq_zero (budget : Nat) {d : Document} (h : d.Exact)
    (hzero : d.nesting = 0) (indent : Indent) {rest : List Char} (hr : NumberEnds rest) :
    Limited (d.nesting ≤ budget) (readDocument budget (d.text indent rest)) (d, rest) := by
  have hread : readDocument budget (d.text indent rest) = .ok (d, rest) := by
    cases h with
    | null => exact readDocument_atom rfl (by decide) (by decide) budget
    | bool b => cases b <;> exact readDocument_atom rfl (by decide) (by decide) budget
    | string s =>
        rw [Document.text, ← readAtom_string s rest]
        exact readDocument_atom rfl (by decide) (by decide) budget
    | integer n hlow hhigh =>
        obtain ⟨c, cs, hc, hblank, -, harray, hobject⟩ :=
          exists_integerText_append_eq_cons n rest
        rw [Document.text, ← readAtom_integer hlow hhigh hr, hc]
        exact readDocument_atom hblank harray hobject budget
    | array items => cases hzero
    | object ms => cases hzero
  exact ⟨fun _ => hread, fun hf => absurd (hzero ▸ Nat.zero_le budget) hf⟩

theorem collect_eq_map {α : Type} (item : Reader α) (collected : List α) (text : List Char) :
    collect item collected text = (item text).map fun (a, rest) => (a :: collected, rest) := by
  rw [collect]
  cases item text <;> rfl

theorem collectMember_eq_map {α : Type} (value : Reader α) (collected : List (String × α))
    (name : String) (text : List Char) :
    collectMember value collected name text =
      (readMemberValue value text).map fun (a, rest) => ((name, a) :: collected, rest) := by
  rw [collectMember]
  cases readMemberValue value text <;> rfl

theorem readDocument_array (budget : Nat) (body : List Char) :
    readDocument (budget + 1) ('[' :: body) =
      (elements (collect (readDocument budget)) [] body).map
        fun (items, rest) => (.array items.reverse, rest) := by
  have hskip : skipBlanks ('[' :: body) = '[' :: body := rfl
  simp only [readDocument, hskip]
  cases elements (collect (readDocument budget)) [] body <;> rfl

theorem readDocument_object (budget : Nat) (body : List Char) :
    readDocument (budget + 1) ('\x7b' :: body) =
      (members (collectMember (readDocument budget)) [] body).map
        fun (ms, rest) => (.object ms.reverse, rest) := by
  have hskip : skipBlanks ('\x7b' :: body) = '\x7b' :: body := rfl
  simp only [readDocument, hskip]
  cases members (collectMember (readDocument budget)) [] body <;> rfl

/-- A written document is read back if it fits into the budget. -/
theorem readDocument_text (budget : Nat) {d : Document} (h : d.Exact) (indent : Indent)
    {rest : List Char} (hr : NumberEnds rest) :
    Limited (d.nesting ≤ budget) (readDocument budget (d.text indent rest)) (d, rest) := by
  by_cases hzero : d.nesting = 0
  · exact readDocument_text_of_nesting_eq_zero budget h hzero indent hr
  induction budget generalizing d indent rest with
  | zero =>
      refine ⟨fun hf => absurd (Nat.le_zero.mp hf) hzero, fun _ => ?_⟩
      cases h with
      | array items => exact ⟨_, by rw [text_array]; rfl, rfl, rfl⟩
      | object ms => exact ⟨_, by rw [text_object]; rfl, rfl, rfl⟩
      | _ => exact absurd rfl hzero
  | succ budget ih =>
      -- Items are read with one level less, at whatever indentation they stand.
      have hitem : ∀ {d : Document}, d.Exact → ∀ (indent : Indent) {rest : List Char},
          NumberEnds rest →
          Limited (d.nesting ≤ budget) (readDocument budget (d.text indent rest)) (d, rest) := by
        intro d h indent rest hr
        by_cases hzero : d.nesting = 0
        · exact readDocument_text_of_nesting_eq_zero budget h hzero indent hr
        · exact ih h indent hr hzero
      cases h with
      | array items hitems =>
          have hread := elements_elementsText indent [] rest (collect (readDocument budget))
            (fun ds d => d :: ds) (fun d => d.nesting ≤ budget) items hitems (by
              intro d hd state rest hr
              rw [collect_eq_map]
              exact (hitem (hitems d hd) indent.deeper hr).map (· :: state))
          rw [List.foldl_flip_cons_eq_append', List.append_nil] at hread
          have hall := hread.map fun ds => Document.array ds.reverse
          rw [List.reverse_reverse] at hall
          rw [text_array, readDocument_array]
          refine hall.congr ?_
          rw [Document.nesting, Nat.add_le_add_iff_right, itemsNesting_le_iff]
      | object ms hms =>
          have hread := members_fieldsText indent [] rest (collectMember (readDocument budget))
            (fun ms m => m :: ms) (fun m => m.2.nesting ≤ budget) ms (by
              intro m hm state rest hr
              rw [collectMember_eq_map]
              exact ((hitem (hms m hm) indent.deeper hr).memberValue indent).map
                fun d => (m.1, d) :: state)
          rw [List.foldl_flip_cons_eq_append', List.append_nil] at hread
          have hall := hread.map fun ms => Document.object ms.reverse
          rw [List.reverse_reverse] at hall
          rw [text_object, readDocument_object]
          refine hall.congr ?_
          rw [Document.nesting, Nat.add_le_add_iff_right, membersNesting_le_iff]
      | _ => exact absurd rfl hzero

end FilterClause.Json
