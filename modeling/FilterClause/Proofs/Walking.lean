import FilterClause.Proofs.Fields
import FilterClause.Proofs.Rereading

/-!
One text under two readers. Where the reader of documents gets through a text, another reader that is
driven by the same brackets, names and commas stands at the same places, so that what it makes of the
text is told by the document.
-/

namespace FilterClause.Json

theorem readMemberValue_eq_ok_iff {α : Type} {value : Reader α} {rest rest' : List Char} {a : α} :
    readMemberValue value rest = .ok (a, rest') ↔
      ∃ behind, readColon rest = .ok behind ∧ value behind = .ok (a, rest') := by
  rw [readMemberValue]
  cases readColon rest with
  | error f => simp only [reduceCtorEq, false_and, exists_false]
  | ok behind => simp only [Except.ok.injEq, exists_eq_left']

theorem readField_eq_ok_iff {α : Type} {name : String} {slot : Option α} {value : Reader α}
    {text rest : List Char} {a : α} :
    readField name slot value text = .ok (a, rest) ↔
      slot = none ∧ readMemberValue value text = .ok (a, rest) := by
  rw [readField]
  cases slot with
  | none => exact ⟨fun h => ⟨rfl, h⟩, fun h => h.2⟩
  | some b => exact ⟨fun h => (nomatch h), fun h => (nomatch h.1)⟩

theorem settle_eq_ok_iff {α : Type} {outcome : Except Fault α} {text rest : List Char} {a : α} :
    settle outcome text = .ok (a, rest) ↔ outcome = .ok a ∧ rest = text := by
  cases outcome with
  | error fault => exact ⟨fun h => (nomatch h), fun h => (nomatch h.1)⟩
  | ok b => simp only [settle, Except.ok.injEq, Prod.mk.injEq, eq_comm]

/-- A typed reader makes of the text of a document what `view` makes of the document, at least of the
documents in question, and stops where the document ends. -/
structure ReadsAs {α : Type} (budget : Nat) (value : Reader α) (view : Document → Option α)
    (p : Document → Prop) : Prop where
  iff : ∀ {text rest : List Char} {d : Document}, readDocument budget text = .ok (d, rest) → p d →
    ∀ a last, value text = .ok (a, last) ↔ view d = some a ∧ last = rest

/-- Takes a value into a field that may be given once. -/
def once {α σ : Type} (slot : Option α) (read : Option α) (set : α → σ) : Option σ :=
  match slot with
  | none => read.map set
  | some _ => none

theorem ReadsAs.readField_eq_ok_iff {α σ : Type} {budget : Nat} {value : Reader α}
    {view : Document → Option α} {p : Document → Prop} (hvalue : ReadsAs budget value view p)
    {text rest : List Char} {d : Document}
    (h : readMemberValue (readDocument budget) text = .ok (d, rest)) (hd : p d) {name : String}
    {slot : Option α} (set : α → σ) {state : σ} {last : List Char} :
    (readField name slot value text).map (fun read => (set read.1, read.2)) = .ok (state, last) ↔
      once slot (view d) set = some state ∧ last = rest := by
  obtain ⟨behind, hcolon, hread⟩ := readMemberValue_eq_ok_iff.mp h
  have hbehind : readMemberValue value text = value behind := by
    rw [readMemberValue, hcolon]
  simp only [Except.map_eq_ok_iff, Json.readField_eq_ok_iff, hbehind, Prod.exists,
    hvalue.iff hread hd, Prod.mk.injEq]
  cases slot with
  | none =>
      simp only [once, Option.map_eq_some_iff, true_and]
      constructor
      · rintro ⟨a, _, ⟨ha, rfl⟩, hstate, rfl⟩
        exact ⟨⟨a, ha, hstate⟩, rfl⟩
      · rintro ⟨⟨a, ha, hstate⟩, rfl⟩
        exact ⟨a, _, ⟨ha, rfl⟩, hstate, rfl⟩
  | some b => simp only [once, reduceCtorEq, false_and, exists_false]

/-- The three ways in which a document is read. -/
inductive ReadsDocument : Nat → List Char → Document → List Char → Prop
  | array {budget : Nat} {text body : List Char} {items : List Document} {rest : List Char}
      (htext : skipBlanks text = '[' :: body)
      (hbody : elements (collect (readDocument budget)) [] body = .ok (items, rest)) :
      ReadsDocument (budget + 1) text (.array items.reverse) rest
  | object {budget : Nat} {text body : List Char} {ms : List (String × Document)}
      {rest : List Char} (htext : skipBlanks text = '\x7b' :: body)
      (hbody : members (collectMember (readDocument budget)) [] body = .ok (ms, rest)) :
      ReadsDocument (budget + 1) text (.object ms.reverse) rest
  | atom {budget : Nat} {text : List Char} {d : Document} {rest : List Char}
      (hatom : readAtom (skipBlanks text) = .ok (d, rest)) : ReadsDocument budget text d rest

theorem readsDocument_of_eq_ok {budget : Nat} {text rest : List Char} {d : Document}
    (h : readDocument budget text = .ok (d, rest)) : ReadsDocument budget text d rest := by
  unfold readDocument at h
  split at h
  · rename_i body htext
    split at h
    · cases h
    · split at h
      · rename_i hbody
        cases h
        exact .array htext hbody
      · cases h
  · rename_i body htext
    split at h
    · cases h
    · split at h
      · rename_i hbody
        cases h
        exact .object htext hbody
      · cases h
  · exact .atom h

/-- The ways in which a document without brackets is read. -/
inductive ReadsAtom : List Char → Document → List Char → Prop
  | null {body rest : List Char} (h : readKeyword ['u', 'l', 'l'] body = .ok rest) :
      ReadsAtom ('n' :: body) .null rest
  | true {body rest : List Char} (h : readKeyword ['r', 'u', 'e'] body = .ok rest) :
      ReadsAtom ('t' :: body) (.bool true) rest
  | false {body rest : List Char} (h : readKeyword ['a', 'l', 's', 'e'] body = .ok rest) :
      ReadsAtom ('f' :: body) (.bool false) rest
  | string {body cs rest : List Char} (h : readString body = .ok (cs, rest)) :
      ReadsAtom ('"' :: body) (.string (String.ofList cs)) rest
  | integer {c : Char} {body rest : List Char} {n : Int} (hc : (c = '-' || c.isDigit) = true)
      (h : readNumber (c :: body) = .ok (.integer n, rest)) :
      ReadsAtom (c :: body) (.integer n) rest
  | float {c : Char} {body rest : List Char} {x : Float} (hc : (c = '-' || c.isDigit) = true)
      (h : readNumber (c :: body) = .ok (.float x, rest)) : ReadsAtom (c :: body) (.float x) rest

theorem readsAtom_of_eq_ok {text rest : List Char} {d : Document}
    (h : readAtom text = .ok (d, rest)) : ReadsAtom text d rest := by
  unfold readAtom at h
  split at h
  · cases h
  · obtain ⟨rest', hread, hrest⟩ := Except.bind_eq_ok_iff.mp h
    cases hrest
    exact .null hread
  · obtain ⟨rest', hread, hrest⟩ := Except.bind_eq_ok_iff.mp h
    cases hrest
    exact .true hread
  · obtain ⟨rest', hread, hrest⟩ := Except.bind_eq_ok_iff.mp h
    cases hrest
    exact .false hread
  · obtain ⟨⟨cs, rest'⟩, hread, hrest⟩ := Except.bind_eq_ok_iff.mp h
    cases hrest
    exact .string hread
  · split at h
    · rename_i hc
      obtain ⟨⟨number, rest'⟩, hread, hrest⟩ := Except.bind_eq_ok_iff.mp h
      cases number with
      | integer n =>
          cases hrest
          exact .integer hc hread
      | float x =>
          cases hrest
          exact .float hc hread
    · cases h

theorem readStringValue_of_readDocument {budget : Nat} {text rest : List Char} {s : String}
    (h : readDocument budget text = .ok (.string s, rest)) (expected : String) :
    readStringValue expected text = .ok (s, rest) := by
  generalize hd : Document.string s = d at h
  cases readsDocument_of_eq_ok h with
  | array htext hbody => cases hd
  | object htext hbody => cases hd
  | atom hatom =>
      generalize htext : skipBlanks text = cs at hatom
      cases readsAtom_of_eq_ok hatom with
      | string hread =>
          cases hd
          rw [readStringValue, htext]
          simp only [hread, Except.map]
      | _ => cases hd

theorem exists_members_of_readDocument {budget : Nat} {text rest : List Char}
    {ms : List (String × Document)} (h : readDocument budget text = .ok (.object ms, rest)) :
    ∃ budget' body, budget = budget' + 1 ∧ skipBlanks text = '\x7b' :: body ∧
      members (collectMember (readDocument budget')) [] body = .ok (ms.reverse, rest) := by
  generalize hd : Document.object ms = d at h
  cases readsDocument_of_eq_ok h with
  | array htext hbody => cases hd
  | object htext hbody =>
      cases hd
      exact ⟨_, _, rfl, htext, by rw [List.reverse_reverse]; exact hbody⟩
  | atom hatom =>
      generalize skipBlanks text = cs at hatom
      cases readsAtom_of_eq_ok hatom <;> cases hd

theorem Bracket.enclose_eq_ok_iff {α : Type} {b : Bracket} {body : Reader α}
    {text rest : List Char} {a : α} :
    b.enclose body text = .ok (a, rest) ↔
      ∃ inner, body text = .ok (a, inner) ∧ b.close inner = .ok rest := by
  rw [Bracket.enclose]
  cases body text with
  | error f => simp only [reduceCtorEq, false_and, exists_false]
  | ok read =>
      obtain ⟨a', inner⟩ := read
      cases hclose : b.close inner with
      | error f =>
          simp only [Except.ok.injEq, Prod.mk.injEq]
          grind
      | ok rest' =>
          simp only [Except.ok.injEq, Prod.mk.injEq]
          grind

theorem readText_eq_ok_iff {α : Type} {value : Reader α} {text : String} {a : α} :
    readText value text = .ok a ↔
      ∃ rest, value text.toList = .ok (a, rest) ∧ skipBlanks rest = [] := by
  rw [readText]
  cases value text.toList with
  | error f => simp only [reduceCtorEq, false_and, exists_false]
  | ok read =>
      obtain ⟨b, rest⟩ := read
      simp only [Except.ok.injEq, Prod.mk.injEq]
      cases hrest : skipBlanks rest with
      | nil => grind
      | cons c cs => grind

/-- Members that are read one after another, a tick each, up to the closing bracket. -/
inductive ReadsMembers (value : Reader Document) :
    List Char → Bool → List Char → List (String × Document) → List Char → Prop
  | done {tick : Char} {ticks : List Char} {first : Bool} {text rest : List Char}
      (hnext : nextMember first text = .ok (false, rest)) :
      ReadsMembers value (tick :: ticks) first text [] rest
  | member {tick : Char} {ticks : List Char} {first : Bool} {text named cs behind rest : List Char}
      {d : Document} {ms : List (String × Document)} {last : List Char}
      (hnext : nextMember first text = .ok (true, named))
      (hname : readString named = .ok (cs, behind))
      (hvalue : readMemberValue value behind = .ok (d, rest))
      (hms : ReadsMembers value ticks false rest ms last) :
      ReadsMembers value (tick :: ticks) first text ((String.ofList cs, d) :: ms) last

theorem exists_readsMembers {value : Reader Document} {ticks : List Char} {first : Bool}
    {collected read : List (String × Document)} {text rest : List Char}
    (h : foldMembers (collectMember value) ticks first collected text = .ok (read, rest)) :
    ∃ ms, read = ms.reverse ++ collected ∧ ReadsMembers value ticks first text ms rest := by
  induction ticks generalizing first collected text with
  | nil => cases h
  | cons tick ticks ih =>
      rw [foldMembers] at h
      split at h
      · cases h
      · rename_i hnext
        cases h
        exact ⟨[], rfl, .done hnext⟩
      · rename_i named hnext
        split at h
        · cases h
        · rename_i cs behind hname
          rw [collectMember_eq_map] at h
          cases hvalue : readMemberValue value behind with
          | error f =>
              rw [hvalue] at h
              cases h
          | ok valued =>
              rw [hvalue] at h
              obtain ⟨ms, rfl, hms⟩ := ih h
              refine ⟨(String.ofList cs, valued.1) :: ms, ?_, .member hnext hname hvalue hms⟩
              rw [List.reverse_cons, List.append_assoc, List.singleton_append]

section Walk

variable {σ : Type} {value : Reader Document} {step : σ → String → Reader σ}
  {next : σ → String × Document → Option σ} {p : String × Document → Prop}

/-- If each step makes of a member what `next` makes of its name and value, then the loop makes of the
members what they make of it one after another, and it stops at the same place. -/
theorem ReadsMembers.walk {ticks : List Char} {first : Bool} {text rest : List Char}
    {ms : List (String × Document)} (h : ReadsMembers value ticks first text ms rest)
    (hstep : ∀ state name d text rest, readMemberValue value text = .ok (d, rest) → p (name, d) →
      ∀ state' last, step state name text = .ok (state', last) ↔
        next state (name, d) = some state' ∧ last = rest)
    (hp : ∀ m ∈ ms, p m) {state state' : σ} {last : List Char} :
    foldMembers step ticks first state text = .ok (state', last) ↔
      ms.foldlM next state = some state' ∧ last = rest := by
  induction h generalizing state with
  | done hnext =>
      simp only [foldMembers, hnext, Except.ok.injEq, Prod.mk.injEq, List.foldlM_nil,
        Option.pure_def, Option.some.injEq, eq_comm]
  | member hnext hname hvalue hms ih =>
      rw [List.forall_mem_cons] at hp
      rename_i cs behind rest d ms last'
      have hone := hstep state (String.ofList cs) d behind rest hvalue hp.1
      simp only [foldMembers, hnext, hname, List.foldlM_cons, Option.bind_eq_bind,
        Option.bind_eq_some_iff]
      cases hread : step state (String.ofList cs) behind with
      | error f =>
          simp only [hread, reduceCtorEq, false_iff] at hone ⊢
          grind
      | ok read =>
          obtain ⟨s, rest'⟩ := read
          obtain ⟨hs, rfl⟩ := (hone s rest').mp hread
          simp only [hs, Option.some.injEq, exists_eq_left', ← ih hp.2]

end Walk

theorem enclose_recordMembers_eq_ok_iff {σ : Type} {value : Reader Document}
    {step : σ → String → Reader σ} (next : σ → String × Document → Option σ)
    {p : String × Document → Prop} {body rest : List Char} {ms : List (String × Document)}
    (h : members (collectMember value) [] body = .ok (ms.reverse, rest))
    (hstep : ∀ state name d text rest, readMemberValue value text = .ok (d, rest) → p (name, d) →
      ∀ state' last, step state name text = .ok (state', last) ↔
        next state (name, d) = some state' ∧ last = rest)
    (hp : ∀ m ∈ ms, p m) {state state' : σ} {last : List Char} :
    Bracket.object.enclose (recordMembers step state) body = .ok (state', last) ↔
      ms.foldlM next state = some state' ∧ last = rest := by
  obtain ⟨inner, hfold, hclose⟩ := Bracket.enclose_eq_ok_iff.mp h
  obtain ⟨ms', hms', hreads⟩ := exists_readsMembers hfold
  rw [List.append_nil, List.reverse_inj] at hms'
  subst hms'
  simp only [Bracket.enclose_eq_ok_iff, recordMembers, hreads.walk hstep hp]
  constructor
  · rintro ⟨_, ⟨hs, rfl⟩, hlast⟩
    rw [hclose] at hlast
    cases hlast
    exact ⟨hs, rfl⟩
  · rintro ⟨hs, rfl⟩
    exact ⟨inner, ⟨hs, rfl⟩, hclose⟩

end FilterClause.Json
