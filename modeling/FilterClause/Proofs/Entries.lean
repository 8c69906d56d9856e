import FilterClause.Proofs.Following
import FilterClause.Settings
import Mathlib.Data.List.DropRight

/-!
What a settings file says. Its fields are taken as documents first, by name from an object and by place
from an array; what is read for a field is what its document spells, and null spells nothing given.
-/

namespace FilterClause

open Json (Document Failure Reader Reading Follows)

/-- The documents that stand in a settings file. -/
structure Entries where
  dialect : Option Document := none
  column : Option Document := none
  maxDepth : Option Document := none

namespace Entries

def memberOf (budget : Nat) (entries : Entries) (name : String) (rest : List Char) :
    Reading Entries :=
  match name with
  | "dialect" =>
    (Json.readField name entries.dialect (Json.readDocument budget) rest).map fun (d, rest) =>
      ({ entries with dialect := some d }, rest)
  | "column" =>
    (Json.readField name entries.column (Json.readDocument budget) rest).map fun (d, rest) =>
      ({ entries with column := some d }, rest)
  | "max_depth" =>
    (Json.readField name entries.maxDepth (Json.readDocument budget) rest).map fun (d, rest) =>
      ({ entries with maxDepth := some d }, rest)
  | _ => (Json.skipMember rest).map fun rest => (entries, rest)

def ofElements (budget : Nat) (rest : List Char) : Except Failure (Entries × List Char) := do
  let (dialect, rest) ← Json.readElement? (Json.readDocument budget) true rest
  let (column, rest) ← Json.readElement? (Json.readDocument budget) false rest
  let (maxDepth, rest) ← Json.readElement? (Json.readDocument budget) false rest
  .ok (⟨dialect, column, maxDepth⟩, rest)

def read : Nat → Reader Entries :=
  Json.readRecord "struct CliSettings" ofElements fun budget => Json.recordMembers (memberOf budget) {}

end Entries

namespace Json.Document

/-- A dialect cannot be left open by null. -/
inductive SpellsDialect : Document → Option DialectKind → Prop
  | name (kind : DialectKind) : SpellsDialect (.string kind.settingName) (some kind)
  | tagged (kind : DialectKind) : SpellsDialect (.object [(kind.settingName, .null)]) (some kind)

inductive SpellsColumn : Document → Option String → Prop
  | null : SpellsColumn .null none
  | given (column : String) : SpellsColumn (.string column) (some column)

inductive SpellsMaxDepth : Document → Option Nat → Prop
  | null : SpellsMaxDepth .null none
  | given (maxDepth : Nat) : SpellsMaxDepth (.integer maxDepth) (some maxDepth)

end Json.Document

theorem DialectKind.settingName_inj {kind kind' : DialectKind}
    (h : kind.settingName = kind'.settingName) : kind = kind' := by
  cases kind <;> cases kind' <;> first | rfl | exact absurd h (by decide)

namespace Json.Document

theorem SpellsDialect.unique {d : Document} {x x' : Option DialectKind} (h : d.SpellsDialect x)
    (h' : d.SpellsDialect x') : x = x' := by
  cases h with
  | name kind =>
      generalize hd : string kind.settingName = d at h'
      cases h' with
      | name kind' => rw [DialectKind.settingName_inj (string.inj hd)]
      | tagged kind' => cases hd
  | tagged kind =>
      generalize hd : object [(kind.settingName, null)] = d at h'
      cases h' with
      | name kind' => cases hd
      | tagged kind' =>
          simp only [object.injEq, List.cons.injEq, Prod.mk.injEq, and_true] at hd
          rw [DialectKind.settingName_inj hd]

theorem SpellsColumn.unique {d : Document} {x x' : Option String} (h : d.SpellsColumn x)
    (h' : d.SpellsColumn x') : x = x' := by
  cases h <;> cases h' <;> rfl

theorem SpellsMaxDepth.unique {d : Document} {x x' : Option Nat} (h : d.SpellsMaxDepth x)
    (h' : d.SpellsMaxDepth x') : x = x' := by
  cases h with
  | null => cases h'; rfl
  | given n =>
      generalize hd : integer n = d at h'
      cases h' with
      | null => cases hd
      | given n' => rw [Int.ofNat_inj.mp (integer.inj hd)]

end Json.Document

namespace Json

theorem readDocument_of_readAtom {budget : Nat} {text rest : List Char} {d : Document}
    (h : readAtom (skipBlanks text) = .ok (d, rest)) : readDocument budget text = .ok (d, rest) := by
  unfold readDocument
  split
  · rename_i body htext
    rw [htext] at h
    cases readsAtom_of_eq_ok h with
    | integer hc => exact absurd hc (by decide)
    | float hc => exact absurd hc (by decide)
  · rename_i body htext
    rw [htext] at h
    cases readsAtom_of_eq_ok h with
    | integer hc => exact absurd hc (by decide)
    | float hc => exact absurd hc (by decide)
  · exact h

theorem readDocument_of_readStringValue {budget : Nat} {expected : String}
    {text rest : List Char} {s : String} (h : readStringValue expected text = .ok (s, rest)) :
    readDocument budget text = .ok (.string s, rest) := by
  unfold readStringValue at h
  split at h
  · rename_i body htext
    obtain ⟨⟨cs, rest'⟩, hread, hs⟩ := Except.map_eq_ok_iff.mp h
    cases hs
    refine readDocument_of_readAtom ?_
    rw [htext]
    exact Except.bind_eq_ok_iff.mpr ⟨_, hread, rfl⟩
  · exact absurd h (refuse_ne_ok expected _ _)

theorem readDocument_of_readKeyword {budget : Nat} {text body rest : List Char}
    (htext : skipBlanks text = 'n' :: body) (h : readKeyword ['u', 'l', 'l'] body = .ok rest) :
    readDocument budget text = .ok (.null, rest) := by
  refine readDocument_of_readAtom ?_
  rw [htext]
  exact Except.bind_eq_ok_iff.mpr ⟨rest, h, rfl⟩

theorem follows_readOptional {α : Type} {budget : Nat} {value : Reader α}
    {spells : Document → Option α → Prop} (hnull : spells .null none)
    (h : Follows (readDocument budget) value fun d a => spells d (some a)) :
    Follows (readDocument budget) (readOptional value) spells := by
  intro text a rest hread
  unfold readOptional at hread
  split at hread
  · rename_i body htext
    obtain ⟨rest', hkeyword, ha⟩ := Except.map_eq_ok_iff.mp hread
    cases ha
    exact ⟨.null, readDocument_of_readKeyword htext hkeyword, hnull⟩
  · obtain ⟨⟨a, rest'⟩, hvalue, ha⟩ := Except.map_eq_ok_iff.mp hread
    cases ha
    obtain ⟨d, hd, hspells⟩ := h _ a rest hvalue
    refine ⟨d, ?_, hspells⟩
    rw [← hd]
    exact readDocument_congr (List.dropWhile_idempotent isBlank text).symm

end Json

theorem follows_readColumn (budget : Nat) :
    Follows (Json.readDocument budget) CommandSettings.readColumn Document.SpellsColumn :=
  Json.follows_readOptional .null fun _ column _ h =>
    ⟨.string column, Json.readDocument_of_readStringValue h, .given column⟩

theorem follows_readMaxDepth (budget : Nat) :
    Follows (Json.readDocument budget) CommandSettings.readMaxDepth Document.SpellsMaxDepth := by
  refine Json.follows_readOptional .null ?_
  intro text maxDepth rest h
  unfold Json.readCount at h
  split at h
  · rename_i n rest' hatom
    split at h
    · cases h
    · rename_i hn
      cases h
      refine ⟨.integer n, Json.readDocument_of_readAtom hatom, ?_⟩
      have hspells := Document.SpellsMaxDepth.given n.toNat
      rw [Int.toNat_of_nonneg (Int.not_lt.mp hn)] at hspells
      exact hspells
  · exact absurd h (Json.refuse_ne_ok _ _ _)

theorem DialectKind.ofSetting_eq_ok {name : String} {kind : DialectKind}
    (h : DialectKind.ofSetting name = .ok kind) : name = kind.settingName := by
  rw [DialectKind.ofSetting] at h
  cases hfind : DialectKind.all.find? fun kind => kind.settingName == name with
  | none =>
      rw [hfind] at h
      cases h
  | some kind' =>
      rw [hfind] at h
      cases h
      have hname := List.find?_some hfind
      exact (eq_of_beq hname).symm

theorem DialectKind.readStringValue_of_readName {text rest : List Char} {kind : DialectKind}
    (h : DialectKind.readName text = .ok (kind, rest)) :
    Json.readStringValue "variant identifier" text = .ok (kind.settingName, rest) := by
  unfold DialectKind.readName at h
  split at h
  · rename_i name rest' hname
    split at h
    · rename_i kind' hkind
      cases h
      rw [hname, DialectKind.ofSetting_eq_ok hkind]
    · cases h
  · cases h

theorem DialectKind.nextMember_of_readMemberName {body behind : List Char} {kind : DialectKind}
    (h : DialectKind.readMemberName body = .ok (kind, behind)) :
    ∃ named cs, Json.nextMember true body = .ok (true, named) ∧
      Json.readString named = .ok (cs, behind) ∧ String.ofList cs = kind.settingName := by
  unfold DialectKind.readMemberName at h
  split at h
  · rename_i named hbody
    have hname := DialectKind.readStringValue_of_readName h
    have hquote : Json.skipBlanks ('"' :: named) = '"' :: named := rfl
    rw [Json.readStringValue, hquote] at hname
    obtain ⟨⟨cs, behind'⟩, hread, hcs⟩ := Except.map_eq_ok_iff.mp hname
    simp only [Prod.mk.injEq] at hcs
    obtain ⟨hcs, rfl⟩ := hcs
    refine ⟨named, cs, ?_, hread, hcs⟩
    rw [Json.nextMember, hbody]
    rfl
  all_goals cases h

theorem DialectKind.readDocument_of_readNull {budget : Nat} {text rest : List Char}
    (h : DialectKind.readNull text = .ok rest) : Json.readDocument budget text = .ok (.null, rest) := by
  unfold DialectKind.readNull at h
  split at h
  · rename_i body htext
    exact Json.readDocument_of_readKeyword htext h
  · obtain ⟨read, hread, -⟩ := Except.map_eq_ok_iff.mp h
    exact absurd hread (Json.refuse_ne_ok _ _ _)

theorem DialectKind.readDocument_of_readMember {budget : Nat} {text body rest : List Char}
    {kind : DialectKind} (htext : Json.skipBlanks text = '\x7b' :: body)
    (h : DialectKind.readMember body = .ok (kind, rest)) :
    Json.readDocument (budget + 1) text = .ok (.object [(kind.settingName, .null)], rest) := by
  obtain ⟨⟨kind', behind⟩, hname, h⟩ := Except.bind_eq_ok_iff.mp h
  obtain ⟨valued, hcolon, h⟩ := Except.bind_eq_ok_iff.mp h
  obtain ⟨closed, hnull, h⟩ := Except.bind_eq_ok_iff.mp h
  obtain ⟨named, cs, hnext, hread, hcs⟩ := DialectKind.nextMember_of_readMemberName hname
  have hvalue : Json.readMemberValue (Json.readDocument budget) behind = .ok (.null, closed) :=
    Json.readMemberValue_eq_ok_iff.mpr
      ⟨valued, hcolon, DialectKind.readDocument_of_readNull hnull⟩
  have hclosed : Json.skipBlanks closed = '\x7d' :: rest ∧ kind' = kind := by
    split at h
    · rename_i rest' hclosed
      cases h
      exact ⟨hclosed, rfl⟩
    all_goals cases h
  obtain ⟨hclosed, rfl⟩ := hclosed
  have hend : Json.nextMember false closed = .ok (false, '\x7d' :: rest) := by
    rw [Json.nextMember, hclosed]
    rfl
  -- The body has a character at least, so that there are ticks for the member and for the end.
  obtain ⟨c, body, rfl⟩ : ∃ c cs, body = c :: cs := by
    cases body with
    | nil => cases hnext
    | cons c cs => exact ⟨c, cs, rfl⟩
  have hobject : Json.members (Json.collectMember (Json.readDocument budget)) [] (c :: body) =
      .ok ([(kind'.settingName, .null)], rest) := by
    refine Json.Bracket.enclose_eq_ok_iff.mpr ⟨'\x7d' :: rest, ?_, rfl⟩
    simp only [Text.clock, Json.foldMembers, hnext, hread, Json.collectMember, hvalue, hend, hcs]
  have hbody : Json.skipBlanks text = Json.skipBlanks ('\x7b' :: c :: body) := htext
  rw [Json.readDocument_congr hbody, Json.readDocument_object, hobject]
  rfl

theorem follows_readDialect (budget : Nat) :
    Follows (Json.readDocument budget) (DialectKind.read budget) fun d kind =>
      d.SpellsDialect (some kind) := by
  intro text kind rest h
  unfold DialectKind.read at h
  split at h
  · rename_i body htext
    refine ⟨_, ?_, .name kind⟩
    rw [← Json.readDocument_of_readStringValue (DialectKind.readStringValue_of_readName h)]
    refine Json.readDocument_congr ?_
    rw [htext]
    rfl
  · rename_i body htext
    cases budget with
    | zero => cases h
    | succ budget => exact ⟨_, DialectKind.readDocument_of_readMember htext h, .tagged kind⟩
  · cases h
  · cases h

/-- What is read for each field is what its document spells. -/
structure Entries.Spell (entries : Entries) (f : CommandSettings.Fields) : Prop where
  dialect : Option.Rel (fun d kind => d.SpellsDialect (some kind)) entries.dialect f.dialect
  column : Option.Rel Document.SpellsColumn entries.column f.column
  maxDepth : Option.Rel Document.SpellsMaxDepth entries.maxDepth f.maxDepth

theorem Entries.memberOf_of_ne (budget : Nat) (entries : Entries) {name : String}
    (hdialect : name ≠ "dialect") (hcolumn : name ≠ "column") (hmaxDepth : name ≠ "max_depth")
    (text : List Char) :
    Entries.memberOf budget entries name text = (Json.skipMember text).map fun rest => (entries, rest) := by
  unfold Entries.memberOf
  split
  · exact absurd rfl hdialect
  · exact absurd rfl hcolumn
  · exact absurd rfl hmaxDepth
  · rfl

theorem follows_memberOf (budget : Nat) (entries : Entries) (f : CommandSettings.Fields)
    (h : entries.Spell f) (name : String) :
    Follows (Entries.memberOf budget entries name) (CommandSettings.memberOf budget f name)
      Entries.Spell := by
  intro text f' rest hread
  unfold CommandSettings.memberOf at hread
  split at hread
  · exact ((follows_readDialect budget).field "dialect" h.dialect).map
      (S := Entries.Spell) (f := fun d => { entries with dialect := some d })
      (g := fun a => { f with dialect := some a }) (fun _ _ hspells =>
        ⟨.some hspells, h.column, h.maxDepth⟩) text f' rest hread
  · exact ((follows_readColumn budget).field "column" h.column).map
      (S := Entries.Spell) (f := fun d => { entries with column := some d })
      (g := fun a => { f with column := some a }) (fun _ _ hspells =>
        ⟨h.dialect, .some hspells, h.maxDepth⟩) text f' rest hread
  · exact ((follows_readMaxDepth budget).field "max_depth" h.maxDepth).map
      (S := Entries.Spell) (f := fun d => { entries with maxDepth := some d })
      (g := fun a => { f with maxDepth := some a }) (fun _ _ hspells =>
        ⟨h.dialect, h.column, .some hspells⟩) text f' rest hread
  · rename_i hdialect hcolumn hmaxDepth
    obtain ⟨rest', hskip, hf⟩ := Except.map_eq_ok_iff.mp hread
    cases hf
    refine ⟨entries, ?_, h⟩
    rw [Entries.memberOf_of_ne budget entries hdialect hcolumn hmaxDepth, hskip]
    rfl

/-- Settings are read only from what spells them. -/
theorem follows_readSettings (budget : Nat) :
    Follows (Entries.read budget) (CommandSettings.read budget) fun entries s =>
      ∃ f, entries.Spell f ∧ s = f.finish := by
  refine .record (fun budget => ?_) (fun budget => ?_) budget
  · intro text s rest h
    obtain ⟨⟨dialect, rest₁⟩, hdialect, h⟩ := Except.bind_eq_ok_iff.mp h
    obtain ⟨⟨column, rest₂⟩, hcolumn, h⟩ := Except.bind_eq_ok_iff.mp h
    obtain ⟨⟨maxDepth, rest₃⟩, hmaxDepth, h⟩ := Except.bind_eq_ok_iff.mp h
    cases h
    obtain ⟨d, hd, hdspells⟩ := (follows_readDialect budget).element? true _ _ _ hdialect
    obtain ⟨c, hc, hcspells⟩ := (follows_readColumn budget).element? false _ _ _ hcolumn
    obtain ⟨m, hm, hmspells⟩ := (follows_readMaxDepth budget).element? false _ _ _ hmaxDepth
    refine ⟨⟨d, c, m⟩, ?_, ⟨dialect, column, maxDepth⟩, ⟨hdspells, hcspells, hmspells⟩, rfl⟩
    exact Except.bind_eq_ok_iff.mpr ⟨_, hd, Except.bind_eq_ok_iff.mpr ⟨_, hc,
      Except.bind_eq_ok_iff.mpr ⟨_, hm, rfl⟩⟩⟩
  · intro text s rest h
    obtain ⟨⟨f, rest₁⟩, hf, h⟩ := Except.bind_eq_ok_iff.mp h
    cases h
    obtain ⟨entries, hentries, hspells⟩ :=
      Follows.recordMembers (fun entries f h name => follows_memberOf budget entries f h name)
        (t := {}) ⟨.none, .none, .none⟩ text f rest hf
    exact ⟨entries, hentries, f, hspells, rfl⟩

end FilterClause
