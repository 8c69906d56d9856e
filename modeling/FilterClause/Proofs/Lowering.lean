import FilterClause.Dialect
import FilterClause.Proofs.Token

/-!
Lower case and the names of the dialects. A text of ASCII is lowered letter by letter. Outside of ASCII the
Kelvin sign alone has a small letter within; every other character, the dotted capital I with its two
included, leaves something outside behind. Since no dialect has a k in its names, a token that is lowered to
one of them is that name in letters from A to Z.
-/

namespace FilterClause

namespace Text

theorem covers_iff {run : CaseRun} {code : Nat} :
    run.covers code = true ↔
      run.first ≤ code ∧ code ≤ run.last ∧ (code - run.first) % run.stride = 0 := by
  simp only [CaseRun.covers, Bool.and_eq_true, decide_eq_true_eq, beq_iff_eq, and_assoc]

/-- The run from A to Z, the run of the Kelvin sign, and runs outside of ASCII whose small letters are
characters outside of ASCII too. -/
theorem caseRuns_cases : ∀ run ∈ caseRuns,
    (run.first = 0x41 ∧ run.last = 0x5A ∧ run.image = 0x61) ∨
    (run.first = 0x212A ∧ run.last = 0x212A) ∨
    (128 ≤ run.first ∧ 128 ≤ run.image ∧
      (run.image + (run.last - run.first) < 0xD800 ∨
        (0xDFFF < run.image ∧ run.image + (run.last - run.first) < 0x110000))) := by
  decide +kernel

/-- But for the dotted capital I, a character keeps its form, or goes to the small letter of its place in a
run that covers it. -/
theorem lowerChar_cases {c : Char} (hdotted : c ≠ 'İ') :
    (lowerChar c = [c] ∧ ∀ run ∈ caseRuns, ¬ run.covers c.toNat = true) ∨
    ∃ run ∈ caseRuns, run.covers c.toNat = true ∧
      lowerChar c = [Char.ofNat (run.small c.toNat)] := by
  rw [lowerChar, if_neg hdotted]
  cases hfind : caseRuns.find? fun run => run.covers c.toNat with
  | none => exact .inl ⟨rfl, List.find?_eq_none.mp hfind⟩
  | some run =>
      have hcovers := List.find?_some (p := fun run : CaseRun => run.covers c.toNat) hfind
      exact .inr ⟨run, List.mem_of_find?_eq_some hfind, hcovers, rfl⟩

theorem toNat_ofNat {n : Nat} (h : n.isValidChar) : (Char.ofNat n).toNat = n := by
  rw [Char.ofNat, dif_pos h]
  rfl

theorem lowerChar_of_ascii {c : Char} (h : c.toNat < 128) : lowerChar c = [c.toLower] := by
  have hdotted : c ≠ 'İ' := by
    rintro rfl
    exact absurd h (by decide)
  rcases lowerChar_cases hdotted with ⟨hlower, huncovered⟩ | ⟨run, hmem, hcovers, hlower⟩
  · -- The run from A to Z does not cover it either.
    have hcapital := huncovered ⟨0x41, 0x5A, 1, 0x61⟩ List.mem_cons_self
    rw [covers_iff] at hcapital
    have hrange : ¬ (0x41 ≤ c.toNat ∧ c.toNat ≤ 0x5A) := fun hc =>
      hcapital ⟨hc.1, hc.2, Nat.mod_one _⟩
    have hsame : c = c.toLower := by
      rw [← Char.toNat_inj, toNat_toLower, if_neg hrange]
    rw [hlower, ← hsame]
  · obtain ⟨hfirst, hlast, -⟩ := covers_iff.mp hcovers
    have hcases := caseRuns_cases run hmem
    have hrun : run.first = 0x41 ∧ run.last = 0x5A ∧ run.image = 0x61 := by omega
    have hsmall : run.small c.toNat = c.toNat + 0x20 := by
      rw [CaseRun.small]
      omega
    have hvalid : (c.toNat + 0x20).isValidChar := .inl (by omega)
    have hsame : Char.ofNat (c.toNat + 0x20) = c.toLower := by
      rw [← Char.toNat_inj, toNat_ofNat hvalid, toNat_toLower, if_pos (by omega)]
    rw [hlower, hsmall, hsame]

theorem exists_mem_lowerChar {c : Char} (h : 128 ≤ c.toNat) (hkelvin : c ≠ '\u212a') :
    ∃ d ∈ lowerChar c, 128 ≤ d.toNat := by
  by_cases hdotted : c = 'İ'
  · rw [lowerChar, if_pos hdotted]
    exact ⟨Char.ofNat 0x307, List.mem_cons_of_mem _ List.mem_cons_self, by decide⟩
  · rcases lowerChar_cases hdotted with ⟨hlower, -⟩ | ⟨run, hmem, hcovers, hlower⟩
    · rw [hlower]
      exact ⟨c, List.mem_cons_self, h⟩
    · obtain ⟨hfirst, hlast, -⟩ := covers_iff.mp hcovers
      have hne : c.toNat ≠ 0x212A := fun hc => hkelvin (Char.toNat_inj.mp hc)
      have hcases := caseRuns_cases run hmem
      have hsmall : 128 ≤ run.small c.toNat ∧ (run.small c.toNat).isValidChar := by
        rw [CaseRun.small, Nat.isValidChar]
        omega
      rw [hlower]
      exact ⟨_, List.mem_cons_self, by rw [toNat_ofNat hsmall.2]; exact hsmall.1⟩

theorem lowerSigma_beyond (before after : List Char) : 128 ≤ (lowerSigma before after).toNat := by
  rw [lowerSigma]
  split <;> decide

theorem lowerFrom_of_ascii {cs : List Char} (h : ∀ c ∈ cs, c.toNat < 128) (before : List Char) :
    lowerFrom before cs = cs.map Char.toLower := by
  induction cs generalizing before with
  | nil => rfl
  | cons c cs ih =>
      rw [List.forall_mem_cons] at h
      have hne : c ≠ 'Σ' := by
        rintro rfl
        exact absurd h.1 (by decide)
      rw [lowerFrom, if_neg hne, lowerChar_of_ascii h.1, ih h.2]
      rfl

theorem ascii_of_lowerFrom {before cs : List Char}
    (h : ∀ d ∈ lowerFrom before cs, d.toNat < 128) : ∀ c ∈ cs, c.toNat < 128 ∨ c = '\u212a' := by
  induction cs generalizing before with
  | nil => exact List.forall_mem_nil _
  | cons c cs ih =>
      rw [lowerFrom, List.forall_mem_append] at h
      refine List.forall_mem_cons.mpr ⟨?_, ih h.2⟩
      by_contra hc
      rw [not_or, Nat.not_lt] at hc
      have hbeyond : ∃ d ∈ (if c = 'Σ' then [lowerSigma before cs] else lowerChar c),
          128 ≤ d.toNat := by
        split
        · exact ⟨_, List.mem_cons_self, lowerSigma_beyond before cs⟩
        · exact exists_mem_lowerChar hc.1 hc.2
      obtain ⟨d, hd, hle⟩ := hbeyond
      exact absurd (h.1 d hd) (Nat.not_lt.mpr hle)

theorem lowerChar_kelvin : lowerChar '\u212a' = ['k'] := by
  decide +kernel

theorem mem_lowerFrom_of_kelvin {before cs : List Char} (h : '\u212a' ∈ cs) :
    'k' ∈ lowerFrom before cs := by
  induction h generalizing before with
  | head cs =>
      rw [lowerFrom, if_neg (by decide), lowerChar_kelvin]
      exact List.mem_append_left _ List.mem_cons_self
  | tail c _ ih =>
      rw [lowerFrom]
      exact List.mem_append_right _ ih

theorem toLower_of_isLower {c : Char} (h : c.isLower = true) : c.toLower = c := by
  rw [isLower_iff] at h
  rw [← Char.toNat_inj, toNat_toLower, if_neg (by omega)]

/-- A name in small letters without a k is the lower case of its spellings and of no other text. -/
theorem lowercase_eq_iff {name token : String} (hname : ∀ c ∈ name.toList, c.isLower = true)
    (hk : 'k' ∉ name.toList) : lowercase token = name ↔ SameSpelling name.toList token.toList := by
  have hfixed : name.toList.map Char.toLower = name.toList :=
    (List.map_congr_left fun c hc => toLower_of_isLower (hname c hc)).trans (List.map_id' _)
  have halpha : ∀ c ∈ name.toList, c.isAlpha = true := by
    intro c hc
    exact isAlpha_iff.mpr (.inr (hname c hc))
  constructor
  · intro h
    have hlower : lowerFrom [] token.toList = name.toList := by
      rw [← h, lowercase, String.toList_ofList]
    have hplain : ∀ d ∈ lowerFrom [] token.toList, d.toNat < 128 := by
      rw [hlower]
      intro d hd
      exact (plain_of_isAlpha (halpha d hd)).1
    have hascii : ∀ c ∈ token.toList, c.toNat < 128 := by
      intro c hc
      rcases ascii_of_lowerFrom hplain c hc with hlt | rfl
      · exact hlt
      · exact absurd (hlower ▸ mem_lowerFrom_of_kelvin hc) hk
    rw [sameSpelling_iff, hfixed, ← hlower, lowerFrom_of_ascii hascii]
  · intro h
    have hascii : ∀ c ∈ token.toList, c.toNat < 128 := by
      intro c hc
      exact (plain_of_isAlpha (h.isAlpha halpha c hc)).1
    rw [lowercase, lowerFrom_of_ascii hascii, ← sameSpelling_iff.mp h, hfixed, String.ofList_toList]

end Text

namespace DialectKind

open Text (SameSpelling)

def names : DialectKind → List String
  | pgVector => ["pgvector", "pg", "postgres", "postgresql"]
  | mySql => ["mysql", "mariadb"]

theorem letters_of_mem_names {kind : DialectKind} {name : String} (h : name ∈ kind.names) :
    (∀ c ∈ name.toList, c.isLower = true) ∧ 'k' ∉ name.toList := by
  have hall : (kind.names.all fun name =>
      name.toList.all Char.isLower && name.toList.all (· != 'k')) = true := by
    cases kind <;> rfl
  have hname := List.all_eq_true.mp hall name h
  rw [Bool.and_eq_true, List.all_eq_true, List.all_eq_true] at hname
  refine ⟨hname.1, ?_⟩
  intro hk
  exact absurd (hname.2 'k' hk) (by decide)

theorem eq_of_mem_names {kind kind' : DialectKind} {name : String} (h : name ∈ kind.names)
    (h' : name ∈ kind'.names) : kind = kind' := by
  have hdisjoint : ∀ name ∈ names pgVector, name ∉ names mySql := by decide
  cases kind <;> cases kind'
  · rfl
  · exact absurd h' (hdisjoint name h)
  · exact absurd h (hdisjoint name h')
  · rfl

theorem ofToken_cases (token : String) :
    (∃ kind, Text.lowercase token ∈ names kind ∧ ofToken token = .ok kind) ∨
    (∀ kind, Text.lowercase token ∉ names kind) ∧
      ofToken token = .error ⟨Text.lowercase token⟩ := by
  rw [ofToken]
  generalize Text.lowercase token = low
  split
  case h_7 hpgvector hpg hpostgres hpostgresql hmysql hmariadb =>
    refine .inr ⟨?_, rfl⟩
    intro kind
    cases kind <;> simp only [names, List.mem_cons, List.not_mem_nil, or_false, not_or]
    · exact ⟨hpgvector, hpg, hpostgres, hpostgresql⟩
    · exact ⟨hmysql, hmariadb⟩
  case h_5 | h_6 => exact .inl ⟨mySql, by decide, rfl⟩
  all_goals exact .inl ⟨pgVector, by decide, rfl⟩

theorem ofToken_eq_ok_iff {token : String} {kind : DialectKind} :
    ofToken token = .ok kind ↔ Text.lowercase token ∈ kind.names := by
  rcases ofToken_cases token with ⟨kind', hmem, htoken⟩ | ⟨hnone, htoken⟩
  · rw [htoken, Except.ok.injEq]
    constructor
    · rintro rfl
      exact hmem
    · exact eq_of_mem_names hmem
  · rw [htoken]
    exact ⟨fun h => (nomatch h), fun h => absurd h (hnone kind)⟩

theorem ofToken_eq_error_iff {token : String} {e : UnknownDialect} :
    ofToken token = .error e ↔
      (∀ kind, Text.lowercase token ∉ names kind) ∧ e = ⟨Text.lowercase token⟩ := by
  rcases ofToken_cases token with ⟨kind, hmem, htoken⟩ | ⟨hnone, htoken⟩
  · rw [htoken]
    exact ⟨fun h => (nomatch h), fun h => absurd hmem (h.1 kind)⟩
  · rw [htoken, Except.error.injEq, eq_comm]
    exact ⟨fun h => ⟨hnone, h⟩, And.right⟩

/-- The token is a name of the dialect in letters of either case. -/
def Called (token : String) (kind : DialectKind) : Prop :=
  ∃ name ∈ kind.names, SameSpelling name.toList token.toList

theorem called_iff {token : String} {kind : DialectKind} :
    Called token kind ↔ Text.lowercase token ∈ kind.names := by
  have hiff : ∀ name ∈ kind.names,
      (Text.lowercase token = name ↔ SameSpelling name.toList token.toList) := by
    intro name hname
    obtain ⟨hsmall, hk⟩ := letters_of_mem_names hname
    exact Text.lowercase_eq_iff hsmall hk
  constructor
  · rintro ⟨name, hname, hspelling⟩
    rw [(hiff name hname).mpr hspelling]
    exact hname
  · intro h
    exact ⟨_, h, (hiff _ h).mp rfl⟩

theorem Called.isAlpha {token : String} {kind : DialectKind} (h : Called token kind) :
    ∀ c ∈ token.toList, c.isAlpha = true := by
  obtain ⟨name, hname, hspelling⟩ := h
  apply hspelling.isAlpha
  intro c hc
  exact Text.isAlpha_iff.mpr (.inr ((letters_of_mem_names hname).1 c hc))

/-- A dialect is read exactly from its names in letters of either case, and these are the tokens whose lower
case is one of its names. Any other token is refused, with its lower case; so is every token with a
character outside of ASCII or with a blank, wherever it stands and whatever its lower case. -/
theorem ofToken_by_spelling (token : String) :
    (∀ kind, ofToken token = .ok kind ↔ Called token kind) ∧
    (∀ kind, Called token kind ↔ Text.lowercase token ∈ kind.names) ∧
    (∀ e, ofToken token = .error e ↔
      (∀ kind, ¬ Called token kind) ∧ e = ⟨Text.lowercase token⟩) ∧
    ∀ c ∈ token.toList, 128 ≤ c.toNat ∨ Text.isBlank c = true →
      ofToken token = .error ⟨Text.lowercase token⟩ := by
  have hok : ∀ kind, ofToken token = .ok kind ↔ Called token kind := by
    intro kind
    rw [ofToken_eq_ok_iff, called_iff]
  have herror : ∀ e, ofToken token = .error e ↔
      (∀ kind, ¬ Called token kind) ∧ e = ⟨Text.lowercase token⟩ := by
    intro e
    simp only [ofToken_eq_error_iff, called_iff]
  refine ⟨hok, fun _ => called_iff, herror, ?_⟩
  intro c hc hforeign
  refine (herror _).mpr ⟨?_, rfl⟩
  intro kind hcalled
  obtain ⟨hascii, hblank⟩ := Text.plain_of_isAlpha (hcalled.isAlpha c hc)
  rcases hforeign with hbeyond | hisBlank
  · omega
  · rw [hblank] at hisBlank
    cases hisBlank

/-- The dotted capital I is lowered to an i and a mark above it. -/
theorem ofToken_dotted_name :
    'İ' ∈ "MARİADB".toList ∧ 128 ≤ 'İ'.toNat ∧
      ofToken "MARİADB" = .error ⟨"mari\u0307adb"⟩ := by
  have hmem : 'İ' ∈ "MARİADB".toList := by decide
  have hbeyond : 128 ≤ 'İ'.toNat := by decide
  have hlower : Text.lowercase "MARİADB" = "mari\u0307adb" := by decide +kernel
  obtain ⟨-, -, -, hforeign⟩ := ofToken_by_spelling "MARİADB"
  refine ⟨hmem, hbeyond, ?_⟩
  rw [hforeign _ hmem (.inl hbeyond), hlower]

end DialectKind

end FilterClause
