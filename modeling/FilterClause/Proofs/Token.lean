import FilterClause.Operator
import Mathlib.Data.List.Forall2
import Mathlib.Data.List.TakeWhile

/-!
Tokens: what is left of a text without the blanks at its ends, compared without regard to letter case. A
blank may be of any script, but only the letters from A to Z have a case here.
-/

namespace FilterClause.Text

def Blanks (cs : List Char) : Prop :=
  ∀ c ∈ cs, isBlank c = true

theorem blanks_takeWhile (cs : List Char) : Blanks (cs.takeWhile isBlank) :=
  List.all_eq_true.mp List.all_takeWhile

theorem exists_blanks_trimmed (cs : List Char) :
    ∃ before after, Blanks before ∧ Blanks after ∧ cs = before ++ (trimmed cs ++ after) := by
  refine ⟨cs.takeWhile isBlank, ((trimStart cs).reverse.takeWhile isBlank).reverse,
    blanks_takeWhile cs, ?_, ?_⟩
  · intro c hc
    exact blanks_takeWhile _ c (List.mem_reverse.mp hc)
  · rw [trimmed, trimEnd, ← List.reverse_append, List.takeWhile_append_dropWhile,
      List.reverse_reverse, trimStart, List.takeWhile_append_dropWhile]

theorem dropWhile_blanks {before cs : List Char} (h : Blanks before)
    (hcs : ∀ c, cs.head? = some c → isBlank c = false) :
    (before ++ cs).dropWhile isBlank = cs := by
  rw [List.dropWhile_append_of_pos h]
  cases cs with
  | nil => rfl
  | cons c cs => rw [List.dropWhile_cons_of_neg (by simp [hcs c rfl])]

theorem trimmed_between {before cs after : List Char} (hbefore : Blanks before)
    (hafter : Blanks after) (hne : cs ≠ [])
    (hfirst : ∀ c, cs.head? = some c → isBlank c = false)
    (hlast : ∀ c, cs.getLast? = some c → isBlank c = false) :
    trimmed (before ++ (cs ++ after)) = cs := by
  have hstart : trimStart (before ++ (cs ++ after)) = cs ++ after := by
    apply dropWhile_blanks hbefore
    cases cs with
    | nil => exact absurd rfl hne
    | cons c cs => exact hfirst
  rw [trimmed, hstart, trimEnd, List.reverse_append, dropWhile_blanks, List.reverse_reverse]
  · intro c hc
    exact hafter c (List.mem_reverse.mp hc)
  · intro c hc
    rw [List.head?_reverse] at hc
    exact hlast c hc

/-- The core of a text: blanks stand around it, and none at its own ends. -/
structure TrimsTo (cs core : List Char) : Prop where
  between : ∃ before after, Blanks before ∧ Blanks after ∧ cs = before ++ (core ++ after)
  first : ∀ c, core.head? = some c → isBlank c = false
  last : ∀ c, core.getLast? = some c → isBlank c = false

theorem not_isBlank_of_head?_dropWhile {cs : List Char} {c : Char}
    (h : (cs.dropWhile isBlank).head? = some c) : isBlank c = false := by
  have hnot := List.head?_dropWhile_not isBlank cs
  rw [h] at hnot
  exact hnot

theorem trimsTo_trimmed (cs : List Char) : TrimsTo cs (trimmed cs) := by
  refine ⟨exists_blanks_trimmed cs, ?_, ?_⟩
  · intro c hc
    -- What is left begins as the text without the blanks before it does.
    obtain ⟨ds, hds⟩ := List.head?_eq_some_iff.mp hc
    have hprefix : trimmed cs <+: trimStart cs := by
      rw [trimmed, trimEnd, ← List.reverse_suffix, List.reverse_reverse]
      exact List.dropWhile_suffix isBlank
    obtain ⟨es, hes⟩ := hprefix
    have hstart : (cs.dropWhile isBlank).head? = some c := by
      rw [← trimStart, ← hes, hds]
      rfl
    exact not_isBlank_of_head?_dropWhile hstart
  · intro c hc
    rw [trimmed, trimEnd, List.getLast?_reverse] at hc
    exact not_isBlank_of_head?_dropWhile hc

theorem trimmed_of_blanks {cs : List Char} (h : Blanks cs) : trimmed cs = [] := by
  rw [trimmed, trimStart, List.dropWhile_eq_nil_iff.mpr h]
  rfl

theorem trimsTo_iff {cs core : List Char} : TrimsTo cs core ↔ core = trimmed cs := by
  constructor
  · rintro ⟨⟨before, after, hbefore, hafter, rfl⟩, hfirst, hlast⟩
    cases core with
    | nil => rw [List.nil_append, trimmed_of_blanks (List.forall_mem_append.mpr ⟨hbefore, hafter⟩)]
    | cons c core => rw [trimmed_between hbefore hafter (List.cons_ne_nil c core) hfirst hlast]
  · rintro rfl
    exact trimsTo_trimmed cs

theorem isUpper_iff {c : Char} : c.isUpper = true ↔ 0x41 ≤ c.toNat ∧ c.toNat ≤ 0x5A :=
  decide_eq_true_iff

theorem isLower_iff {c : Char} : c.isLower = true ↔ 0x61 ≤ c.toNat ∧ c.toNat ≤ 0x7A := by
  refine Bool.and_eq_true_iff.trans ?_
  exact and_congr decide_eq_true_iff decide_eq_true_iff

theorem isAlpha_iff {c : Char} : c.isAlpha = true ↔ c.isUpper = true ∨ c.isLower = true :=
  Bool.or_eq_true_iff

theorem plain_of_isAlpha {c : Char} (h : c.isAlpha = true) :
    c.toNat < 128 ∧ isBlank c = false := by
  rw [isAlpha_iff, isUpper_iff, isLower_iff] at h
  refine ⟨by omega, ?_⟩
  simp only [isBlank, List.mem_cons, List.not_mem_nil, or_false, decide_eq_false_iff_not]
  omega

/-- The capital and the small form of one of the letters from A to Z. -/
def CaseOf (capital small : Char) : Prop :=
  0x41 ≤ capital.toNat ∧ capital.toNat ≤ 0x5A ∧ small.toNat = capital.toNat + 0x20

/-- One character, or the two cases of one letter. -/
def SameLetter (c d : Char) : Prop :=
  c = d ∨ CaseOf c d ∨ CaseOf d c

/-- Equal up to the case of the letters from A to Z. -/
def SameSpelling (s t : List Char) : Prop :=
  List.Forall₂ SameLetter s t

theorem toNat_toLower (c : Char) :
    c.toLower.toNat = if 0x41 ≤ c.toNat ∧ c.toNat ≤ 0x5A then c.toNat + 0x20 else c.toNat := by
  by_cases h : c.val ≥ 'A'.val ∧ c.val ≤ 'Z'.val
  · have hrange : 0x41 ≤ c.toNat ∧ c.toNat ≤ 0x5A := h
    have hlower : c.toLower.toNat = (c.toNat + 0x20) % 2 ^ 32 := congrArg Char.toNat (dif_pos h)
    rw [hlower, if_pos hrange]
    omega
  · have hrange : ¬ (0x41 ≤ c.toNat ∧ c.toNat ≤ 0x5A) := h
    have hlower : c.toLower.toNat = c.toNat := congrArg Char.toNat (dif_neg h)
    rw [hlower, if_neg hrange]

theorem toLower_eq_toLower_iff {c d : Char} : c.toLower = d.toLower ↔ SameLetter c d := by
  rw [← Char.toNat_inj, toNat_toLower, toNat_toLower, SameLetter, CaseOf, CaseOf, ← Char.toNat_inj]
  split <;> split <;> omega

theorem sameSpelling_iff {s t : List Char} :
    SameSpelling s t ↔ s.map Char.toLower = t.map Char.toLower := by
  rw [← List.forall₂_eq_eq_eq, List.forall₂_map_left_iff, List.forall₂_map_right_iff]
  simp only [toLower_eq_toLower_iff]
  rfl

theorem SameSpelling.isAlpha {s t : List Char} (h : SameSpelling s t)
    (hs : ∀ c ∈ s, c.isAlpha = true) : ∀ c ∈ t, c.isAlpha = true := by
  induction h with
  | nil => exact hs
  | cons hletter _ ih =>
      rw [List.forall_mem_cons] at hs ⊢
      refine ⟨?_, ih hs.2⟩
      rw [isAlpha_iff, isUpper_iff, isLower_iff] at hs ⊢
      rcases hletter with rfl | hcase | hcase
      · exact hs.1
      all_goals
        rw [CaseOf] at hcase
        omega

theorem sameLetters_iff {s t : List Char} : sameLetters s t = true ↔ SameSpelling s t := by
  rw [sameLetters, beq_iff_eq, sameSpelling_iff]

end FilterClause.Text
