import FilterClause.Dialect
import FilterClause.Json.Writer

/-!
Pieces of text whose end can be seen from the text itself: runs of a class of characters, integers,
quoted texts, literals and lists of them, operator symbols. Two pieces of a kind, each with something
behind it, can spell the same text only if they are the same piece with the same behind it.
-/

namespace FilterClause

namespace Text

/-- The text does not go on with a character of the class. -/
def Stops (p : Char → Bool) (rest : List Char) : Prop :=
  ∀ c, rest.head? = some c → p c = false

theorem stops_cons {p : Char → Bool} {c : Char} (rest : List Char) (h : p c = false) :
    Stops p (c :: rest) := by
  intro d hd
  cases hd
  exact h

section Run

variable {p : Char → Bool} {run rest : List Char}

theorem takeWhile_run (h : ∀ c ∈ run, p c = true) (hr : Stops p rest) :
    (run ++ rest).takeWhile p = run := by
  rw [List.takeWhile_append_of_pos h]
  cases rest with
  | nil => rw [List.takeWhile_nil, List.append_nil]
  | cons c rest => rw [List.takeWhile_cons_of_neg (by simp [hr c rfl]), List.append_nil]

theorem dropWhile_run (h : ∀ c ∈ run, p c = true) (hr : Stops p rest) :
    (run ++ rest).dropWhile p = rest := by
  rw [List.dropWhile_append_of_pos h]
  cases rest with
  | nil => rfl
  | cons c rest => rw [List.dropWhile_cons_of_neg (by simp [hr c rfl])]

theorem run_append_inj {run' rest' : List Char} (h : ∀ c ∈ run, p c = true)
    (h' : ∀ c ∈ run', p c = true) (hr : Stops p rest) (hr' : Stops p rest')
    (heq : run ++ rest = run' ++ rest') : run = run' ∧ rest = rest' := by
  constructor
  · rw [← takeWhile_run h hr, heq, takeWhile_run h' hr']
  · rw [← dropWhile_run h hr, heq, dropWhile_run h' hr']

end Run

theorem marked_append_inj {mark : Char} {a b r s : List Char} (ha : mark ∉ a) (hb : mark ∉ b)
    (h : a ++ mark :: r = b ++ mark :: s) : a = b ∧ r = s := by
  have stops : ∀ t, Stops (· != mark) (mark :: t) := fun t => stops_cons t (by simp)
  have free : ∀ {t : List Char}, mark ∉ t → ∀ c ∈ t, (c != mark) = true := by
    intro t ht c hc
    rw [bne_iff_ne]
    rintro rfl
    exact ht hc
  obtain ⟨hab, hrs⟩ := run_append_inj (free ha) (free hb) (stops r) (stops s) h
  exact ⟨hab, List.tail_eq_of_cons_eq hrs⟩

theorem digits_append_inj {m n : Nat} {r s : List Char} (hr : Stops Char.isDigit r)
    (hs : Stops Char.isDigit s) (h : Nat.toDigits 10 m ++ r = Nat.toDigits 10 n ++ s) :
    m = n ∧ r = s := by
  have digits : ∀ k : Nat, ∀ c ∈ Nat.toDigits 10 k, c.isDigit = true :=
    fun k c hc => Nat.isDigit_of_mem_toDigits (by decide) (by decide) hc
  obtain ⟨hd, hrs⟩ := run_append_inj (digits m) (digits n) hr hs h
  refine ⟨?_, hrs⟩
  rw [← Nat.ofDigitChars_ten_toDigits (n := m), hd, Nat.ofDigitChars_ten_toDigits]

theorem exists_toDigits_eq_cons (n : Nat) :
    ∃ c cs, Nat.toDigits 10 n = c :: cs ∧ c.isDigit = true := by
  obtain ⟨c, cs, h⟩ := List.exists_cons_of_ne_nil (Nat.toDigits_ne_nil (n := n) (b := 10))
  refine ⟨c, cs, h, Nat.isDigit_of_mem_toDigits (b := 10) (n := n) (by decide) (by decide) ?_⟩
  rw [h]
  exact List.mem_cons_self

end Text

namespace Json

theorem integerText_of_nonneg {n : Int} (h : 0 ≤ n) :
    integerText n = Nat.toDigits 10 n.natAbs := by
  have hn : n.toNat = n.natAbs := by omega
  rw [integerText, Int.toString_eq_repr, Int.repr_eq_if, if_pos h, Nat.toList_repr, hn]

theorem integerText_of_neg {n : Int} (h : n < 0) :
    integerText n = '-' :: Nat.toDigits 10 n.natAbs := by
  have hn : (-n).toNat = n.natAbs := by omega
  rw [integerText, Int.toString_eq_repr, Int.repr_eq_if, if_neg (by omega), String.toList_append,
    Nat.toList_repr, hn]
  rfl

theorem exists_integerText_eq_cons (n : Int) :
    ∃ c cs, integerText n = c :: cs ∧ (c = '-' ∨ c.isDigit = true) := by
  by_cases h : n < 0
  · exact ⟨_, _, integerText_of_neg h, .inl rfl⟩
  · obtain ⟨c, cs, hc, hd⟩ := Text.exists_toDigits_eq_cons n.natAbs
    exact ⟨c, cs, by rw [integerText_of_nonneg (by omega), hc], .inr hd⟩

theorem ne_of_startsInteger {c : Char} (h : c = '-' ∨ c.isDigit = true) {k : Char} (hminus : '-' ≠ k)
    (hdigit : k.isDigit = false) : c ≠ k := by
  rintro rfl
  rcases h with rfl | h
  · exact hminus rfl
  · rw [hdigit] at h
    cases h

theorem integerText_append_inj {m n : Int} {r s : List Char} (hr : Text.Stops Char.isDigit r)
    (hs : Text.Stops Char.isDigit s) (h : integerText m ++ r = integerText n ++ s) :
    m = n ∧ r = s := by
  have signed : ∀ (k : Nat) (t u : List Char), '-' :: t ≠ Nat.toDigits 10 k ++ u := by
    intro k t u he
    obtain ⟨c, cs, hc, hd⟩ := Text.exists_toDigits_eq_cons k
    rw [hc, List.cons_append, List.cons.injEq] at he
    rw [← he.1] at hd
    cases hd
  rcases Int.lt_or_le m 0 with hm | hm <;> rcases Int.lt_or_le n 0 with hn | hn
  · rw [integerText_of_neg hm, integerText_of_neg hn] at h
    obtain ⟨ha, hrs⟩ := Text.digits_append_inj hr hs (List.tail_eq_of_cons_eq h)
    exact ⟨by omega, hrs⟩
  · rw [integerText_of_neg hm, integerText_of_nonneg hn] at h
    exact absurd h (signed _ _ _)
  · rw [integerText_of_nonneg hm, integerText_of_neg hn] at h
    exact absurd h.symm (signed _ _ _)
  · rw [integerText_of_nonneg hm, integerText_of_nonneg hn] at h
    obtain ⟨ha, hrs⟩ := Text.digits_append_inj hr hs h
    exact ⟨by omega, hrs⟩

end Json

namespace Scalar

inductive Kind
  | bool
  | int
  | float
  | string
  deriving DecidableEq

def kind : Scalar → Kind
  | bool _ => .bool
  | int _ => .int
  | float _ => .float
  | string _ => .string

/-- The kind of a literal, told by the first character of its text. -/
def Kind.ofFirst (c : Char) : Kind :=
  if c = '\'' then .string else if c = 't' ∨ c = 'f' then .bool else .int

/-- A string with a quote inside would seem to end there. -/
def QuoteFree : Scalar → Prop
  | string s => '\'' ∉ s.toList
  | _ => True

theorem exists_quoteSingle_eq_cons {s : Scalar} (h : s.isFloat = false) :
    ∃ c cs, (quoteSingle s).toList = c :: cs ∧ Kind.ofFirst c = s.kind ∧ c ≠ '(' ∧ c ≠ ')' := by
  cases s with
  | bool b => cases b <;> exact ⟨_, _, rfl, rfl, by decide, by decide⟩
  | int n =>
      obtain ⟨c, cs, hc, hd⟩ := Json.exists_integerText_eq_cons n.toInt
      have hne : ∀ k : Char, '-' ≠ k → k.isDigit = false → c ≠ k :=
        fun _ => Json.ne_of_startsInteger hd
      refine ⟨c, cs, hc, ?_, hne _ (by decide) rfl, hne _ (by decide) rfl⟩
      simp only [Kind.ofFirst, hne '\'' (by decide) rfl, hne 't' (by decide) rfl,
        hne 'f' (by decide) rfl, or_self, if_false, kind]
  | float x => cases h
  | string s =>
      exact ⟨'\'', s.toList ++ ['\''], by simp [quoteSingle], rfl, by decide, by decide⟩

variable {s t : Scalar} {r r' : List Char}

theorem quoteSingle_append_inj (hs : s.isFloat = false) (ht : t.isFloat = false)
    (qs : s.QuoteFree) (qt : t.QuoteFree) (hr : Text.Stops Char.isDigit r)
    (hr' : Text.Stops Char.isDigit r')
    (h : (quoteSingle s).toList ++ r = (quoteSingle t).toList ++ r') : s = t ∧ r = r' := by
  have hk : s.kind = t.kind := by
    obtain ⟨c, cs, hc, kc, -⟩ := exists_quoteSingle_eq_cons hs
    obtain ⟨d, ds, hd, kd, -⟩ := exists_quoteSingle_eq_cons ht
    rw [hc, hd, List.cons_append, List.cons_append, List.cons.injEq] at h
    rw [← kc, ← kd, h.1]
  cases s with
  | bool a =>
      cases t with
      | bool b =>
          cases a <;> cases b
          · exact ⟨rfl, List.append_cancel_left h⟩
          · cases List.head_eq_of_cons_eq h
          · cases List.head_eq_of_cons_eq h
          · exact ⟨rfl, List.append_cancel_left h⟩
      | _ => cases hk
  | int m =>
      cases t with
      | int n =>
          obtain ⟨hmn, hrr⟩ := Json.integerText_append_inj hr hr' h
          exact ⟨congrArg int (Int64.toInt_inj.mp hmn), hrr⟩
      | _ => cases hk
  | float x => cases hs
  | string a =>
      cases t with
      | string b =>
          simp only [quoteSingle, String.toList_append, List.append_assoc] at h
          obtain ⟨hab, hrr⟩ := Text.marked_append_inj qs qt (List.append_cancel_left h)
          exact ⟨congrArg string (String.toList_inj.mp hab), hrr⟩
      | _ => cases hk

end Scalar

end FilterClause
