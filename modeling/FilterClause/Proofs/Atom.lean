import FilterClause.Json.Reader
import FilterClause.Proofs.Numerals

/-!
What is written without brackets is read back: strings, whatever characters they hold, integers of a
64-bit word, and the three keywords. Each reader stops where the written text does, so that more text
may stand behind it.
-/

namespace FilterClause

namespace Json

theorem hexValue_hexDigit : ∀ n < 16, Text.hexValue? (hexDigit n) = some n := by
  decide

theorem hexDigit_mod (n : Nat) : hexDigit n = hexDigit (n % 16) := by
  rw [hexDigit, hexDigit, Nat.mod_mod]

theorem unit_of_control {n : Nat} (h : n < 32) :
    unit? '0' '0' (hexDigit (n / 16)) (hexDigit n) = some n := by
  have hzero : Text.hexValue? '0' = some 0 := rfl
  rw [hexDigit_mod n, unit?, hzero, hexValue_hexDigit (n / 16) (by omega),
    hexValue_hexDigit (n % 16) (by omega)]
  simp only [Option.bind_eq_bind, Option.bind_some, Option.some.injEq]
  omega

theorem readString_control {c : Char} (h : c.toNat < 0x20) (rest : List Char) :
    readString ('\\' :: 'u' :: '0' :: '0' :: hexDigit (c.toNat / 16) :: hexDigit c.toNat :: rest) =
      andThen c (readString rest) := by
  have hlow : isLowSurrogate c.toNat = false := by
    rw [isLowSurrogate, Bool.and_eq_false_imp]
    intro hle
    have := of_decide_eq_true hle
    omega
  have hhigh : isHighSurrogate c.toNat = false := by
    rw [isHighSurrogate, Bool.and_eq_false_imp]
    intro hle
    have := of_decide_eq_true hle
    omega
  rw [readString, unit_of_control h]
  simp only [hlow, hhigh, Char.ofNat_toNat, Bool.false_eq_true, if_false]

theorem readString_plain {c : Char} (hquote : c ≠ '"') (hslash : c ≠ '\\') (h : ¬ c.toNat < 0x20)
    (rest : List Char) : readString (c :: rest) = andThen c (readString rest) := by
  rw [readString.eq_def]
  split
  iterate 6 simp_all
  · rename_i heq
    cases heq
    rw [if_neg h]

theorem readString_escapedChar (c : Char) (rest : List Char) :
    readString (escapedChar c ++ rest) = andThen c (readString rest) := by
  unfold escapedChar
  split
  iterate 7 rfl
  split
  · rename_i h
    exact readString_control h rest
  · rename_i hquote hslash _ _ _ _ _ h
    exact readString_plain hquote hslash h rest

theorem readString_escaped (cs rest : List Char) :
    readString (cs.flatMap escapedChar ++ '"' :: rest) = .ok (cs, rest) := by
  induction cs with
  | nil => rfl
  | cons c cs ih =>
      rw [List.flatMap_cons, List.append_assoc, readString_escapedChar, ih]
      rfl

theorem stringText_eq (s : String) (rest : List Char) :
    stringText s rest = '"' :: (s.toList.flatMap escapedChar ++ '"' :: rest) :=
  rfl

theorem exists_toDigits_eq_cons_ne_zero {n : Nat} (h : 0 < n) :
    ∃ c cs, Nat.toDigits 10 n = c :: cs ∧ c ≠ '0' := by
  induction n using Nat.strongRecOn with
  | ind n ih =>
      by_cases hn : n < 10
      · refine ⟨n.digitChar, [], Nat.toDigits_of_lt_base hn, ?_⟩
        have : ∀ k < 10, 0 < k → k.digitChar ≠ '0' := by decide
        exact this n hn h
      · obtain ⟨c, cs, hc, hne⟩ := ih (n / 10) (by omega) (by omega)
        refine ⟨c, cs ++ [(n % 10).digitChar], ?_, hne⟩
        rw [Nat.toDigits_of_base_le (by decide) (by omega), hc, List.cons_append]

theorem digitsValue_toDigits (n : Nat) : Decimal.digitsValue (Nat.toDigits 10 n) = n :=
  Nat.ofDigitChars_ten_toDigits

/-- Only zero has digits that start with a zero, and it has no more of them. -/
theorem wholePart_toDigits (n : Nat) : WholePart (Nat.toDigits 10 n) := by
  rcases Nat.eq_zero_or_pos n with rfl | hn
  · rw [Nat.toDigits_zero]
    exact .zero
  · obtain ⟨c, cs, hc, hne⟩ := exists_toDigits_eq_cons_ne_zero hn
    have hdigits : ∀ d ∈ Nat.toDigits 10 n, d.isDigit = true :=
      fun d hd => Nat.isDigit_of_mem_toDigits (by decide) (by decide) hd
    rw [hc] at hdigits ⊢
    exact .digits hne ⟨List.cons_ne_nil c cs, hdigits⟩

def integerLiteral (n : Int) : NumberLiteral :=
  ⟨n < 0, Nat.toDigits 10 n.natAbs, none, none⟩

theorem numberText_integerText (n : Int) : NumberText (integerLiteral n) (integerText n) := by
  have h : NumberText (integerLiteral n) (minusText (n < 0) ++ (Nat.toDigits 10 n.natAbs ++ [])) :=
    .intro (wholePart_toDigits n.natAbs) .absent .absent
  rw [List.append_nil] at h
  rcases Int.lt_or_le n 0 with hn | hn
  · rw [decide_eq_true hn] at h
    rw [integerText_of_neg hn]
    exact h
  · rw [decide_eq_false (Int.not_lt.mpr hn)] at h
    rw [integerText_of_nonneg hn]
    exact h

theorem signed_integerLiteral (n : Int) : (integerLiteral n).signed = n := by
  simp only [NumberLiteral.signed, integerLiteral, digitsValue_toDigits, decide_eq_true_eq]
  split <;> omega

/-- No integer is written with a sign before a zero. -/
theorem isInteger_integerLiteral (n : Int) : (integerLiteral n).IsInteger := by
  refine ⟨rfl, rfl, ?_⟩
  rintro ⟨hneg, hzero⟩
  have hlt : n < 0 := of_decide_eq_true hneg
  have hvalue := digitsValue_toDigits n.natAbs
  rw [show Nat.toDigits 10 n.natAbs = ['0'] from hzero] at hvalue
  have habs : 0 = n.natAbs := hvalue
  omega

theorem readNumber_integerText {n : Int} {rest : List Char} (hlow : Int64.minValue.toInt ≤ n)
    (hhigh : n < UInt64.size) (hr : NumberEnds rest) :
    readNumber (integerText n ++ rest) = .ok (.integer n, rest) := by
  have htext := numberText_integerText n
  refine readNumber_eq_ok_iff.mpr ⟨integerLiteral n, htext.readLiteral .endOfValue hr, ?_⟩
  rw [NumberLiteral.value_eq_integer_iff, NumberLiteral.integer?_eq_some_iff htext.whole]
  exact ⟨isInteger_integerLiteral n, (signed_integerLiteral n).symm, hlow, hhigh⟩

theorem readAtom_string (s : String) (rest : List Char) :
    readAtom (stringText s rest) = .ok (.string s, rest) := by
  rw [stringText_eq, readAtom, readString_escaped, Except.ok_bind]
  simp only [String.ofList_toList]

theorem readAtom_number {c : Char} (h : c = '-' ∨ c.isDigit = true) (cs : List Char) :
    readAtom (c :: cs) = (Json.readNumber (c :: cs)).bind fun read =>
      match read with
      | (.integer n, rest) => .ok (.integer n, rest)
      | (.float x, rest) => .ok (.float x, rest) := by
  have hne : ∀ k : Char, '-' ≠ k → k.isDigit = false → c ≠ k := fun k => ne_of_startsInteger h
  have hnumber : (c = '-' || c.isDigit) = true := by
    rw [Bool.or_eq_true, decide_eq_true_eq]
    exact h
  rw [readAtom, if_pos hnumber]
  · rfl
  · exact hne _ (by decide) rfl
  · exact hne _ (by decide) rfl
  · exact hne _ (by decide) rfl
  · exact hne _ (by decide) rfl

theorem readAtom_integer {n : Int} {rest : List Char} (hlow : Int64.minValue.toInt ≤ n)
    (hhigh : n < UInt64.size) (hr : NumberEnds rest) :
    readAtom (integerText n ++ rest) = .ok (.integer n, rest) := by
  have hnumber := readNumber_integerText hlow hhigh hr
  obtain ⟨c, cs, hc, hfirst⟩ := exists_integerText_eq_cons n
  rw [hc, List.cons_append] at hnumber ⊢
  rw [readAtom_number hfirst, hnumber]
  rfl

end Json

end FilterClause
