import FilterClause.Json.Number
import FilterClause.Proofs.Lexeme
import FilterClause.Proofs.Outcome
import Mathlib.Data.List.TakeWhile

/-!
Which texts are number literals, and what they spell. The grammar is the one of the format: a sign, a
whole part without leading zeros, a fraction and an exponent, of which only the whole part has to be
there. The reader takes exactly the literals of the grammar, and of those it takes for integers the
value is exact.
-/

namespace FilterClause.Json

structure Digits (ds : List Char) : Prop where
  nonempty : ds ≠ []
  all : ∀ c ∈ ds, c.isDigit = true

inductive WholePart : List Char → Prop
  | zero : WholePart ['0']
  | digits {c : Char} {ds : List Char} (hc : c ≠ '0') (h : Digits (c :: ds)) : WholePart (c :: ds)

inductive FractionText : Option (List Char) → List Char → Prop
  | absent : FractionText none []
  | present {ds : List Char} (h : Digits ds) : FractionText (some ds) ('.' :: ds)

/-- The sign of an exponent, which may be left out if it is positive. -/
inductive ExponentSign : Bool → List Char → Prop
  | bare : ExponentSign false []
  | plus : ExponentSign false ['+']
  | minus : ExponentSign true ['-']

inductive ExponentText : Option (Bool × List Char) → List Char → Prop
  | absent : ExponentText none []
  | present {e : Char} {down : Bool} {sign ds : List Char} (he : e = 'e' ∨ e = 'E')
      (hsign : ExponentSign down sign) (h : Digits ds) :
      ExponentText (some (down, ds)) (e :: (sign ++ ds))

def minusText (negative : Bool) : List Char :=
  if negative then ['-'] else []

inductive NumberText : NumberLiteral → List Char → Prop
  | intro {negative : Bool} {whole f x : List Char} {fraction : Option (List Char)}
      {exponent : Option (Bool × List Char)} (hwhole : WholePart whole)
      (hf : FractionText fraction f) (hx : ExponentText exponent x) :
      NumberText ⟨negative, whole, fraction, exponent⟩ (minusText negative ++ (whole ++ (f ++ x)))

theorem digitsOf_append_afterDigits (cs : List Char) : digitsOf cs ++ afterDigits cs = cs :=
  List.takeWhile_append_dropWhile

theorem digits_digitsOf {c : Char} (hc : c.isDigit = true) (cs : List Char) :
    Digits (digitsOf (c :: cs)) := by
  constructor
  · rw [digitsOf, List.takeWhile_cons_of_pos hc]
    exact List.cons_ne_nil _ _
  · intro d hd
    exact List.mem_takeWhile_imp hd

section Sound

variable {atEnd : Fault} {text rest : List Char}

theorem wholePart_of_readWhole {whole : List Char} (h : readWhole atEnd text = .ok (whole, rest)) :
    WholePart whole ∧ text = whole ++ rest := by
  unfold readWhole at h
  split at h
  · cases h
  · split at h
    · cases h
    · cases h
      exact ⟨.zero, rfl⟩
  · rename_i c cs hzero
    split at h
    · rename_i hc
      cases h
      refine ⟨?_, (digitsOf_append_afterDigits _).symm⟩
      have hdigits := digits_digitsOf hc cs
      rw [digitsOf, List.takeWhile_cons_of_pos hc] at hdigits ⊢
      by_cases hne : c = '0'
      · -- Behind a zero the equation before this one would have read on.
        subst hne
        cases cs with
        | nil => exact .zero
        | cons d cs => exact absurd rfl (hzero d cs rfl)
      · exact .digits hne hdigits
    · cases h

theorem fractionText_of_readFraction {fraction : Option (List Char)}
    (h : readFraction atEnd text = .ok (fraction, rest)) :
    ∃ f, FractionText fraction f ∧ text = f ++ rest := by
  unfold readFraction at h
  split at h
  · cases h
  · rename_i c cs
    split at h
    · rename_i hc
      cases h
      refine ⟨_, .present (digits_digitsOf hc cs), ?_⟩
      rw [List.cons_append, digitsOf_append_afterDigits]
    · cases h
  · cases h
    exact ⟨[], .absent, rfl⟩

theorem digits_of_readExponentDigits {negative : Bool} {exponent : Option (Bool × List Char)}
    (h : readExponentDigits atEnd negative text = .ok (exponent, rest)) :
    ∃ ds, exponent = some (negative, ds) ∧ Digits ds ∧ text = ds ++ rest := by
  unfold readExponentDigits at h
  split at h
  · cases h
  · rename_i c cs
    split at h
    · rename_i hc
      cases h
      exact ⟨_, rfl, digits_digitsOf hc cs, (digitsOf_append_afterDigits _).symm⟩
    · cases h

theorem exponentText_of_readExponent {exponent : Option (Bool × List Char)}
    (h : readExponent atEnd text = .ok (exponent, rest)) :
    ∃ x, ExponentText exponent x ∧ text = x ++ rest := by
  unfold readExponent at h
  split at h
  · cases h
    exact ⟨[], .absent, rfl⟩
  · rename_i e cs
    split at h
    · rename_i he
      simp only [Bool.or_eq_true, decide_eq_true_eq] at he
      split at h
      · obtain ⟨ds, rfl, hds, rfl⟩ := digits_of_readExponentDigits h
        exact ⟨_, .present he .plus hds, rfl⟩
      · obtain ⟨ds, rfl, hds, rfl⟩ := digits_of_readExponentDigits h
        exact ⟨_, .present he .minus hds, rfl⟩
      · obtain ⟨ds, rfl, hds, rfl⟩ := digits_of_readExponentDigits h
        exact ⟨_, .present he .bare hds, rfl⟩
    · cases h
      exact ⟨[], .absent, rfl⟩

theorem numberText_of_readUnsigned {negative : Bool} {l : NumberLiteral}
    (h : readUnsigned atEnd negative text = .ok (l, rest)) :
    ∃ t, NumberText l (minusText negative ++ t) ∧ text = t ++ rest := by
  obtain ⟨⟨whole, rest₁⟩, hwhole, h⟩ := Except.bind_eq_ok_iff.mp h
  obtain ⟨⟨fraction, rest₂⟩, hfraction, h⟩ := Except.bind_eq_ok_iff.mp h
  obtain ⟨⟨exponent, rest₃⟩, hexponent, h⟩ := Except.bind_eq_ok_iff.mp h
  cases h
  obtain ⟨hw, rfl⟩ := wholePart_of_readWhole hwhole
  obtain ⟨f, hf, rfl⟩ := fractionText_of_readFraction hfraction
  obtain ⟨x, hx, rfl⟩ := exponentText_of_readExponent hexponent
  refine ⟨whole ++ (f ++ x), .intro hw hf hx, ?_⟩
  simp only [List.append_assoc]

theorem numberText_of_readLiteral {l : NumberLiteral} (h : readLiteral atEnd text = .ok (l, rest)) :
    ∃ t, NumberText l t ∧ text = t ++ rest := by
  unfold readLiteral at h
  split at h
  · obtain ⟨t, ht, rfl⟩ := numberText_of_readUnsigned h
    exact ⟨_, ht, rfl⟩
  · obtain ⟨t, ht, rfl⟩ := numberText_of_readUnsigned h
    exact ⟨t, ht, rfl⟩

end Sound

/-- The text does not go on with what could belong to a number. -/
def NumberEnds (rest : List Char) : Prop :=
  Text.Stops (fun c => c.isDigit || c = '.' || c = 'e' || c = 'E') rest

theorem NumberEnds.stops {rest : List Char} (h : NumberEnds rest) : Text.Stops Char.isDigit rest := by
  intro c hc
  have := h c hc
  simp only [Bool.or_eq_false_iff] at this
  exact this.1.1.1

theorem digitsOf_run {ds rest : List Char} (h : Digits ds) (hr : Text.Stops Char.isDigit rest) :
    digitsOf (ds ++ rest) = ds ∧ afterDigits (ds ++ rest) = rest :=
  ⟨Text.takeWhile_run h.all hr, Text.dropWhile_run h.all hr⟩

/-- The first of the digits, which each reader looks at before it takes the run. -/
theorem Digits.exists_cons {ds : List Char} (h : Digits ds) :
    ∃ c cs, ds = c :: cs ∧ c.isDigit = true := by
  obtain ⟨c, cs, rfl⟩ := List.exists_cons_of_ne_nil h.nonempty
  exact ⟨c, cs, rfl, h.all c List.mem_cons_self⟩

section Complete

variable {rest : List Char} (atEnd : Fault)

theorem WholePart.readWhole {whole : List Char} (h : WholePart whole)
    (hr : Text.Stops Char.isDigit rest) :
    Json.readWhole atEnd (whole ++ rest) = .ok (whole, rest) := by
  cases h with
  | zero =>
      cases rest with
      | nil => rfl
      | cons c rest =>
          have hc := hr c rfl
          simp [Json.readWhole, hc]
  | @digits c ds hne h =>
      obtain ⟨htake, hdrop⟩ := digitsOf_run h hr
      have hc : c.isDigit = true := h.all c List.mem_cons_self
      rw [List.cons_append] at htake hdrop ⊢
      rw [readWhole.eq_def]
      split
      · rename_i heq
        cases heq
      · rename_i heq
        exact absurd (List.head_eq_of_cons_eq heq) hne
      · rename_i d ds' _ heq
        cases heq
        rw [if_pos hc, htake, hdrop]

theorem FractionText.readFraction {fraction : Option (List Char)} {f : List Char}
    (h : FractionText fraction f) (hr : Text.Stops Char.isDigit rest)
    (hpoint : Text.Stops (· = '.') rest) :
    Json.readFraction atEnd (f ++ rest) = .ok (fraction, rest) := by
  cases h with
  | absent =>
      rw [List.nil_append, Json.readFraction.eq_def]
      split
      · cases hpoint '.' rfl
      · cases hpoint '.' rfl
      · rfl
  | present h =>
      obtain ⟨htake, hdrop⟩ := digitsOf_run h hr
      obtain ⟨c, cs, rfl, hc⟩ := h.exists_cons
      rw [List.cons_append] at htake hdrop
      rw [List.cons_append, List.cons_append, Json.readFraction, if_pos hc, htake, hdrop]

theorem Digits.readExponentDigits {ds : List Char} (h : Digits ds) (negative : Bool)
    (hr : Text.Stops Char.isDigit rest) :
    Json.readExponentDigits atEnd negative (ds ++ rest) = .ok (some (negative, ds), rest) := by
  obtain ⟨htake, hdrop⟩ := digitsOf_run h hr
  obtain ⟨c, cs, rfl, hc⟩ := h.exists_cons
  rw [List.cons_append] at htake hdrop ⊢
  rw [Json.readExponentDigits, if_pos hc, htake, hdrop]

theorem ExponentText.readExponent {exponent : Option (Bool × List Char)} {x : List Char}
    (h : ExponentText exponent x) (hr : NumberEnds rest) :
    Json.readExponent atEnd (x ++ rest) = .ok (exponent, rest) := by
  cases h with
  | absent =>
      cases rest with
      | nil => rfl
      | cons c rest =>
          have hc := hr c rfl
          simp only [Bool.or_eq_false_iff] at hc
          simp [Json.readExponent, hc]
  | @present e down sign ds he hsign h =>
      have hread := fun negative => h.readExponentDigits atEnd negative hr.stops
      have hletter : (e = 'e' || e = 'E') = true := by
        rw [Bool.or_eq_true, decide_eq_true_eq, decide_eq_true_eq]
        exact he
      rw [List.cons_append, List.append_assoc]
      cases hsign with
      | plus =>
          rw [← hread false, List.singleton_append, Json.readExponent, if_pos hletter]
      | minus =>
          rw [← hread true, List.singleton_append, Json.readExponent, if_pos hletter]
      | bare =>
          obtain ⟨c, cs, rfl, hc⟩ := h.exists_cons
          rw [← hread false, List.nil_append, Json.readExponent, if_pos hletter]
          · rintro _ heq
            cases heq
            cases hc
          · rintro _ heq
            cases heq
            cases hc

end Complete

theorem ExponentText.stops {exponent : Option (Bool × List Char)} {x rest : List Char}
    (h : ExponentText exponent x) (hr : NumberEnds rest) :
    Text.Stops Char.isDigit (x ++ rest) ∧ Text.Stops (· = '.') (x ++ rest) := by
  cases h with
  | absent =>
      refine ⟨hr.stops, fun c hc => ?_⟩
      have hend := hr c hc
      simp only [Bool.or_eq_false_iff] at hend
      exact hend.1.1.2
  | present he =>
      rcases he with rfl | rfl
      · exact ⟨Text.stops_cons _ rfl, Text.stops_cons _ rfl⟩
      · exact ⟨Text.stops_cons _ rfl, Text.stops_cons _ rfl⟩

theorem FractionText.stops {fraction : Option (List Char)} {f rest : List Char}
    (h : FractionText fraction f) (hr : Text.Stops Char.isDigit rest) :
    Text.Stops Char.isDigit (f ++ rest) := by
  cases h with
  | absent => exact hr
  | present h => exact Text.stops_cons _ rfl

theorem WholePart.exists_cons {whole : List Char} (h : WholePart whole) :
    ∃ c cs, whole = c :: cs ∧ c.isDigit = true := by
  cases h with
  | zero => exact ⟨'0', [], rfl, rfl⟩
  | digits hc h => exact ⟨_, _, rfl, h.all _ List.mem_cons_self⟩

theorem NumberText.readLiteral {l : NumberLiteral} {t rest : List Char} (h : NumberText l t)
    (atEnd : Fault) (hr : NumberEnds rest) : Json.readLiteral atEnd (t ++ rest) = .ok (l, rest) := by
  obtain ⟨hwhole, hf, hx⟩ := h
  rename_i negative whole f x fraction exponent
  obtain ⟨hdigit, hpoint⟩ := hx.stops hr
  have hunsigned : readUnsigned atEnd negative (whole ++ (f ++ (x ++ rest))) =
      .ok (⟨negative, whole, fraction, exponent⟩, rest) := by
    rw [readUnsigned, hwhole.readWhole atEnd (hf.stops hdigit), Except.ok_bind]
    simp only [hf.readFraction atEnd hdigit hpoint, hx.readExponent atEnd hr, Except.ok_bind]
  simp only [List.append_assoc]
  cases negative with
  | true => exact hunsigned
  | false =>
      obtain ⟨c, cs, rfl, hc⟩ := hwhole.exists_cons
      rw [← hunsigned]
      simp only [minusText, Bool.false_eq_true, if_false, List.nil_append, List.cons_append]
      rw [Json.readLiteral]
      rintro _ heq
      cases heq
      cases hc

theorem NumberText.whole {l : NumberLiteral} {t : List Char} (h : NumberText l t) :
    WholePart l.whole := by
  cases h
  assumption

theorem NumberText.exists_cons {l : NumberLiteral} {t : List Char} (h : NumberText l t) :
    ∃ c cs, t = c :: cs ∧ (c = '-' ∨ c.isDigit = true) := by
  obtain ⟨hwhole, hf, hx⟩ := h
  rename_i negative whole f x fraction exponent
  cases negative with
  | true => exact ⟨_, _, rfl, .inl rfl⟩
  | false =>
      obtain ⟨c, cs, rfl, hc⟩ := hwhole.exists_cons
      exact ⟨c, _, rfl, .inr hc⟩

theorem NumberText.head {l : NumberLiteral} {c : Char} {cs : List Char}
    (h : NumberText l (c :: cs)) : c = '-' ∨ c.isDigit = true := by
  obtain ⟨d, ds, hcons, hd⟩ := h.exists_cons
  cases hcons
  exact hd

theorem NumberText.unique {l l' : NumberLiteral} {t : List Char} (h : NumberText l t)
    (h' : NumberText l' t) : l = l' := by
  have hend : NumberEnds [] := fun c hc => nomatch hc
  have hread := h.readLiteral .endOfValue hend
  rw [h'.readLiteral .endOfValue hend] at hread
  cases hread
  rfl

namespace NumberLiteral

/-- The integer that the sign and the whole part spell, of any size. -/
def signed (l : NumberLiteral) : Int :=
  if l.negative then -Decimal.digitsValue l.whole else Decimal.digitsValue l.whole

/-- The literal is written as an integer. A zero with a sign is not: no integer keeps the sign. -/
structure IsInteger (l : NumberLiteral) : Prop where
  fraction : l.fraction = none
  exponent : l.exponent = none
  unsignedZero : ¬ (l.negative = true ∧ l.whole = ['0'])

end NumberLiteral

theorem le_foldl_digits (digits : List Char) (n : Nat) :
    n ≤ digits.foldl (fun n c => 10 * n + Decimal.digitValue c) n := by
  induction digits generalizing n with
  | nil => exact Nat.le_refl n
  | cons c digits ih =>
      have hstep : n ≤ 10 * n + Decimal.digitValue c := by omega
      exact Nat.le_trans hstep (ih _)

theorem digitValue_pos {c : Char} (hc : c.isDigit = true) (hne : c ≠ '0') :
    0 < Decimal.digitValue c := by
  have hnat : c.toNat ≠ '0'.toNat := fun h => hne (Char.toNat_inj.mp h)
  have hle : '0'.toNat ≤ c.toNat := by
    simp only [Char.isDigit, Bool.and_eq_true, decide_eq_true_eq] at hc
    exact hc.1
  rw [Decimal.digitValue]
  omega

/-- A whole part is worth zero only if it is the digit. -/
theorem WholePart.digitsValue_pos_iff {whole : List Char} (h : WholePart whole) :
    0 < Decimal.digitsValue whole ↔ whole ≠ ['0'] := by
  cases h with
  | zero => exact ⟨fun h => absurd h (by decide), fun h => absurd rfl h⟩
  | @digits c ds hne h =>
      have hpos := digitValue_pos (h.all c List.mem_cons_self) hne
      have hle : Decimal.digitValue c ≤ Decimal.digitsValue (c :: ds) := by
        rw [Decimal.digitsValue, List.foldl_cons, Nat.mul_zero, Nat.zero_add]
        exact le_foldl_digits ds _
      refine ⟨fun _ heq => hne (List.head_eq_of_cons_eq heq), fun _ => Nat.lt_of_lt_of_le hpos hle⟩

namespace NumberLiteral

/-- Which literals are taken for integers: those written as one that have a 64-bit word, signed or
unsigned. The value is exact. -/
theorem integer?_eq_some_iff {l : NumberLiteral} (hwhole : WholePart l.whole) {n : Int} :
    l.integer? = some n ↔
      l.IsInteger ∧ n = l.signed ∧ Int64.minValue.toInt ≤ n ∧ n < UInt64.size := by
  have hmin : Int64.minValue.toInt = -2 ^ 63 := by decide
  have hsize : (0 : Int) < UInt64.size := by decide
  have hpos := hwhole.digitsValue_pos_iff
  obtain ⟨negative, whole, fraction, exponent⟩ := l
  cases fraction with
  | some ds => exact ⟨fun h => (nomatch h), fun h => (nomatch h.1.fraction)⟩
  | none =>
      cases exponent with
      | some x => exact ⟨fun h => (nomatch h), fun h => (nomatch h.1.exponent)⟩
      | none =>
          have hinteger : IsInteger ⟨negative, whole, none, none⟩ ↔
              ¬ (negative = true ∧ whole = ['0']) :=
            ⟨IsInteger.unsignedZero, fun h => ⟨rfl, rfl, h⟩⟩
          simp only at hpos
          rw [hinteger]
          cases negative with
          | true =>
              simp only [integer?, signed, if_true, Bool.and_eq_true, decide_eq_true_eq, hpos,
                Option.ite_none_right_eq_some, Option.some.injEq, true_and]
              constructor
              · rintro ⟨⟨hne, hlow⟩, rfl⟩
                exact ⟨hne, rfl, hlow, by omega⟩
              · rintro ⟨hne, rfl, hlow, -⟩
                exact ⟨⟨hne, hlow⟩, rfl⟩
          | false =>
              simp only [integer?, signed, Bool.false_eq_true, if_false, false_and, not_false_eq_true,
                Option.ite_none_right_eq_some, Option.some.injEq, true_and]
              constructor
              · rintro ⟨hhigh, rfl⟩
                exact ⟨rfl, by omega, by omega⟩
              · rintro ⟨rfl, -, hhigh⟩
                exact ⟨by omega, rfl⟩

example : (NumberLiteral.mk true ['0'] none none).integer? = none := by decide

example : (NumberLiteral.mk false "18446744073709551616".toList none none).integer? = none := by
  decide

theorem value_eq_integer_iff {l : NumberLiteral} {n : Int} :
    l.value = .ok (.integer n) ↔ l.integer? = some n := by
  rw [value]
  cases l.integer? with
  | some m => simp only [Except.ok.injEq, Number.integer.injEq, Option.some.injEq]
  | none =>
      simp only [Except.map_eq_ok_iff, reduceCtorEq, and_false, exists_false]

theorem value_eq_float_iff {l : NumberLiteral} {x : Float} :
    l.value = .ok (.float x) ↔ l.integer? = none ∧ l.float = .ok x := by
  rw [value]
  cases l.integer? with
  | some m => simp only [Except.ok.injEq, reduceCtorEq, false_and]
  | none => simp only [Except.map_eq_ok_iff, Number.float.injEq, exists_eq_right, true_and]

end NumberLiteral

theorem readNumber_eq_ok_iff {text rest : List Char} {n : Number} :
    readNumber text = .ok (n, rest) ↔
      ∃ l, readLiteral .endOfValue text = .ok (l, rest) ∧ l.value = .ok n := by
  rw [readNumber]
  simp only [Except.bind_eq_ok_iff, Prod.exists]
  constructor
  · rintro ⟨l, rest', hl, hread⟩
    split at hread
    · rename_i hvalue
      cases hread
      exact ⟨l, hl, hvalue⟩
    · cases hread
  · rintro ⟨l, hl, hvalue⟩
    exact ⟨l, rest, hl, by rw [hvalue]⟩

end FilterClause.Json
