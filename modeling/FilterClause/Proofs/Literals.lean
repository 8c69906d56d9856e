import FilterClause.Proofs.Decoding

/-!
Literals and the scalars they are read as. The kind of a literal is the kind of its text: a string is
never taken for a number, and a number is an integer exactly if it is written as one and has a signed
64-bit word. All other numbers are floating-point numbers, those between the signed and the unsigned
words among them.
-/

namespace FilterClause

open Json (Document NumberLiteral NumberText StringText Spelled ArrayText boolText)

/-- The literal is an integer that has a signed 64-bit word. -/
structure Json.NumberLiteral.IsWord (l : NumberLiteral) : Prop where
  integer : l.IsInteger
  lower : Int64.minValue.toInt ≤ l.signed
  upper : l.signed ≤ Int64.maxValue.toInt

/-- The floating-point number that the literal is rounded to, if it is not too large for one. -/
def Json.NumberLiteral.rounded (l : NumberLiteral) : Except Json.OutOfRange Float :=
  match l.integer? with
  | some n => .ok (Scalar.wideInteger n)
  | none => l.float

/-- The text of a literal, and the scalar that it stands for. -/
inductive Literal : List Char → Scalar → Prop
  | bool (b : Bool) : Literal (boolText b) (.bool b)
  | string {body cs : List Char} (h : StringText body cs) :
      Literal ('"' :: (body ++ ['"'])) (.string (String.ofList cs))
  | int {l : NumberLiteral} {t : List Char} {n : Int64} (h : NumberText l t) (hl : l.IsWord)
      (hn : n.toInt = l.signed) : Literal t (.int n)
  | float {l : NumberLiteral} {t : List Char} {x : Float} (h : NumberText l t) (hl : ¬ l.IsWord)
      (hx : l.rounded = .ok x) : Literal t (.float x)

/-- The text of a value: a literal, or an array of literals. -/
inductive ValueText : List Char → Value → Prop
  | scalar {t : List Char} {s : Scalar} (h : Literal t s) : ValueText t (.scalar s)
  | list {t : List Char} {ts : List (List Char)} {items : List Scalar} (ht : ArrayText ts t)
      (h : List.Forall₂ Literal ts items) : ValueText t (.list items)

theorem Json.NumberText.isWord_iff {l : NumberLiteral} {t : List Char} (h : NumberText l t) :
    l.IsWord ↔
      l.integer? = some l.signed ∧ Int64.minValue.toInt ≤ l.signed ∧
        l.signed ≤ Int64.maxValue.toInt := by
  have hsize : Int64.maxValue.toInt < UInt64.size := by decide
  rw [NumberLiteral.integer?_eq_some_iff h.whole]
  constructor
  · rintro ⟨hinteger, hlower, hupper⟩
    exact ⟨⟨hinteger, rfl, hlower, Int.lt_of_le_of_lt hupper hsize⟩, hlower, hupper⟩
  · rintro ⟨⟨hinteger, -⟩, hlower, hupper⟩
    exact ⟨hinteger, hlower, hupper⟩

theorem literal_of_spelled {d : Document} {t : List Char} {s : Scalar} (h : Spelled d t)
    (hs : d.SpellsScalar s) : Literal t s := by
  cases hs with
  | bool b =>
      cases h
      exact .bool b
  | string =>
      cases h with
      | string h => exact .string h
  | integer n hword =>
      cases h with
      | integer h hvalue =>
          have hinteger := NumberLiteral.value_eq_integer_iff.mp hvalue
          obtain ⟨-, rfl, -⟩ := (NumberLiteral.integer?_eq_some_iff h.whole).mp hinteger
          exact .int h (h.isWord_iff.mpr ⟨hinteger, hword⟩)
            (Int64.toInt_ofInt_of_le hword.1 (Int.lt_of_le_of_lt hword.2 (by decide)))
  | wide n hwide =>
      cases h with
      | integer h hvalue =>
          have hinteger := NumberLiteral.value_eq_integer_iff.mp hvalue
          obtain ⟨-, rfl, -⟩ := (NumberLiteral.integer?_eq_some_iff h.whole).mp hinteger
          refine .float h (fun hl => hwide (h.isWord_iff.mp hl).2) ?_
          rw [NumberLiteral.rounded, hinteger]
  | float x =>
      cases h with
      | float h hvalue =>
          obtain ⟨hnone, hx⟩ := NumberLiteral.value_eq_float_iff.mp hvalue
          refine .float h (fun hl => ?_) ?_
          · rw [(h.isWord_iff.mp hl).1] at hnone
            cases hnone
          · rw [NumberLiteral.rounded, hnone]
            exact hx

theorem Literal.exists_spelled {t : List Char} {s : Scalar} (h : Literal t s) :
    ∃ d, Spelled d t ∧ d.SpellsScalar s := by
  cases h with
  | bool b => exact ⟨.bool b, .bool b, .bool b⟩
  | string h => exact ⟨_, .string h, .string _⟩
  | @int l _ n h hl hn =>
      obtain ⟨hinteger, hword⟩ := h.isWord_iff.mp hl
      have hs := Document.SpellsScalar.integer l.signed hword
      rw [← hn, Int64.ofInt_toInt] at hs
      rw [hn] at hs
      exact ⟨_, .integer h (NumberLiteral.value_eq_integer_iff.mpr hinteger), hs⟩
  | @float l _ x h hl hx =>
      cases hinteger : l.integer? with
      | none =>
          rw [NumberLiteral.rounded, hinteger] at hx
          exact ⟨_, .float h (NumberLiteral.value_eq_float_iff.mpr ⟨hinteger, hx⟩), .float x⟩
      | some n =>
          obtain ⟨-, rfl, -⟩ := (NumberLiteral.integer?_eq_some_iff h.whole).mp hinteger
          rw [NumberLiteral.rounded, hinteger] at hx
          cases hx
          refine ⟨_, .integer h (NumberLiteral.value_eq_integer_iff.mpr hinteger), .wide _ ?_⟩
          exact fun hword => hl (h.isWord_iff.mpr ⟨hinteger, hword⟩)

theorem literal_iff {t : List Char} {s : Scalar} :
    Literal t s ↔ ∃ d, Spelled d t ∧ d.SpellsScalar s :=
  ⟨Literal.exists_spelled, fun ⟨_, h, hs⟩ => literal_of_spelled h hs⟩

theorem literals_of_spelled {ds : List Document} {ts : List (List Char)} {items : List Scalar}
    (h : List.Forall₂ Spelled ds ts) (hs : List.Forall₂ Document.SpellsScalar ds items) :
    List.Forall₂ Literal ts items := by
  induction h generalizing items with
  | nil =>
      cases hs
      exact .nil
  | cons h _ ih =>
      cases hs with
      | cons hs hss => exact .cons (literal_of_spelled h hs) (ih hss)

theorem exists_spelled_of_literals {ts : List (List Char)} {items : List Scalar}
    (h : List.Forall₂ Literal ts items) :
    ∃ ds, List.Forall₂ Spelled ds ts ∧ List.Forall₂ Document.SpellsScalar ds items := by
  induction h with
  | nil => exact ⟨[], .nil, .nil⟩
  | cons h _ ih =>
      obtain ⟨d, hd, hs⟩ := h.exists_spelled
      obtain ⟨ds, hds, hss⟩ := ih
      exact ⟨d :: ds, .cons hd hds, .cons hs hss⟩

theorem valueText_iff {t : List Char} {v : Value} :
    ValueText t v ↔ ∃ d, Spelled d t ∧ d.SpellsValue v := by
  constructor
  · intro h
    cases h with
    | scalar h =>
        obtain ⟨d, hd, hs⟩ := h.exists_spelled
        exact ⟨d, hd, .scalar hs⟩
    | list ht h =>
        obtain ⟨ds, hds, hs⟩ := exists_spelled_of_literals h
        exact ⟨.array ds, .array ht hds, .list hs⟩
  · rintro ⟨d, hd, hv⟩
    cases hv with
    | scalar hs => exact .scalar (literal_of_spelled hd hs)
    | list hs =>
        cases hd with
        | array ht hds => exact .list ht (literals_of_spelled hds hs)

section Kind

variable {t : List Char} {s : Scalar}

theorem Literal.of_number {l : NumberLiteral} (h : NumberText l t) (hs : Literal t s) :
    (l.IsWord ∧ ∃ n : Int64, s = .int n ∧ n.toInt = l.signed) ∨ (¬ l.IsWord ∧ ∃ x, s = .float x) := by
  cases hs with
  | bool b =>
      exfalso
      cases b <;> exact absurd h.head (by decide)
  | string => exact absurd h.head (by decide)
  | int h' hl hn =>
      cases h.unique h'
      exact .inl ⟨hl, _, rfl, hn⟩
  | float h' hl =>
      cases h.unique h'
      exact .inr ⟨hl, _, rfl⟩

theorem Literal.eq_int_iff {l : NumberLiteral} (h : NumberText l t) (hs : Literal t s) (n : Int64) :
    s = .int n ↔ l.IsWord ∧ n.toInt = l.signed := by
  rcases hs.of_number h with ⟨hl, m, rfl, hm⟩ | ⟨hl, x, rfl⟩
  · rw [Scalar.int.injEq, ← Int64.toInt_inj, hm]
    exact ⟨fun hn => ⟨hl, hn.symm⟩, fun hn => hn.2.symm⟩
  · exact ⟨fun h => (nomatch h), fun h => absurd h.1 hl⟩

theorem Literal.exists_eq_float_iff {l : NumberLiteral} (h : NumberText l t) (hs : Literal t s) :
    (∃ x, s = .float x) ↔ ¬ l.IsWord := by
  rcases hs.of_number h with ⟨hl, m, rfl, hm⟩ | ⟨hl, x, rfl⟩
  · exact ⟨fun ⟨_, h⟩ => (nomatch h), fun h => absurd hl h⟩
  · exact ⟨fun _ => hl, fun _ => ⟨x, rfl⟩⟩

theorem literal_string_iff {body cs : List Char} (h : StringText body cs) :
    Literal ('"' :: (body ++ ['"'])) s ↔ s = .string (String.ofList cs) := by
  constructor
  · intro hs
    generalize ht : '"' :: (body ++ ['"']) = t at hs
    cases hs with
    | bool b => cases b <;> cases ht
    | string h' =>
        cases List.append_cancel_right (List.tail_eq_of_cons_eq ht)
        rw [h.unique h']
    | int h' => exact absurd (ht ▸ h').head (by decide)
    | float h' => exact absurd (ht ▸ h').head (by decide)
  · rintro rfl
    exact .string h

theorem literal_bool_iff {b : Bool} : Literal (boolText b) s ↔ s = .bool b := by
  constructor
  · intro hs
    generalize ht : boolText b = t at hs
    cases hs with
    | bool b' => cases b <;> cases b' <;> first | rfl | cases ht
    | string => cases b <;> cases ht
    | int h' => cases b <;> exact absurd (ht ▸ h').head (by decide)
    | float h' => cases b <;> exact absurd (ht ▸ h').head (by decide)
  · rintro rfl
    exact .bool b

end Kind

theorem not_literal_cons {c : Char} {cs : List Char} {s : Scalar} (h : c = 'n' ∨ c = '[' ∨ c = '\x7b') :
    ¬ Literal (c :: cs) s := by
  intro hs
  generalize ht : c :: cs = t at hs
  cases hs with
  | bool b => cases b <;> cases ht <;> exact absurd h (by decide)
  | string => cases ht; exact absurd h (by decide)
  | int h' => rcases h with rfl | rfl | rfl <;> exact absurd (ht ▸ h').head (by decide)
  | float h' => rcases h with rfl | rfl | rfl <;> exact absurd (ht ▸ h').head (by decide)

theorem Json.Document.SpellsScalar.nesting_eq {d : Document} {s : Scalar} (h : d.SpellsScalar s) :
    d.nesting = 0 := by
  cases h <;> rfl

theorem Json.Document.SpellsValue.nesting_le {d : Document} {v : Value} (h : d.SpellsValue v) :
    d.nesting ≤ 1 := by
  cases h with
  | scalar h => exact h.nesting_eq ▸ Nat.zero_le 1
  | list h =>
      refine Nat.succ_le_succ (Document.itemsNesting_le_iff.mpr ?_)
      induction h with
      | nil => exact List.forall_mem_nil _
      | cons h _ ih => exact List.forall_mem_cons.mpr ⟨Nat.le_of_eq h.nesting_eq, ih⟩

theorem Json.Document.scalarOfDocument_eq_ok_iff {d : Document} {s : Scalar} :
    Scalar.ofDocument d = .ok s ↔ d.SpellsScalar s := by
  rw [← ofDocument?_eq_some_iff, Scalar.ofDocument]
  cases Scalar.ofDocument? d with
  | none => simp only [reduceCtorEq]
  | some s' => simp only [Except.ok.injEq, Option.some.injEq]

namespace Source

theorem parse_readAs_eq_ok_iff {α : Type} {ofDocument : Document → Except Json.Fault α}
    {text : String} {a : α} :
    parse (readAs ofDocument) text = .ok a ↔
      ∃ d, Json.readText (Json.readDocument Json.nestingLimit) text = .ok d ∧
        ofDocument d = .ok a := by
  have hread : ∀ rest, readAs ofDocument Json.nestingLimit text.toList = .ok (a, rest) ↔
      ∃ d, Json.readDocument Json.nestingLimit text.toList = .ok (d, rest) ∧
        ofDocument d = .ok a := by
    intro rest
    rw [readAs]
    cases Json.readDocument Json.nestingLimit text.toList with
    | error f => simp only [reduceCtorEq, false_and, exists_false]
    | ok read =>
        obtain ⟨d, rest'⟩ := read
        simp only [Json.settle_eq_ok_iff, Except.ok.injEq, Prod.mk.injEq]
        grind
  simp only [parse, Json.readText_eq_ok_iff, hread]
  grind

theorem parse_readScalar_eq_ok_iff {text : String} {s : Scalar} :
    parse readScalar text = .ok s ↔ ∃ t, Json.Holds text t ∧ Literal t s := by
  simp only [readScalar, parse_readAs_eq_ok_iff, Json.readText_eq_ok_iff_spelled,
    Document.scalarOfDocument_eq_ok_iff, literal_iff]
  constructor
  · rintro ⟨d, ⟨⟨t, ht, hd⟩, -⟩, hs⟩
    exact ⟨t, ⟨ht, d, hd⟩, d, hd, hs⟩
  · rintro ⟨t, ⟨ht, -⟩, d, hd, hs⟩
    exact ⟨d, ⟨⟨t, ht, hd⟩, hs.nesting_eq ▸ Nat.zero_le _⟩, hs⟩

theorem parse_readValue_eq_ok_iff {text : String} {v : Value} :
    parse readValue text = .ok v ↔ ∃ t, Json.Holds text t ∧ ValueText t v := by
  simp only [readValue, parse_readAs_eq_ok_iff, Json.readText_eq_ok_iff_spelled,
    Document.valueOfDocument_eq_ok_iff, valueText_iff]
  constructor
  · rintro ⟨d, ⟨⟨t, ht, hd⟩, -⟩, hv⟩
    exact ⟨t, ⟨ht, d, hd⟩, d, hd, hv⟩
  · rintro ⟨t, ⟨ht, -⟩, d, hd, hv⟩
    exact ⟨d, ⟨⟨t, ht, hd⟩, Nat.le_trans hv.nesting_le (by decide)⟩, hv⟩

end Source

end FilterClause
