import FilterClause.Proofs.Frontier

/-!
Parentheses in the clauses of the built-in dialects. Groups and lists of literals open and close the
same kind, so what is shown is about the text alone: no prefix closes more than it opens, all that is
opened is closed, and the nesting goes as deep as the groups around a comparison and its list do.

Nothing is claimed where the column, a key or a literal brings parentheses of its own.
-/

namespace FilterClause

/-- Opening parentheses less closing ones. -/
def surplus (cs : List Char) : Int :=
  cs.count '(' - cs.count ')'

/-- No prefix closes what it has not opened, the text closes all, and between the two it is at most and
somewhere exactly so deep. -/
structure Balanced (deepest : Nat) (cs : List Char) : Prop where
  nonneg : ∀ p, p <+: cs → 0 ≤ surplus p
  closed : surplus cs = 0
  le : ∀ p, p <+: cs → surplus p ≤ deepest
  reached : ∃ p, p <+: cs ∧ surplus p = deepest

def ParenFree (cs : List Char) : Prop :=
  '(' ∉ cs ∧ ')' ∉ cs

instance (cs : List Char) : Decidable (ParenFree cs) :=
  inferInstanceAs (Decidable ('(' ∉ cs ∧ ')' ∉ cs))

theorem surplus_append (cs ds : List Char) : surplus (cs ++ ds) = surplus cs + surplus ds := by
  simp only [surplus, List.count_append]
  omega

theorem surplus_open (cs : List Char) : surplus ('(' :: cs) = surplus cs + 1 := by
  rw [surplus, List.count_cons_self, List.count_cons_of_ne (by decide), surplus]
  omega

theorem surplus_close : surplus [')'] = -1 := rfl

theorem ParenFree.surplus_eq_zero {cs : List Char} (h : ParenFree cs) : surplus cs = 0 := by
  rw [surplus, List.count_eq_zero.mpr h.1, List.count_eq_zero.mpr h.2]
  rfl

theorem ParenFree.append {cs ds : List Char} (hc : ParenFree cs) (hd : ParenFree ds) :
    ParenFree (cs ++ ds) :=
  ⟨by simp [hc.1, hd.1], by simp [hc.2, hd.2]⟩

theorem prefix_append_cases {p cs ds : List Char} (h : p <+: cs ++ ds) :
    p <+: cs ∨ ∃ q, q <+: ds ∧ p = cs ++ q := by
  rcases List.prefix_or_prefix_of_prefix h (List.prefix_append cs ds) with hp | ⟨q, rfl⟩
  · exact .inl hp
  · exact .inr ⟨q, (List.prefix_append_right_inj cs).mp h, rfl⟩

theorem ParenFree.balanced {cs : List Char} (h : ParenFree cs) : Balanced 0 cs := by
  have hflat : ∀ p, p <+: cs → surplus p = 0 := by
    intro p hp
    have hfree : ParenFree p :=
      ⟨fun hm => h.1 (hp.subset hm), fun hm => h.2 (hp.subset hm)⟩
    exact hfree.surplus_eq_zero
  constructor
  · intro p hp
    exact Int.le_of_eq (hflat p hp).symm
  · exact hflat cs (List.prefix_refl cs)
  · intro p hp
    rw [hflat p hp]
    exact Int.le_refl 0
  · exact ⟨[], List.nil_prefix, rfl⟩

namespace Balanced

variable {m n : Nat} {cs ds : List Char}

theorem append (hc : Balanced m cs) (hd : Balanced n ds) : Balanced (max m n) (cs ++ ds) := by
  have hsurplus : ∀ q, surplus (cs ++ q) = surplus q := by
    intro q
    rw [surplus_append, hc.closed, Int.zero_add]
  constructor
  · intro p hp
    rcases prefix_append_cases hp with hp | ⟨q, hq, rfl⟩
    · exact hc.nonneg p hp
    · rw [hsurplus]
      exact hd.nonneg q hq
  · rw [hsurplus, hd.closed]
  · intro p hp
    rcases prefix_append_cases hp with hp | ⟨q, hq, rfl⟩
    · have := hc.le p hp
      omega
    · have := hd.le q hq
      rw [hsurplus]
      omega
  · rcases Nat.le_total m n with hmn | hnm
    · obtain ⟨q, hq, hs⟩ := hd.reached
      refine ⟨cs ++ q, (List.prefix_append_right_inj cs).mpr hq, ?_⟩
      rw [hsurplus, hs, Nat.max_eq_right hmn]
    · obtain ⟨p, hp, hs⟩ := hc.reached
      refine ⟨p, hp.trans (List.prefix_append cs ds), ?_⟩
      rw [hs, Nat.max_eq_left hnm]

theorem wrap (h : Balanced n cs) : Balanced (n + 1) ('(' :: (cs ++ [')'])) := by
  have hwhole : surplus ('(' :: (cs ++ [')'])) = 0 := by
    rw [surplus_open, surplus_append, h.closed, surplus_close]
    rfl
  -- A prefix is empty, stands inside behind the opening parenthesis, or is the whole text.
  have hcases : ∀ p, p <+: '(' :: (cs ++ [')']) →
      surplus p = 0 ∨ ∃ q, q <+: cs ∧ surplus p = surplus q + 1 := by
    intro p hp
    rcases List.prefix_cons_iff.mp hp with rfl | ⟨q, rfl, hq⟩
    · exact .inl rfl
    · rcases List.prefix_concat_iff.mp hq with rfl | hq
      · exact .inl hwhole
      · exact .inr ⟨q, hq, surplus_open q⟩
  constructor
  · intro p hp
    rcases hcases p hp with hs | ⟨q, hq, hs⟩
    · omega
    · have := h.nonneg q hq
      omega
  · exact hwhole
  · intro p hp
    rcases hcases p hp with hs | ⟨q, hq, hs⟩
    · omega
    · have := h.le q hq
      omega
  · obtain ⟨q, hq, hs⟩ := h.reached
    refine ⟨'(' :: q, List.prefix_cons_iff.mpr (.inr ⟨q, rfl, ?_⟩), ?_⟩
    · exact hq.trans (List.prefix_append cs [')'])
    · rw [surplus_open, hs]
      rfl

end Balanced

/-- The parentheses that a comparison has of its own: those of its list. -/
def Comparison.ownParens (c : Comparison) : Nat :=
  if c.value.isList then 1 else 0

/-- The comparisons from left to right, each with the number of groups around it. -/
def Expression.enclosed : Expression → List (Nat × Comparison)
  | comparison c => [(0, c)]
  | logical left _ right => left.enclosed ++ right.enclosed
  | group inner => inner.enclosed.map fun (groups, c) => (groups + 1, c)

/-- How many parentheses stand around the literals of each comparison. -/
def Expression.parens (e : Expression) : List Nat :=
  e.enclosed.map fun (groups, c) => groups + c.ownParens

theorem parens_logical (left right : Expression) (op : Operator) :
    (Expression.logical left op right).parens = left.parens ++ right.parens :=
  List.map_append

theorem parens_group (inner : Expression) :
    (Expression.group inner).parens = inner.parens.map (· + 1) := by
  simp only [Expression.parens, Expression.enclosed, List.map_map]
  refine List.map_congr_left fun p _ => ?_
  simp only [Function.comp_apply]
  omega

theorem max?_append {xs ys : List Nat} {m n : Nat} (hx : xs.max? = some m) (hy : ys.max? = some n) :
    (xs ++ ys).max? = some (max m n) := by
  rw [List.max?_eq_some_iff] at hx hy ⊢
  obtain ⟨hm, hxs⟩ := hx
  obtain ⟨hn, hys⟩ := hy
  constructor
  · rcases Nat.le_total m n with h | h
    · rw [Nat.max_eq_right h]
      exact List.mem_append_right xs hn
    · rw [Nat.max_eq_left h]
      exact List.mem_append_left ys hm
  · intro k hk
    rcases List.mem_append.mp hk with hk | hk
    · have := hxs k hk
      omega
    · have := hys k hk
      omega

theorem max?_map_succ {xs : List Nat} {m : Nat} (h : xs.max? = some m) :
    (xs.map (· + 1)).max? = some (m + 1) := by
  rw [List.max?_eq_some_iff] at h ⊢
  refine ⟨List.mem_map_of_mem h.1, fun k hk => ?_⟩
  obtain ⟨j, hj, rfl⟩ := List.mem_map.mp hk
  exact Nat.succ_le_succ (h.2 j hj)

theorem parenFree_symbol (op : Operator) : ParenFree op.symbol.toList := by
  cases op <;> decide

theorem parenFree_opening (kind : DialectKind) {column : String} (h : ParenFree column.toList) :
    ParenFree (kind.opening column).toList := by
  cases kind with
  | pgVector =>
      rw [DialectKind.opening, String.toList_append]
      exact h.append (by decide)
  | mySql =>
      rw [DialectKind.opening, String.toList_append]
      exact h.append (by decide)

theorem parenFree_items {items : List Scalar}
    (h : ∀ s ∈ items, ParenFree (quoteSingle s).toList) :
    ParenFree (String.intercalate "," (items.map quoteSingle)).toList := by
  induction items with
  | nil => decide
  | cons s items ih =>
      rw [List.forall_mem_cons] at h
      cases items with
      | nil =>
          rw [List.map_cons, List.map_nil, String.intercalate_singleton]
          exact h.1
      | cons t items =>
          rw [List.map_cons, List.map_cons, String.intercalate_cons_cons, ← List.map_cons,
            String.toList_append, String.toList_append]
          exact (h.1.append (by decide)).append (ih h.2)

section

variable (name opening : String)

theorem balanced_value {v : Value} (h : ∀ s ∈ v.literals, ParenFree (quoteSingle s).toList) :
    Balanced (if v.isList then 1 else 0) (v.clause (.quoting name opening)).toList := by
  cases v with
  | scalar s => exact (h s List.mem_cons_self).balanced
  | list items =>
      have hitems : ParenFree (String.intercalate "," (items.map quoteSingle)).toList :=
        parenFree_items h
      have hwrapped := hitems.balanced.wrap
      simpa [Value.clause, Dialect.quoting, Value.isList] using hwrapped

theorem balanced_comparison {c : Comparison} (hopening : ParenFree opening.toList)
    (hkey : ParenFree (Key.stripOuterQuotes c.key).toList)
    (hvalue : ∀ s ∈ c.value.literals, ParenFree (quoteSingle s).toList) :
    Balanced c.ownParens (c.clause (.quoting name opening)).toList := by
  have hfront : ParenFree (opening.toList ++ ((Key.stripOuterQuotes c.key).toList ++ ['\'']) ++
      c.op.symbol.toList) :=
    (hopening.append (hkey.append (by decide))).append (parenFree_symbol c.op)
  have hwhole := hfront.balanced.append (balanced_value name opening hvalue)
  rw [Nat.zero_max] at hwhole
  simpa [Comparison.clause, Dialect.quoting, Comparison.ownParens] using hwhole

theorem balanced_clause {e : Expression} (hopening : ParenFree opening.toList)
    (h : e.Throughout quoteSingle fun s => ParenFree s.toList) :
    ∃ deepest, e.parens.max? = some deepest ∧
      Balanced deepest (e.clause (.quoting name opening)).toList := by
  induction e with
  | comparison c =>
      obtain ⟨hkey, hvalue⟩ := Expression.forall_comparisons_comparison.mp h
      refine ⟨c.ownParens, ?_, balanced_comparison name opening hopening hkey hvalue⟩
      simp [Expression.parens, Expression.enclosed]
  | logical left op right ihl ihr =>
      obtain ⟨hleft, hright⟩ := Expression.forall_comparisons_logical.mp h
      obtain ⟨m, hm, hl⟩ := ihl hleft
      obtain ⟨n, hn, hr⟩ := ihr hright
      refine ⟨max m n, ?_, ?_⟩
      · rw [parens_logical]
        exact max?_append hm hn
      · have hwhole := (hl.append (parenFree_symbol op).balanced).append hr
        rw [Nat.max_zero] at hwhole
        simpa [Expression.clause] using hwhole
  | group inner ih =>
      obtain ⟨n, hn, hinner⟩ := ih h
      refine ⟨n + 1, ?_, ?_⟩
      · rw [parens_group]
        exact max?_map_succ hn
      · simpa [Expression.clause, Dialect.quoting] using hinner.wrap

end

/-- Where the column, the keys and the literals bring no parentheses of their own, the parentheses of a
clause are balanced, and they nest as deep as the groups around a comparison, with its list if it has
one, do for the comparison that has most. -/
theorem parens_balanced_in_clause {kind : DialectKind} {column : String} {e : Expression}
    {settings : ConverterSettings} {text : String}
    (h : convertWith e (kind.build (some column)) settings = .ok text)
    (hcolumn : ParenFree column.toList)
    (hfree : e.Throughout (kind.build (some column)).renderScalar fun s => ParenFree s.toList) :
    ∃ deepest, e.parens.max? = some deepest ∧ Balanced deepest text.toList := by
  obtain ⟨-, -, rfl⟩ := convertWith_eq_ok_iff.mp h
  rw [build_eq_quoting] at hfree ⊢
  exact balanced_clause _ _ (parenFree_opening kind hcolumn) hfree

/-- A list in two groups, joined to a list in none and to a test of a number. -/
def groupedList : Expression :=
  ((Expression.group (.group (.comparison ⟨"a", .isIn, .ofList ["x", "y"]⟩))).or
    (.comparison ⟨"b", .notIn, .ofList ([] : List String)⟩)).and (.test "' c '" .gt (-7 : Int64))

/-- The two groups and the list in them make three levels. -/
theorem parens_of_groupedList :
    ∃ text, convertWith groupedList (DialectKind.mySql.build (some "m")) {} = .ok text ∧
      Balanced 3 text.toList := by
  have h : convertWith groupedList (DialectKind.mySql.build (some "m")) {} =
      .ok (groupedList.clause (DialectKind.mySql.build (some "m"))) :=
    convertWith_eq_ok_iff.mpr ⟨by decide, by decide, rfl⟩
  obtain ⟨deepest, hmax, hbalanced⟩ := parens_balanced_in_clause h (by decide) (by decide)
  have hthree : groupedList.parens.max? = some 3 := by decide
  rw [hthree] at hmax
  cases hmax
  exact ⟨_, h, hbalanced⟩

end FilterClause
