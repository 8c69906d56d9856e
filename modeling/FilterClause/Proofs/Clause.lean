import FilterClause.Proofs.Rendering

/-!
The clause of an expression, given as a text by recursion on the tree, and the trees that have one: no
deeper than the limit, with each operator in its place. Rendering writes exactly that text and is
refused exactly otherwise, from any state of the renderer.
-/

namespace FilterClause

/-- Each operator stands where one of its kind may stand. -/
def Expression.WellFormed : Expression → Prop
  | comparison c => c.op.isComparison
  | logical left op right => op.isLogical ∧ left.WellFormed ∧ right.WellFormed
  | group inner => inner.WellFormed

instance Expression.decidableWellFormed : DecidablePred Expression.WellFormed
  | comparison c => inferInstanceAs (Decidable (c.op.isComparison = true))
  | logical left op right =>
      have := decidableWellFormed left
      have := decidableWellFormed right
      inferInstanceAs (Decidable (op.isLogical = true ∧ left.WellFormed ∧ right.WellFormed))
  | group inner => decidableWellFormed inner

def Value.clause (dialect : Dialect) : Value → String
  | scalar s => dialect.renderScalar s
  | list items =>
      dialect.openRange ++ String.intercalate "," (items.map dialect.renderScalar) ++
        dialect.closeRange

def Comparison.clause (dialect : Dialect) (c : Comparison) : String :=
  dialect.renderKey (Key.stripOuterQuotes c.key) ++ c.op.symbol ++ c.value.clause dialect

/-- The text of a tree. Operands are written as they are, so only a group has delimiters. -/
def Expression.clause (dialect : Dialect) : Expression → String
  | comparison c => c.clause dialect
  | logical left op right => left.clause dialect ++ op.symbol ++ right.clause dialect
  | group inner => dialect.openGroup ++ inner.clause dialect ++ dialect.closeGroup

namespace Renderer

theorem renderItems_eq_push (items : List Scalar) (r : Renderer) :
    renderItems items r = r.push (String.intercalate "," (items.map r.dialect.renderScalar)) := by
  induction items generalizing r with
  | nil => simp only [renderItems, List.map_nil, String.intercalate_nil, push_empty]
  | cons s items ih =>
      cases items with
      | nil => simp only [renderItems, List.map_cons, List.map_nil, String.intercalate_singleton]
      | cons t items =>
          rw [renderItems, ih]
          · simp only [push_push, push_dialect, List.map_cons, String.intercalate_cons_cons,
              String.append_assoc]
          · exact List.cons_ne_nil t items

theorem renderValue_eq_push (v : Value) (r : Renderer) :
    renderValue v r = r.push (v.clause r.dialect) := by
  cases v with
  | scalar s => rfl
  | list items =>
      simp only [renderValue, renderItems_eq_push, push_push, push_dialect, Value.clause,
        String.append_assoc]

theorem renderComparison_eq_ok_iff_push {c : Comparison} {r r' : Renderer} :
    renderComparison c r = .ok r' ↔ c.op.isComparison ∧ r' = r.push (c.clause r.dialect) := by
  simp only [renderComparison_eq_ok_iff, renderValue_eq_push, renderKey, push_push, push_dialect,
    Comparison.clause, String.append_assoc]

/-- Rendering from any state: the room below the limit decides, together with the operators, and
afterwards only the text is longer. -/
theorem render_eq_ok_iff {e : Expression} {r r' : Renderer} :
    r.render e = .ok r' ↔
      r.depth + e.depth ≤ r.maxDepth ∧ e.WellFormed ∧ r' = r.push (e.clause r.dialect) := by
  induction e generalizing r r' with
  | comparison c =>
      rw [render, counted_eq_ok_iff, renderBare]
      simp only [renderComparison_eq_ok_iff_push, down_dialect, Expression.depth,
        Expression.WellFormed, Expression.clause]
      constructor
      · rintro ⟨h, _, ⟨hop, rfl⟩, rfl⟩
        exact ⟨h, hop, rfl⟩
      · rintro ⟨h, hop, rfl⟩
        exact ⟨h, _, ⟨hop, rfl⟩, rfl⟩
  | logical left op right ihl ihr =>
      rw [render, counted_eq_ok_iff]
      simp only [renderBare_logical_eq_ok_iff, ihl, ihr, push_push, push_dialect, push_maxDepth,
        push_depth, down_dialect, down_maxDepth, down_depth, Expression.depth,
        Expression.WellFormed, Expression.clause, String.append_assoc]
      constructor
      · rintro ⟨_, _, ⟨hop, _, ⟨hl, wl, rfl⟩, hr, wr, rfl⟩, rfl⟩
        simp only [push_depth, push_maxDepth, down_depth, down_maxDepth] at hr
        exact ⟨by omega, ⟨hop, wl, wr⟩, by simp⟩
      · rintro ⟨h, ⟨hop, wl, wr⟩, rfl⟩
        refine ⟨by omega, _, ⟨hop, _, ⟨by omega, wl, rfl⟩, ?_, wr, rfl⟩, ?_⟩
        · simp only [push_depth, push_maxDepth, down_depth, down_maxDepth]
          omega
        · simp
  | group inner ih =>
      rw [render, counted_eq_ok_iff]
      simp only [renderBare_group_eq_ok_iff, ih, push_push, push_dialect, push_maxDepth, push_depth,
        down_dialect, down_maxDepth, down_depth, Expression.depth, Expression.WellFormed,
        Expression.clause, String.append_assoc]
      constructor
      · rintro ⟨_, _, ⟨_, ⟨h, w, rfl⟩, rfl⟩, rfl⟩
        exact ⟨by omega, w, by simp [String.append_assoc]⟩
      · rintro ⟨h, w, rfl⟩
        exact ⟨by omega, _, ⟨_, ⟨by omega, w, rfl⟩, rfl⟩, by simp [String.append_assoc]⟩

theorem render_start_eq_ok_iff {e : Expression} {dialect : Dialect} {settings : ConverterSettings}
    {log : Log} {r' : Renderer} :
    (start dialect settings log).render e = .ok r' ↔
      e.depth ≤ settings.maxDepth ∧ e.WellFormed ∧
        r' = (start dialect settings log).push (e.clause dialect) := by
  rw [render_eq_ok_iff]
  simp only [start, Nat.zero_add]

end Renderer

theorem convertLogged_eq_ok_iff {e : Expression} {dialect : Dialect} {settings : ConverterSettings}
    {log : Log} {text : String} :
    (convertLogged e dialect settings log).1 = .ok text ↔
      e.depth ≤ settings.maxDepth ∧ e.WellFormed ∧ text = e.clause dialect := by
  simp only [convertLogged]
  split
  · rename_i r hr
    obtain ⟨hd, hw, rfl⟩ := Renderer.render_start_eq_ok_iff.mp hr
    simp only [Renderer.push, Renderer.start, String.empty_append, Except.ok.injEq, hd, hw, true_and]
    exact eq_comm
  · rename_i s hs
    constructor
    · intro h
      cases h
    · rintro ⟨hd, hw, rfl⟩
      rw [Renderer.render_start_eq_ok_iff.mpr ⟨hd, hw, rfl⟩] at hs
      cases hs

theorem convertWith_eq_ok_iff {e : Expression} {dialect : Dialect} {settings : ConverterSettings}
    {text : String} :
    convertWith e dialect settings = .ok text ↔
      e.depth ≤ settings.maxDepth ∧ e.WellFormed ∧ text = e.clause dialect :=
  convertLogged_eq_ok_iff

/-- A conversion succeeds exactly on the trees within the limit whose operators are in their places,
and then yields their clause with nothing around it. -/
theorem toOption_convertWith (e : Expression) (dialect : Dialect) (settings : ConverterSettings) :
    (convertWith e dialect settings).toOption =
      if e.depth ≤ settings.maxDepth ∧ e.WellFormed then some (e.clause dialect) else none := by
  split
  · rename_i h
    rw [convertWith_eq_ok_iff.mpr ⟨h.1, h.2, rfl⟩]
    rfl
  · rename_i h
    cases hc : convertWith e dialect settings with
    | error err => rfl
    | ok text =>
        obtain ⟨hd, hw, -⟩ := convertWith_eq_ok_iff.mp hc
        exact absurd ⟨hd, hw⟩ h

end FilterClause
