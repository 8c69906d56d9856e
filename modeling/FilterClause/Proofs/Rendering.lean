import FilterClause.Proofs.Outcome
import FilterClause.Renderer

/-!
The steps of a renderer, each by what it needs and what it leaves. A step that succeeds only appends to
the text; whatever was counted for it is counted no more.
-/

namespace FilterClause

namespace Renderer

variable (r : Renderer)

@[simp] theorem push_dialect (s : String) : (r.push s).dialect = r.dialect := rfl

@[simp] theorem push_maxDepth (s : String) : (r.push s).maxDepth = r.maxDepth := rfl

@[simp] theorem push_depth (s : String) : (r.push s).depth = r.depth := rfl

@[simp] theorem push_push (s t : String) : (r.push s).push t = r.push (s ++ t) := by
  simp only [push, String.append_assoc]

@[simp] theorem push_empty : r.push "" = r := by
  simp only [push, String.append_empty]

/-- The renderer one level further down, the limit not looked at. -/
def down : Renderer :=
  { r with depth := r.depth + 1 }

@[simp] theorem down_dialect : r.down.dialect = r.dialect := rfl

@[simp] theorem down_maxDepth : r.down.maxDepth = r.maxDepth := rfl

@[simp] theorem down_depth : r.down.depth = r.depth + 1 := rfl

@[simp] theorem leave_push_down (s : String) : (r.down.push s).leave = r.push s := rfl

variable {r} {r' : Renderer}

theorem enter_eq_ok_iff : r.enter = .ok r' ↔ r.depth + 1 ≤ r.maxDepth ∧ r' = r.down := by
  by_cases h : r.maxDepth < r.depth + 1
  · simp only [enter, if_pos h, reduceCtorEq, false_iff]
    omega
  · simp only [enter, if_neg h, Except.ok.injEq, Nat.not_lt.mp h, true_and]
    exact eq_comm

theorem counted_eq_ok_iff {body : Renderer → Rendering} :
    counted body r = .ok r' ↔
      r.depth + 1 ≤ r.maxDepth ∧ ∃ s, body r.down = .ok s ∧ r' = s.leave := by
  simp only [counted, Except.bind_eq_ok_iff, enter_eq_ok_iff, Except.ok.injEq]
  constructor
  · rintro ⟨_, ⟨h, rfl⟩, s, hs, rfl⟩
    exact ⟨h, s, hs, rfl⟩
  · rintro ⟨h, s, hs, rfl⟩
    exact ⟨_, ⟨h, rfl⟩, s, hs, rfl⟩

theorem checkOperator_eq_ok_iff {op : Operator} {position : OperatorPosition} :
    r.checkOperator op position = .ok r' ↔ position.admits op ∧ r' = r := by
  by_cases h : position.admits op
  · simp only [checkOperator, h, if_true, Except.ok.injEq, true_and]
    exact eq_comm
  · simp only [checkOperator, h, if_false, reduceCtorEq, Bool.false_eq_true, false_and]

theorem renderComparison_eq_ok_iff {c : Comparison} :
    renderComparison c r = .ok r' ↔
      c.op.isComparison ∧ r' = renderValue c.value ((renderKey c.key r).push c.op.symbol) := by
  simp only [renderComparison, Except.bind_eq_ok_iff, checkOperator_eq_ok_iff, Except.ok.injEq,
    OperatorPosition.admits]
  constructor
  · rintro ⟨_, ⟨h, rfl⟩, rfl⟩
    exact ⟨h, rfl⟩
  · rintro ⟨h, rfl⟩
    exact ⟨r, ⟨h, rfl⟩, rfl⟩

theorem renderBare_logical_eq_ok_iff {left right : Expression} {op : Operator} :
    renderBare (.logical left op right) r = .ok r' ↔
      op.isLogical ∧ ∃ s, r.render left = .ok s ∧ (s.push op.symbol).render right = .ok r' := by
  simp only [renderBare, Except.bind_eq_ok_iff, checkOperator_eq_ok_iff, OperatorPosition.admits,
    render]
  constructor
  · rintro ⟨_, ⟨h, rfl⟩, s, hs, hr⟩
    exact ⟨h, s, hs, hr⟩
  · rintro ⟨h, s, hs, hr⟩
    exact ⟨r, ⟨h, rfl⟩, s, hs, hr⟩

theorem renderBare_group_eq_ok_iff {inner : Expression} :
    renderBare (.group inner) r = .ok r' ↔
      ∃ s, (r.push r.dialect.openGroup).render inner = .ok s ∧ r' = s.push s.dialect.closeGroup := by
  simp only [renderBare, Except.bind_eq_ok_iff, Except.ok.injEq, render, eq_comm (a := r')]

end Renderer

end FilterClause
