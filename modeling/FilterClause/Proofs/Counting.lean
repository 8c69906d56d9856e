import FilterClause.Proofs.Clause

/-!
The count of a renderer in the course of a rendering. A rendering is told once more with the levels that
are entered and left on its way; its outcome is the same. What is entered is left again unless the
rendering fails, so that a success restores the count and a failure can only have raised it.
-/

namespace FilterClause

/-- A change of the count, by the level that is entered or left: the count stands at that level after
the one and before the other. -/
inductive Move
  | enter (level : Nat)
  | leave (level : Nat)
  deriving DecidableEq, Repr

/-- A rendering and the changes of the count on its way, the first one first. -/
structure Traced where
  outcome : Rendering
  moves : List Move

namespace Traced

def still (outcome : Rendering) : Traced :=
  ⟨outcome, []⟩

/-- A level that is refused has been entered all the same. -/
def enter (r : Renderer) : Traced :=
  ⟨r.enter, [.enter (r.depth + 1)]⟩

def leave (r : Renderer) : Traced :=
  ⟨.ok r.leave, [.leave r.depth]⟩

/-- Goes on from a success. A failure is final, and nothing is left on account of it. -/
def andThen (t : Traced) (next : Renderer → Traced) : Traced :=
  match t.outcome with
  | .ok r => ⟨(next r).outcome, t.moves ++ (next r).moves⟩
  | .error s => ⟨.error s, t.moves⟩

def counted (body : Renderer → Traced) (r : Renderer) : Traced :=
  (enter r).andThen fun r => (body r).andThen leave

def bare : Expression → Renderer → Traced
  | .comparison c, r =>
      (still (r.checkOperator c.op .comparison)).andThen fun r =>
        still (.ok (Renderer.renderValue c.value ((Renderer.renderKey c.key r).push c.op.symbol)))
  | .logical left op right, r =>
      (still (r.checkOperator op .logical)).andThen fun r =>
        (counted (bare left) r).andThen fun r => counted (bare right) (r.push op.symbol)
  | .group inner, r =>
      (counted (bare inner) (r.push r.dialect.openGroup)).andThen fun r =>
        still (.ok (r.push r.dialect.closeGroup))

def expression (e : Expression) : Renderer → Traced :=
  counted (bare e)

theorem outcome_andThen (t : Traced) (next : Renderer → Traced) :
    (t.andThen next).outcome = t.outcome >>= fun r => (next r).outcome := by
  rw [andThen]
  cases t.outcome <;> rfl

theorem outcome_counted {body : Renderer → Traced} {plain : Renderer → Rendering}
    (h : ∀ r, (body r).outcome = plain r) (r : Renderer) :
    (counted body r).outcome = Renderer.counted plain r := by
  simp only [counted, outcome_andThen, h]
  rfl

theorem outcome_bare (e : Expression) (r : Renderer) :
    (bare e r).outcome = Renderer.renderBare e r := by
  induction e generalizing r with
  | comparison c => exact outcome_andThen _ _
  | logical left op right ihl ihr =>
      simp only [bare, outcome_andThen, outcome_counted ihl, outcome_counted ihr]
      rfl
  | group inner ih =>
      simp only [bare, outcome_andThen, outcome_counted ih]
      rfl

theorem outcome_expression (e : Expression) (r : Renderer) :
    (expression e r).outcome = r.render e :=
  outcome_counted (outcome_bare e) r

/-- Every level that is left lies above the floor, a failure does not end below the floor, and a success
ends at the given level. -/
structure Keeps (floor last : Nat) (t : Traced) : Prop where
  leave : ∀ level, Move.leave level ∈ t.moves → floor < level
  error : ∀ s, t.outcome = .error s → floor ≤ s.renderer.depth
  ok : ∀ r, t.outcome = .ok r → r.depth = last

variable {floor last : Nat}

theorem Keeps.of_succ {t : Traced} (h : Keeps (floor + 1) last t) : Keeps floor last t where
  leave level hlevel := Nat.lt_of_succ_lt (h.leave level hlevel)
  error s hs := Nat.le_of_succ_le (h.error s hs)
  ok := h.ok

theorem Keeps.andThen {middle : Nat} {t : Traced} {next : Renderer → Traced}
    (h : Keeps floor middle t) (hnext : ∀ r, t.outcome = .ok r → Keeps floor last (next r)) :
    Keeps floor last (t.andThen next) := by
  rw [Traced.andThen]
  cases ht : t.outcome with
  | error s =>
      refine ⟨h.leave, ?_, fun _ hr => (nomatch hr)⟩
      intro s' hs
      cases hs
      exact h.error s ht
  | ok r =>
      have hr := hnext r ht
      refine ⟨?_, hr.error, hr.ok⟩
      intro level hlevel
      rcases List.mem_append.mp hlevel with hlevel | hlevel
      · exact h.leave level hlevel
      · exact hr.leave level hlevel

theorem keeps_still_ok (r : Renderer) : Keeps r.depth r.depth (still (.ok r)) where
  leave _ hlevel := absurd hlevel List.not_mem_nil
  error _ hs := nomatch hs
  ok s hs := by cases hs; rfl

theorem keeps_enter (r : Renderer) : Keeps r.depth (r.depth + 1) (enter r) where
  leave level hlevel := by cases List.mem_singleton.mp hlevel
  error s hs := by
    rw [enter, Renderer.enter] at hs
    split at hs
    · cases hs
      exact Nat.le_succ r.depth
    · cases hs
  ok s hs := by
    obtain ⟨-, rfl⟩ := Renderer.enter_eq_ok_iff.mp hs
    rfl

theorem keeps_leave {r : Renderer} (h : r.depth = floor + 1) : Keeps floor floor (leave r) where
  leave level hlevel := by
    cases List.mem_singleton.mp hlevel
    omega
  error _ hs := nomatch hs
  ok s hs := by
    cases hs
    rw [Renderer.leave, h, Nat.add_sub_cancel]

theorem keeps_counted {body : Renderer → Traced} (h : ∀ r, Keeps r.depth r.depth (body r))
    (r : Renderer) : Keeps r.depth r.depth (counted body r) := by
  refine (keeps_enter r).andThen fun s hs => ?_
  have hdepth := (keeps_enter r).ok s hs
  have hbody : Keeps (r.depth + 1) (r.depth + 1) (body s) := hdepth ▸ h s
  exact hbody.of_succ.andThen fun t ht => keeps_leave (hbody.ok t ht)

theorem keeps_checkOperator (op : Operator) (position : OperatorPosition) (r : Renderer) :
    Keeps r.depth r.depth (still (r.checkOperator op position)) := by
  rw [Renderer.checkOperator]
  split
  · exact keeps_still_ok r
  · refine ⟨fun _ hlevel => absurd hlevel List.not_mem_nil, ?_, ?_⟩
    · intro s hs
      cases hs
      exact Nat.le_refl r.depth
    · intro r' hr
      cases hr

theorem keeps_bare (e : Expression) (r : Renderer) : Keeps r.depth r.depth (bare e r) := by
  induction e generalizing r with
  | comparison c =>
      refine (keeps_checkOperator c.op .comparison r).andThen fun s hs => ?_
      obtain ⟨-, rfl⟩ := Renderer.checkOperator_eq_ok_iff.mp hs
      rw [Renderer.renderValue_eq_push]
      exact keeps_still_ok (((Renderer.renderKey c.key s).push c.op.symbol).push _)
  | logical left op right ihl ihr =>
      refine (keeps_checkOperator op .logical r).andThen fun s hs => ?_
      obtain ⟨-, rfl⟩ := Renderer.checkOperator_eq_ok_iff.mp hs
      refine (keeps_counted ihl s).andThen fun t ht => ?_
      have hdepth := (keeps_counted ihl s).ok t ht
      exact hdepth ▸ keeps_counted ihr (t.push op.symbol)
  | group inner ih =>
      refine (keeps_counted ih (r.push r.dialect.openGroup)).andThen fun s hs => ?_
      have hdepth := (keeps_counted ih (r.push r.dialect.openGroup)).ok s hs
      exact hdepth ▸ keeps_still_ok (s.push s.dialect.closeGroup)

theorem keeps_expression (e : Expression) (r : Renderer) :
    Keeps r.depth r.depth (expression e r) :=
  keeps_counted (keeps_bare e) r

end Traced

end FilterClause
