import FilterClause.Proofs.Counting

/-!
What lies below the limit. A node one level beyond it is refused before anything of the node is looked
at, so that trees which agree down to the limit are converted alike and enter and leave the same levels
on the way. The count itself goes one level beyond the limit and no further.
-/

namespace FilterClause

/-- The tree down to a number of levels. A node on the level behind gives way to the placeholder, with
all that is below it. -/
def Expression.cut (placeholder : Comparison) : Nat → Expression → Expression
  | 0, _ => comparison placeholder
  | _ + 1, comparison c => comparison c
  | levels + 1, logical left op right =>
      logical (left.cut placeholder levels) op (right.cut placeholder levels)
  | levels + 1, group inner => group (inner.cut placeholder levels)

namespace Move

def level : Move → Nat
  | enter level => level
  | leave level => level

/-- Where the count ends that makes these moves, if each of them can be made where it comes. -/
def walk : Nat → List Move → Option Nat
  | count, [] => some count
  | count, enter level :: moves => if level = count + 1 then walk level moves else none
  | count, leave level :: moves => if level = count then walk (level - 1) moves else none

theorem walk_append (count : Nat) (moves moves' : List Move) :
    walk count (moves ++ moves') = (walk count moves).bind fun last => walk last moves' := by
  induction moves generalizing count with
  | nil => rfl
  | cons move moves ih =>
      cases move with
      | enter level =>
          rw [List.cons_append, walk, walk]
          split
          · exact ih level
          · rfl
      | leave level =>
          rw [List.cons_append, walk, walk]
          split
          · exact ih (level - 1)
          · rfl

end Move

namespace Traced

/-- The moves lead from the given count to the one that the rendering leaves. -/
def Accounts (count : Nat) (t : Traced) : Prop :=
  Move.walk count t.moves = some t.outcome.renderer.depth

theorem accounts_still (outcome : Rendering) : Accounts outcome.renderer.depth (still outcome) :=
  rfl

theorem accounts_enter (r : Renderer) : Accounts r.depth (enter r) := by
  have hdepth : r.enter.renderer.depth = r.depth + 1 := by
    rw [Renderer.enter]
    split <;> rfl
  rw [Accounts, enter, Move.walk, if_pos rfl, hdepth, Move.walk]

theorem accounts_leave (r : Renderer) : Accounts r.depth (leave r) := by
  rw [Accounts, leave, Move.walk, if_pos rfl, Move.walk]
  rfl

theorem Accounts.andThen {count : Nat} {t : Traced} {next : Renderer → Traced}
    (h : Accounts count t) (hnext : ∀ r, Accounts r.depth (next r)) :
    Accounts count (t.andThen next) := by
  rw [Accounts] at h
  rw [Accounts, Traced.andThen]
  cases ht : t.outcome with
  | error s =>
      rw [ht] at h
      exact h
  | ok r =>
      rw [ht] at h
      rw [Move.walk_append, h]
      exact hnext r

theorem accounts_counted {body : Renderer → Traced} (h : ∀ r, Accounts r.depth (body r))
    (r : Renderer) : Accounts r.depth (counted body r) := by
  apply (accounts_enter r).andThen
  intro s
  exact (h s).andThen accounts_leave

theorem accounts_checkOperator (op : Operator) (position : OperatorPosition) (r : Renderer) :
    Accounts r.depth (still (r.checkOperator op position)) := by
  have hdepth : (r.checkOperator op position).renderer.depth = r.depth := by
    rw [Renderer.checkOperator]
    split <;> rfl
  exact hdepth ▸ accounts_still (r.checkOperator op position)

theorem accounts_bare (e : Expression) (r : Renderer) : Accounts r.depth (bare e r) := by
  induction e generalizing r with
  | comparison c =>
      apply (accounts_checkOperator c.op .comparison r).andThen
      intro s
      rw [Renderer.renderValue_eq_push]
      exact accounts_still (.ok (((Renderer.renderKey c.key s).push c.op.symbol).push _))
  | logical left op right ihl ihr =>
      apply (accounts_checkOperator op .logical r).andThen
      intro s
      apply (accounts_counted ihl s).andThen
      intro t
      exact accounts_counted ihr (t.push op.symbol)
  | group inner ih =>
      apply (accounts_counted ih (r.push r.dialect.openGroup)).andThen
      intro s
      exact accounts_still (.ok (s.push s.dialect.closeGroup))

theorem accounts_expression (e : Expression) (r : Renderer) :
    Accounts r.depth (expression e r) :=
  accounts_counted (accounts_bare e) r

/-- No level beyond the first one past the limit is entered or left. -/
def Within (limit : Nat) (t : Traced) : Prop :=
  ∀ move ∈ t.moves, move.level ≤ limit + 1

theorem eq_push_of_expression_eq_ok {e : Expression} {r s : Renderer}
    (h : (expression e r).outcome = .ok s) : s = r.push (e.clause r.dialect) := by
  rw [outcome_expression] at h
  exact (Renderer.render_eq_ok_iff.mp h).2.2

theorem within_still (limit : Nat) (outcome : Rendering) : Within limit (still outcome) := by
  intro move hmove
  cases hmove

theorem Within.andThen {limit : Nat} {t : Traced} {next : Renderer → Traced} (h : Within limit t)
    (hnext : ∀ r, t.outcome = .ok r → Within limit (next r)) : Within limit (t.andThen next) := by
  rw [Traced.andThen]
  cases ht : t.outcome with
  | error s => exact h
  | ok r =>
      intro move hmove
      rcases List.mem_append.mp hmove with hmove | hmove
      · exact h move hmove
      · exact hnext r ht move hmove

theorem within_counted {e : Expression}
    (h : ∀ r, r.depth ≤ r.maxDepth → Within r.maxDepth (bare e r)) {r : Renderer}
    (hroom : r.depth ≤ r.maxDepth) : Within r.maxDepth (counted (bare e) r) := by
  have henter : Within r.maxDepth (enter r) := by
    intro move hmove
    rw [List.mem_singleton.mp hmove]
    exact Nat.succ_le_succ hroom
  apply henter.andThen
  intro s hs
  obtain ⟨hlimit, rfl⟩ := Renderer.enter_eq_ok_iff.mp hs
  apply (h r.down hlimit).andThen
  intro t ht move hmove
  have hdepth : t.depth = r.depth + 1 := (keeps_bare e r.down).ok t ht
  rw [List.mem_singleton.mp hmove, Move.level, hdepth]
  exact Nat.succ_le_succ hroom

theorem within_bare (e : Expression) {r : Renderer} (hroom : r.depth ≤ r.maxDepth) :
    Within r.maxDepth (bare e r) := by
  induction e generalizing r with
  | comparison c =>
      apply (within_still r.maxDepth _).andThen
      intro s hs
      exact within_still r.maxDepth _
  | logical left op right ihl ihr =>
      apply (within_still r.maxDepth _).andThen
      intro s hs
      obtain ⟨-, rfl⟩ := Renderer.checkOperator_eq_ok_iff.mp hs
      apply (within_counted (fun _ => ihl) hroom).andThen
      intro t ht
      obtain rfl := eq_push_of_expression_eq_ok ht
      exact within_counted (fun _ => ihr) (r := (s.push _).push op.symbol) hroom
  | group inner ih =>
      apply (within_counted (fun _ => ih) (r := r.push r.dialect.openGroup) hroom).andThen
      intro s hs
      exact within_still r.maxDepth _

theorem within_expression (e : Expression) {r : Renderer} (hroom : r.depth ≤ r.maxDepth) :
    Within r.maxDepth (expression e r) :=
  within_counted (fun _ => within_bare e) hroom

theorem andThen_congr {t t' : Traced} {next next' : Renderer → Traced} (ht : t = t')
    (h : ∀ r, t.outcome = .ok r → next r = next' r) : t.andThen next = t'.andThen next' := by
  subst ht
  rw [andThen, andThen]
  cases hr : t.outcome with
  | error s => rfl
  | ok r => simp only [h r hr]

theorem counted_congr {body body' : Renderer → Traced} {r : Renderer}
    (h : r.depth + 1 ≤ r.maxDepth → body r.down = body' r.down) :
    counted body r = counted body' r := by
  apply andThen_congr rfl
  intro s hs
  obtain ⟨hlimit, rfl⟩ := Renderer.enter_eq_ok_iff.mp hs
  rw [h hlimit]

theorem down_room {levels : Nat} {r : Renderer} (h : r.maxDepth = r.depth + (levels + 1)) :
    r.down.maxDepth = r.down.depth + levels := by
  rw [Renderer.down_maxDepth, Renderer.down_depth, h, Nat.add_right_comm, Nat.add_assoc]

/-- The levels for which there is room are all that is visited. -/
theorem expression_cut (placeholder : Comparison) (e : Expression) {levels : Nat} {r : Renderer}
    (h : r.maxDepth = r.depth + levels) :
    expression (e.cut placeholder levels) r = expression e r := by
  induction e generalizing levels r with
  | comparison c =>
      apply counted_congr
      intro hlimit
      cases levels with
      | zero => omega
      | succ levels => rfl
  | logical left op right ihl ihr =>
      apply counted_congr
      intro hlimit
      cases levels with
      | zero => omega
      | succ levels =>
          apply andThen_congr rfl
          intro s hs
          obtain ⟨-, rfl⟩ := Renderer.checkOperator_eq_ok_iff.mp hs
          apply andThen_congr (ihl (down_room h))
          intro t ht
          obtain rfl := eq_push_of_expression_eq_ok ht
          exact ihr (down_room h)
  | group inner ih =>
      apply counted_congr
      intro hlimit
      cases levels with
      | zero => omega
      | succ levels =>
          have hinner := ih (r := r.down.push r.dialect.openGroup) (down_room h)
          apply andThen_congr hinner
          intro s hs
          rfl

end Traced

theorem render_cut (placeholder : Comparison) (e : Expression) {levels : Nat} {r : Renderer}
    (h : r.maxDepth = r.depth + levels) : r.render (e.cut placeholder levels) = r.render e := by
  rw [← Traced.outcome_expression, ← Traced.outcome_expression, Traced.expression_cut placeholder e h]

theorem convertLogged_cut (placeholder : Comparison) (e : Expression) (dialect : Dialect)
    (limit : Nat) (log : Log) :
    convertLogged (e.cut placeholder limit) dialect ⟨limit⟩ log =
      convertLogged e dialect ⟨limit⟩ log := by
  rw [convertLogged, convertLogged]
  simp only [render_cut placeholder e (r := .start dialect ⟨limit⟩ _) (Nat.zero_add limit).symm]

/-- Trees that are equal once what lies beyond the limit is cut off are converted alike, whatever was cut
off: with the same clause or the same error, the same log, and through the same levels. On the way the
count, from zero on, is never more than one beyond the limit. -/
theorem convertWith_of_cut_eq {placeholder : Comparison} {limit : Nat} {e e' : Expression}
    (h : e.cut placeholder limit = e'.cut placeholder limit) (dialect : Dialect) (log : Log) :
    let r := Renderer.start dialect ⟨limit⟩ log
    convertWith e dialect ⟨limit⟩ = convertWith e' dialect ⟨limit⟩ ∧
    convertLogged e dialect ⟨limit⟩ log = convertLogged e' dialect ⟨limit⟩ log ∧
    Traced.expression e r = Traced.expression e' r ∧
    (Traced.expression e r).outcome = r.render e ∧
    Move.walk 0 (Traced.expression e r).moves = some (r.render e).renderer.depth ∧
    ∀ move ∈ (Traced.expression e r).moves, move.level ≤ limit + 1 := by
  intro r
  have hroom : r.maxDepth = r.depth + limit := (Nat.zero_add limit).symm
  have hlogged : ∀ log, convertLogged e dialect ⟨limit⟩ log = convertLogged e' dialect ⟨limit⟩ log := by
    intro log
    rw [← convertLogged_cut placeholder e, ← convertLogged_cut placeholder e', h]
  refine ⟨congrArg Prod.fst (hlogged _), hlogged log, ?_, Traced.outcome_expression e r, ?_, ?_⟩
  · rw [← Traced.expression_cut placeholder e hroom, ← Traced.expression_cut placeholder e' hroom, h]
  · rw [← Traced.outcome_expression]
    exact Traced.accounts_expression e r
  · exact Traced.within_expression e (Nat.zero_le limit)

/-- Of two conjunctions in a group, beyond a limit of two, nothing is seen of the operands. -/
theorem convertWith_of_hidden_operands :
    let e : Expression := .group (.and (.comparison ⟨"a", .or, .of true⟩) (.test "b" .eq true))
    let e' : Expression := .group (.and (.test "c" .eq true) (.group (.group (.test "d" .eq true))))
    e.cut ⟨"", .eq, .of true⟩ 2 = e'.cut ⟨"", .eq, .of true⟩ 2 ∧
    convertWith e .mySql ⟨2⟩ = convertWith e' .mySql ⟨2⟩ ∧
    convertWith e .mySql ⟨2⟩ = .error (.depthExceeded 2) := by
  intro e e'
  have h : e.cut ⟨"", .eq, .of true⟩ 2 = e'.cut ⟨"", .eq, .of true⟩ 2 := rfl
  have hsame := convertWith_of_cut_eq h .mySql ⟨LogFilter.silent, []⟩
  exact ⟨h, hsame.1, rfl⟩

end FilterClause
