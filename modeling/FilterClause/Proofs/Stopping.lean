import FilterClause.Proofs.Offence

/-!
What a rendering leaves behind that fails. It stops at the first node that is refused. The text then ends
where the clause of the whole tree has that node, the nodes on the way to it stay counted, and the log has
one warning more.
-/

namespace FilterClause

def Log.recordAll (log : Log) (events : List Event) : Log :=
  events.foldl Log.record log

def ConvertError.warnings (dialect : String) : ConvertError → List Event
  | depthExceeded limit => [.depthExceeded limit dialect]
  | unsupportedOperator op position => [.operatorRefused op position]
  | unknownDialect _ | invalidExpression _ => []

inductive Turn
  | left
  | right
  | inner
  deriving DecidableEq, Repr

/-- The way from the root to a node. It passes one node more than it has turns. -/
abbrev Path := List Turn

/-- In the order of the traversal: a node before what is below it, and all on the left before all on the
right. -/
def Path.Earlier : Path → Path → Prop :=
  List.Lex fun turn turn' => turn = .left ∧ turn' = .right

namespace Expression

inductive Leads : Expression → Path → Expression → Prop
  | here (e : Expression) : Leads e [] e
  | left {left right node : Expression} {op : Operator} {path : Path} (h : Leads left path node) :
      Leads (logical left op right) (.left :: path) node
  | right {left right node : Expression} {op : Operator} {path : Path} (h : Leads right path node) :
      Leads (logical left op right) (.right :: path) node
  | inner {inner node : Expression} {path : Path} (h : Leads inner path node) :
      Leads (group inner) (.inner :: path) node

/-- The part of the clause that stands before a node. -/
def before (dialect : Dialect) : Expression → Path → String
  | logical left _ _, .left :: path => left.before dialect path
  | logical left op right, .right :: path =>
      left.clause dialect ++ op.symbol ++ right.before dialect path
  | group inner, .inner :: path => dialect.openGroup ++ inner.before dialect path
  | _, _ => ""

theorem before_nil (dialect : Dialect) (e : Expression) : e.before dialect [] = "" := by
  cases e <;> rfl

theorem Leads.exists_after {e node : Expression} {path : Path} (h : e.Leads path node)
    (dialect : Dialect) :
    ∃ after, e.clause dialect = e.before dialect path ++ node.clause dialect ++ after := by
  induction h with
  | here e =>
      refine ⟨"", ?_⟩
      rw [before_nil, String.empty_append, String.append_empty]
  | @left left right node op path h ih =>
      obtain ⟨after, hafter⟩ := ih
      refine ⟨after ++ op.symbol ++ right.clause dialect, ?_⟩
      simp only [clause, before, hafter, String.append_assoc]
  | @right left right node op path h ih =>
      obtain ⟨after, hafter⟩ := ih
      refine ⟨after, ?_⟩
      simp only [clause, before, hafter, String.append_assoc]
  | inner h ih =>
      obtain ⟨after, hafter⟩ := ih
      refine ⟨after ++ dialect.closeGroup, ?_⟩
      simp only [clause, before, hafter, String.append_assoc]

/-- The node at the end of the way is refused, the root of the tree being at the given level. -/
def RefusedAt (limit level : Nat) (e : Expression) (path : Path) (err : ConvertError) : Prop :=
  ∃ node, e.Leads path node ∧ Site.offence? limit ⟨level + path.length, node⟩ = some err

/-- The same with a root that is not counted, which is judged by its operator alone. -/
def RefusedBare (limit level : Nat) (e : Expression) : Path → ConvertError → Prop
  | [], err => e.misplaced? = some err
  | turn :: path, err => e.RefusedAt limit level (turn :: path) err

variable {limit level : Nat} {e : Expression} {path : Path} {err : ConvertError}

theorem refusedAt_cons_iff {child : Expression} {turn : Turn}
    (h : ∀ node, e.Leads (turn :: path) node ↔ child.Leads path node) :
    e.RefusedAt limit level (turn :: path) err ↔ child.RefusedAt limit (level + 1) path err := by
  have hlevel : level + (turn :: path).length = level + 1 + path.length := by
    rw [List.length_cons, Nat.add_assoc, Nat.add_comm 1]
  simp only [RefusedAt, h, hlevel]

theorem refusedAt_left_iff {left right : Expression} {op : Operator} :
    (logical left op right).RefusedAt limit level (.left :: path) err ↔
      left.RefusedAt limit (level + 1) path err := by
  apply refusedAt_cons_iff
  intro node
  constructor
  · rintro (_ | h)
    exact h
  · exact .left

theorem refusedAt_right_iff {left right : Expression} {op : Operator} :
    (logical left op right).RefusedAt limit level (.right :: path) err ↔
      right.RefusedAt limit (level + 1) path err := by
  apply refusedAt_cons_iff
  intro node
  constructor
  · rintro (_ | _ | h)
    exact h
  · exact .right

theorem refusedAt_inner_iff {inner : Expression} :
    (group inner).RefusedAt limit level (.inner :: path) err ↔
      inner.RefusedAt limit (level + 1) path err := by
  apply refusedAt_cons_iff
  intro node
  constructor
  · rintro (_ | _ | _ | h)
    exact h
  · exact .inner

theorem refusedAt_nil_iff (h : level ≤ limit) :
    e.RefusedAt limit level [] err ↔ e.misplaced? = some err := by
  have hroot : Site.offence? limit ⟨level, e⟩ = e.misplaced? := if_neg (Nat.not_lt.mpr h)
  constructor
  · rintro ⟨node, hnode, hoffence⟩
    cases hnode
    exact hroot.symm.trans hoffence
  · intro hmisplaced
    exact ⟨e, .here e, hroot.trans hmisplaced⟩

/-- Within the limit it makes no difference whether the root is counted. -/
theorem refusedBare_iff (h : level ≤ limit) :
    e.RefusedBare limit level path err ↔ e.RefusedAt limit level path err := by
  cases path with
  | nil => exact (refusedAt_nil_iff h).symm
  | cons turn path => rfl

theorem misplaced?_eq_none (h : e.WellFormed) : e.misplaced? = none := by
  cases e with
  | comparison c => exact if_pos h
  | logical left op right => exact if_pos h.1
  | group inner => rfl

theorem depth_pos (e : Expression) : 0 < e.depth := by
  cases e <;> simp only [depth] <;> omega

theorem Leads.offence?_eq_none {node : Expression} (h : e.Leads path node)
    (hroom : level + e.depth ≤ limit + 1) (hw : e.WellFormed) :
    Site.offence? limit ⟨level + path.length, node⟩ = none := by
  induction h generalizing level with
  | here e =>
      have hpos := e.depth_pos
      have hlevel : ¬ limit < level := by omega
      exact (if_neg hlevel).trans (misplaced?_eq_none hw)
  | left h ih =>
      rw [depth] at hroom
      have hleft := @ih (level + 1) (by omega) hw.2.1
      rwa [Nat.add_right_comm] at hleft
  | right h ih =>
      rw [depth] at hroom
      have hright := @ih (level + 1) (by omega) hw.2.2
      rwa [Nat.add_right_comm] at hright
  | inner h ih =>
      rw [depth] at hroom
      have hinner := @ih (level + 1) (by omega) hw
      rwa [Nat.add_right_comm] at hinner

theorem not_refusedAt (hroom : level + e.depth ≤ limit + 1) (hw : e.WellFormed) :
    ¬ e.RefusedAt limit level path err := by
  rintro ⟨node, hnode, hoffence⟩
  rw [hnode.offence?_eq_none hroom hw] at hoffence
  cases hoffence

end Expression

/-- The first way, in the order of the traversal, at whose end a node is refused. -/
structure FirstRefused (refused : Path → ConvertError → Prop) (path : Path) (err : ConvertError) :
    Prop where
  here : refused path err
  earlier : ∀ p, Path.Earlier p path → ∀ err', ¬ refused p err'

namespace FirstRefused

variable {refused refused' : Path → ConvertError → Prop} {path : Path} {err : ConvertError}

theorem root (h : refused [] err) : FirstRefused refused [] err where
  here := h
  earlier p hp := by cases hp

/-- From an operand to its node: neither the node itself nor anything on the left is refused. -/
theorem under {turn : Turn} (h : FirstRefused refused path err)
    (hturn : ∀ p err, refused' (turn :: p) err ↔ refused p err) (hroot : ∀ err, ¬ refused' [] err)
    (hleft : turn = .right → ∀ p err, ¬ refused' (.left :: p) err) :
    FirstRefused refused' (turn :: path) err where
  here := (hturn path err).mpr h.here
  earlier p hp err' := by
    cases hp with
    | nil => exact hroot err'
    | cons hp => exact fun hrefused => h.earlier _ hp err' ((hturn _ err').mp hrefused)
    | rel hturns =>
        obtain ⟨rfl, rfl⟩ := hturns
        exact hleft rfl _ err'

theorem congr (h : FirstRefused refused path err) (hrefused : ∀ p err, refused' p err ↔ refused p err) :
    FirstRefused refused' path err where
  here := (hrefused path err).mpr h.here
  earlier p hp err' hp' := h.earlier p hp err' ((hrefused p err').mp hp')

end FirstRefused

namespace Renderer

/-- The renderer with so much more text, so many levels more, and the warning for the error. -/
def stopped (r : Renderer) (before : String) (levels : Nat) (err : ConvertError) : Renderer :=
  { r with
    text := r.text ++ before
    depth := r.depth + levels
    log := r.log.recordAll (err.warnings r.dialect.name) }

variable {r : Renderer} {s : Stopped}

theorem stopped_push (text before : String) (levels : Nat) (err : ConvertError) :
    (r.push text).stopped before levels err = r.stopped (text ++ before) levels err := by
  simp only [stopped, push, String.append_assoc]

theorem stopped_down (before : String) (levels : Nat) (err : ConvertError) :
    r.down.stopped before levels err = r.stopped before (levels + 1) err := by
  simp only [stopped, down, Nat.add_assoc, Nat.add_comm 1]

theorem enter_eq_error_iff :
    r.enter = .error s ↔ r.maxDepth < r.depth + 1 ∧
      s = ⟨.depthExceeded r.maxDepth, r.stopped "" 1 (.depthExceeded r.maxDepth)⟩ := by
  rw [enter, stopped, String.append_empty]
  split
  · rename_i h
    rw [Except.error.injEq, eq_comm (a := s)]
    exact (and_iff_right h).symm
  · rename_i h
    simp only [h, reduceCtorEq, false_and]

theorem checkOperator_eq_error_iff {op : Operator} {position : OperatorPosition} :
    r.checkOperator op position = .error s ↔ position.admits op = false ∧
      s = ⟨.unsupportedOperator op position, r.stopped "" 0 (.unsupportedOperator op position)⟩ := by
  cases h : position.admits op with
  | true => simp only [checkOperator, h, if_true, reduceCtorEq, false_and]
  | false =>
      simp only [checkOperator, h, Bool.false_eq_true, if_false, Except.error.injEq, true_and,
        stopped, String.append_empty]
      exact eq_comm

theorem counted_eq_error_iff {body : Renderer → Rendering} :
    counted body r = .error s ↔
      r.enter = .error s ∨ (r.depth + 1 ≤ r.maxDepth ∧ body r.down = .error s) := by
  simp only [counted, Except.bind_eq_error_iff, enter_eq_ok_iff, reduceCtorEq, and_false, exists_false,
    or_false]
  constructor
  · rintro (h | ⟨_, ⟨hlimit, rfl⟩, h⟩)
    · exact .inl h
    · exact .inr ⟨hlimit, h⟩
  · rintro (h | ⟨hlimit, h⟩)
    · exact .inl h
    · exact .inr ⟨_, ⟨hlimit, rfl⟩, h⟩

theorem renderComparison_eq_error_iff {c : Comparison} :
    renderComparison c r = .error s ↔ r.checkOperator c.op .comparison = .error s := by
  simp only [renderComparison, Except.bind_eq_error_iff, reduceCtorEq, and_false, exists_false,
    or_false]

theorem renderBare_logical_eq_error_iff {left right : Expression} {op : Operator} :
    renderBare (.logical left op right) r = .error s ↔
      r.checkOperator op .logical = .error s ∨
      (op.isLogical ∧ (r.render left = .error s ∨
        ∃ t, r.render left = .ok t ∧ (t.push op.symbol).render right = .error s)) := by
  simp only [renderBare, Except.bind_eq_error_iff, checkOperator_eq_ok_iff,
    OperatorPosition.admits, render]
  constructor
  · rintro (h | ⟨_, ⟨hop, rfl⟩, h⟩)
    · exact .inl h
    · exact .inr ⟨hop, h⟩
  · rintro (h | ⟨hop, h⟩)
    · exact .inl h
    · exact .inr ⟨r, ⟨hop, rfl⟩, h⟩

theorem renderBare_group_eq_error_iff {inner : Expression} :
    renderBare (.group inner) r = .error s ↔ (r.push r.dialect.openGroup).render inner = .error s := by
  simp only [renderBare, Except.bind_eq_error_iff, reduceCtorEq, and_false, exists_false, or_false,
    render]

/-- The rendering of a tree has stopped at its first node to be refused. -/
def Stops (e : Expression) (r : Renderer) (s : Stopped) : Prop :=
  ∃ path, FirstRefused (e.RefusedAt r.maxDepth (r.depth + 1)) path s.error ∧
    s.renderer = r.stopped (e.before r.dialect path) (path.length + 1) s.error

/-- The same without the root being counted. -/
def StopsBare (e : Expression) (r : Renderer) (s : Stopped) : Prop :=
  ∃ path, FirstRefused (e.RefusedBare r.maxDepth r.depth) path s.error ∧
    s.renderer = r.stopped (e.before r.dialect path) path.length s.error

theorem stops_of_stopsBare {e : Expression}
    (h : ∀ r s, renderBare e r = .error s → StopsBare e r s) (hs : r.render e = .error s) :
    Stops e r s := by
  rcases counted_eq_error_iff.mp hs with hs | ⟨hlimit, hs⟩
  · obtain ⟨hlimit, rfl⟩ := enter_eq_error_iff.mp hs
    refine ⟨[], .root ⟨e, .here e, if_pos hlimit⟩, ?_⟩
    rw [Expression.before_nil]
    rfl
  · obtain ⟨path, hfirst, hr⟩ := h r.down s hs
    refine ⟨path, hfirst.congr ?_, ?_⟩
    · intro p err
      exact (Expression.refusedBare_iff hlimit).symm
    · rw [hr, stopped_down]
      rfl

theorem stopsBare_of_checkOperator {e : Expression} {op : Operator} {position : OperatorPosition}
    (hs : r.checkOperator op position = .error s)
    (h : position.admits op = false → e.misplaced? = some (.unsupportedOperator op position)) :
    StopsBare e r s := by
  obtain ⟨hop, rfl⟩ := checkOperator_eq_error_iff.mp hs
  refine ⟨[], .root (h hop), ?_⟩
  rw [Expression.before_nil]
  rfl

theorem stopsBare (e : Expression) (r : Renderer) (s : Stopped) (hs : renderBare e r = .error s) :
    StopsBare e r s := by
  induction e generalizing r s with
  | comparison c =>
      apply stopsBare_of_checkOperator (renderComparison_eq_error_iff.mp hs)
      intro hop
      exact if_neg (Bool.eq_false_iff.mp hop)
  | logical left op right ihl ihr =>
      rcases renderBare_logical_eq_error_iff.mp hs with hs | ⟨hop, hs⟩
      · apply stopsBare_of_checkOperator hs
        intro hop
        exact if_neg (Bool.eq_false_iff.mp hop)
      have hroot : ∀ err, ¬ (Expression.logical left op right).RefusedBare r.maxDepth r.depth [] err := by
        intro err hrefused
        rw [Expression.RefusedBare, Expression.misplaced?, if_pos hop] at hrefused
        cases hrefused
      rcases hs with hs | ⟨t, ht, hs⟩
      · obtain ⟨path, hfirst, hr⟩ := stops_of_stopsBare ihl hs
        refine ⟨.left :: path, hfirst.under ?_ hroot ?_, hr⟩
        · intro p err
          exact Expression.refusedAt_left_iff
        · intro h
          cases h
      · obtain ⟨hroom, hw, rfl⟩ := render_eq_ok_iff.mp ht
        obtain ⟨path, hfirst, hr⟩ := stops_of_stopsBare ihr hs
        refine ⟨.right :: path, hfirst.under ?_ hroot ?_, ?_⟩
        · intro p err
          exact Expression.refusedAt_right_iff
        · intro _ p err hrefused
          have hleft := Expression.refusedAt_left_iff.mp hrefused
          exact Expression.not_refusedAt (by omega) hw hleft
        · rw [hr, push_push, stopped_push]
          rfl
  | group inner ih =>
      have hs := renderBare_group_eq_error_iff.mp hs
      obtain ⟨path, hfirst, hr⟩ := stops_of_stopsBare ih hs
      refine ⟨.inner :: path, hfirst.under ?_ ?_ ?_, ?_⟩
      · intro p err
        exact Expression.refusedAt_inner_iff
      · intro err h
        cases h
      · intro h
        cases h
      · rw [hr, stopped_push]
        rfl

theorem stops {e : Expression} (hs : r.render e = .error s) : Stops e r s :=
  stops_of_stopsBare (stopsBare e) hs

theorem log_of_render_eq_error {e : Expression} (hs : r.render e = .error s) :
    s.renderer.log = r.log.recordAll (s.error.warnings r.dialect.name) := by
  obtain ⟨path, -, hr⟩ := stops hs
  rw [hr]
  rfl

end Renderer

/-- What a rendering leaves that stops at the end of this way: a text that ends where the clause has the
node, and so many levels more than there were. -/
structure LeftAt (e : Expression) (r : Renderer) (path : Path) (levels : Nat) (s : Stopped) : Prop where
  node : ∃ node after, e.Leads path node ∧
    e.clause r.dialect = e.before r.dialect path ++ node.clause r.dialect ++ after
  text : s.renderer.text = r.text ++ e.before r.dialect path
  depth : s.renderer.depth = r.depth + levels

theorem leftAt_of_stopped {e : Expression} {r : Renderer} {path : Path} {levels : Nat} {s : Stopped}
    (h : ∃ node, e.Leads path node)
    (hs : s.renderer = r.stopped (e.before r.dialect path) levels s.error) :
    LeftAt e r path levels s where
  node := by
    obtain ⟨node, hnode⟩ := h
    obtain ⟨after, hafter⟩ := hnode.exists_after r.dialect
    exact ⟨node, after, hnode, hafter⟩
  text := congrArg Renderer.text hs
  depth := congrArg Renderer.depth hs

/-- From any state of the renderer, a rendering that fails stops at the first node that is refused for
its level or its operator. What has been written by then is the part of the clause before that node, and
what stays counted are the nodes on the way from the root to it; a root that is rendered by itself is not
counted and not judged by its level. -/
theorem render_stops_at_first_refused (e : Expression) (r : Renderer) (s : Stopped) :
    (r.render e = .error s →
      ∃ path, FirstRefused (e.RefusedAt r.maxDepth (r.depth + 1)) path s.error ∧
        LeftAt e r path (path.length + 1) s) ∧
    (Renderer.renderBare e r = .error s →
      ∃ path, FirstRefused (e.RefusedBare r.maxDepth r.depth) path s.error ∧
        LeftAt e r path path.length s) := by
  constructor
  · intro hs
    obtain ⟨path, hfirst, hr⟩ := Renderer.stops hs
    obtain ⟨node, hnode, -⟩ := hfirst.here
    exact ⟨path, hfirst, leftAt_of_stopped ⟨node, hnode⟩ hr⟩
  · intro hs
    obtain ⟨path, hfirst, hr⟩ := Renderer.stopsBare e r s hs
    refine ⟨path, hfirst, leftAt_of_stopped ?_ hr⟩
    cases path with
    | nil => exact ⟨e, .here e⟩
    | cons turn path =>
        obtain ⟨node, hnode, -⟩ := hfirst.here
        exact ⟨node, hnode⟩

/-- A disjunction as the operator of a comparison, in a group behind a whole comparison: what is left
is written up to the bracket, and three nodes stay counted. -/
theorem render_stops_in_group :
    let e : Expression := .and (.test "a" .eq true) (.group (.comparison ⟨"b", .or, .of true⟩))
    let r := Renderer.start .mySql ⟨64⟩ ⟨LogFilter.silent, []⟩
    ∃ s path, r.render e = .error s ∧ LeftAt e r path (path.length + 1) s ∧
      s.renderer.text = "metadata->>'$.a' = true AND (" ∧ s.renderer.depth = 3 := by
  intro e r
  have hs : r.render e = .error ⟨.unsupportedOperator .or .comparison,
      r.stopped "metadata->>'$.a' = true AND (" 3 (.unsupportedOperator .or .comparison)⟩ := rfl
  obtain ⟨path, -, hleft⟩ := (render_stops_at_first_refused e r _).1 hs
  exact ⟨_, path, hs, hleft, rfl, rfl⟩

end FilterClause
