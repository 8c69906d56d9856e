import FilterClause.Proofs.Clause

/-!
Which error a conversion reports. Every node of a tree is judged by itself, first by its level and then
by its operator; the error is that of the first node that is refused, in the order of the traversal.
The hooks of the dialect have no part in it.
-/

namespace FilterClause

/-- A node of a tree at its level. -/
structure Site where
  level : Nat
  node : Expression

namespace Expression

/-- The nodes of a tree whose root is at the given level: a node before its operands, the left operand
before the right. -/
def sitesFrom (level : Nat) : Expression → List Site
  | comparison c => [⟨level, comparison c⟩]
  | logical left op right =>
      ⟨level, logical left op right⟩ :: (left.sitesFrom (level + 1) ++ right.sitesFrom (level + 1))
  | group inner => ⟨level, group inner⟩ :: inner.sitesFrom (level + 1)

/-- The root of a whole tree is at level one. -/
def sites (e : Expression) : List Site :=
  e.sitesFrom 1

/-- The error for an operator that may not stand at the root. What is below is not judged. -/
def misplaced? : Expression → Option ConvertError
  | comparison c =>
      if c.op.isComparison then none else some (.unsupportedOperator c.op .comparison)
  | logical _ op _ => if op.isLogical then none else some (.unsupportedOperator op .logical)
  | group _ => none

end Expression

/-- A node beyond the limit is refused for its level, whatever its operator. -/
def Site.offence? (limit : Nat) (site : Site) : Option ConvertError :=
  if limit < site.level then some (.depthExceeded limit) else site.node.misplaced?

def Rendering.error? : Rendering → Option ConvertError
  | .ok _ => none
  | .error s => some s.error

namespace Renderer

variable {r : Renderer}

theorem error?_bind (x : Rendering) (f : Renderer → Rendering) :
    Rendering.error? (x >>= f) = x.error?.or (x.toOption.bind fun r => (f r).error?) := by
  cases x <;> rfl

theorem error?_checkOperator (op : Operator) (position : OperatorPosition) :
    (r.checkOperator op position).error? =
      if position.admits op then none else some (.unsupportedOperator op position) := by
  rw [checkOperator]
  split <;> rfl

theorem error?_counted (body : Renderer → Rendering) :
    (counted body r).error? =
      if r.maxDepth < r.depth + 1 then some (.depthExceeded r.maxDepth) else (body r.down).error? := by
  by_cases h : r.maxDepth < r.depth + 1
  · rw [if_pos h, counted, enter, if_pos h]
    rfl
  · have henter : r.enter = .ok r.down := enter_eq_ok_iff.mpr ⟨Nat.not_lt.mp h, rfl⟩
    rw [if_neg h, counted, henter, Except.ok_bind, error?_bind]
    cases body r.down <;> rfl

theorem error?_renderComparison (c : Comparison) :
    (renderComparison c r).error? = (Expression.comparison c).misplaced? := by
  rw [renderComparison, error?_bind, error?_checkOperator, OperatorPosition.admits,
    Expression.misplaced?]
  cases r.checkOperator c.op .comparison <;> exact Option.or_none

theorem error?_renderBare_logical (left right : Expression) (op : Operator) :
    (renderBare (.logical left op right) r).error? =
      (Expression.logical left op right).misplaced?.or
        ((r.render left).error?.or
          ((r.render left).toOption.bind fun s => ((s.push op.symbol).render right).error?)) := by
  rw [renderBare, error?_bind, error?_checkOperator, OperatorPosition.admits, Expression.misplaced?]
  by_cases h : op.isLogical
  · have hcheck : r.checkOperator op .logical = .ok r := checkOperator_eq_ok_iff.mpr ⟨h, rfl⟩
    rw [if_pos h, hcheck]
    exact error?_bind _ _
  · rw [if_neg h]
    rfl

theorem error?_renderBare_group (inner : Expression) :
    (renderBare (.group inner) r).error? = ((r.push r.dialect.openGroup).render inner).error? := by
  rw [renderBare, error?_bind, ← render]
  cases (r.push r.dialect.openGroup).render inner <;> rfl

theorem findSome?_offence?_cons (limit level : Nat) (node : Expression) (sites : List Site) :
    (⟨level, node⟩ :: sites : List Site).findSome? (Site.offence? limit) =
      if limit < level then some (.depthExceeded limit)
      else node.misplaced?.or (sites.findSome? (Site.offence? limit)) := by
  rw [List.findSome?_cons, Site.offence?]
  by_cases h : limit < level
  · simp only [if_pos h]
  · simp only [if_neg h]
    cases node.misplaced? <;> rfl

/-- From any state of the renderer, the levels below are counted on from its own. -/
theorem error?_render (e : Expression) (r : Renderer) :
    (r.render e).error? =
      (e.sitesFrom (r.depth + 1)).findSome? (Site.offence? r.maxDepth) := by
  induction e generalizing r with
  | comparison c =>
      rw [render, error?_counted, renderBare, error?_renderComparison, Expression.sitesFrom,
        findSome?_offence?_cons, List.findSome?_nil, Option.or_none]
  | logical left op right ihl ihr =>
      rw [render, error?_counted, error?_renderBare_logical, Expression.sitesFrom,
        findSome?_offence?_cons, List.findSome?_append, ihl]
      congr 2
      -- The right operand is judged only if the left one has left the count as it was.
      cases hleft : r.down.render left with
      | error s =>
          have herror := ihl r.down
          rw [hleft] at herror
          rw [down_depth, down_maxDepth] at herror ⊢
          rw [← herror]
          rfl
      | ok s =>
          obtain ⟨-, -, rfl⟩ := render_eq_ok_iff.mp hleft
          rw [Except.toOption, Option.bind_some, ihr]
          rfl
  | group inner ih =>
      rw [render, error?_counted, error?_renderBare_group, Expression.sitesFrom,
        findSome?_offence?_cons, ih, Expression.misplaced?, Option.none_or]
      rfl

end Renderer

theorem convertLogged_eq_error_iff {e : Expression} {dialect : Dialect}
    {settings : ConverterSettings} {log : Log} {err : ConvertError} :
    (convertLogged e dialect settings log).1 = .error err ↔
      e.sites.findSome? (Site.offence? settings.maxDepth) = some err := by
  have hsites : ∀ log, ((Renderer.start dialect settings log).render e).error? =
      e.sites.findSome? (Site.offence? settings.maxDepth) :=
    fun log => Renderer.error?_render e (Renderer.start dialect settings log)
  simp only [convertLogged, ← hsites (log.record (.started dialect.name settings.maxDepth))]
  split
  · rename_i r hr
    simp only [hr, Rendering.error?, reduceCtorEq]
  · rename_i s hs
    rw [hs, Rendering.error?, Except.error.injEq, Option.some.injEq]

theorem convertWith_eq_error_iff {e : Expression} {dialect : Dialect}
    {settings : ConverterSettings} {err : ConvertError} :
    convertWith e dialect settings = .error err ↔
      e.sites.findSome? (Site.offence? settings.maxDepth) = some err :=
  convertLogged_eq_error_iff

theorem convertWith_error_cases {e : Expression} {dialect : Dialect} {settings : ConverterSettings}
    {err : ConvertError} (h : convertWith e dialect settings = .error err) :
    err = .depthExceeded settings.maxDepth ∨
      ∃ op position, err = .unsupportedOperator op position := by
  obtain ⟨⟨level, node⟩, -, herr⟩ := List.exists_of_findSome?_eq_some (convertWith_eq_error_iff.mp h)
  rw [Site.offence?] at herr
  split at herr
  · cases herr
    exact .inl rfl
  · cases node with
    | comparison c =>
        rw [Expression.misplaced?] at herr
        split at herr
        · cases herr
        · cases herr
          exact .inr ⟨c.op, .comparison, rfl⟩
    | logical left op right =>
        rw [Expression.misplaced?] at herr
        split at herr
        · cases herr
        · cases herr
          exact .inr ⟨op, .logical, rfl⟩
    | group inner => cases herr

/-- What becomes of a conversion does not depend on the log. -/
theorem convertLogged_fst (e : Expression) (dialect : Dialect) (settings : ConverterSettings)
    (log : Log) : (convertLogged e dialect settings log).1 = convertWith e dialect settings := by
  cases h : convertWith e dialect settings with
  | ok text => exact convertLogged_eq_ok_iff.mpr (convertWith_eq_ok_iff.mp h)
  | error err => exact convertLogged_eq_error_iff.mpr (convertWith_eq_error_iff.mp h)

/-- A conversion fails exactly when some node is refused, with the error of the first such node, and it
fails alike in every dialect. -/
theorem convertWith_first_offence (e : Expression) (dialect : Dialect)
    (settings : ConverterSettings) (err : ConvertError) :
    (convertWith e dialect settings = .error err ↔
      ∃ before site after, e.sites = before ++ site :: after ∧
        (∀ s ∈ before, s.offence? settings.maxDepth = none) ∧
        site.offence? settings.maxDepth = some err) ∧
    ∀ dialect', convertWith e dialect' settings = .error err ↔
      convertWith e dialect settings = .error err := by
  constructor
  · rw [convertWith_eq_error_iff, List.findSome?_eq_some_iff]
    constructor
    · rintro ⟨before, site, after, hsites, herr, hbefore⟩
      exact ⟨before, site, after, hsites, hbefore, herr⟩
    · rintro ⟨before, site, after, hsites, hbefore, herr⟩
      exact ⟨before, site, after, hsites, herr, hbefore⟩
  · intro dialect'
    rw [convertWith_eq_error_iff, convertWith_eq_error_iff]

end FilterClause
