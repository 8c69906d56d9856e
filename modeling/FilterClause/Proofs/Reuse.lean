import FilterClause.Proofs.Counting

/-!
One renderer used again and again. A rendering that fails leaves its levels counted, so that there is
less room for whatever comes later; beyond that, nothing of the past has any effect. A rendering goes
as it would on a new renderer whose limit is the room that is left.
-/

namespace FilterClause

/-- What a renderer is given to render. By itself a comparison, a pair of operands or a group is not
counted. -/
inductive Node
  | expression (e : Expression)
  | bare (e : Expression)
  | key (key : String)
  | value (v : Value)

namespace Node

def render : Node → Renderer → Rendering
  | expression e, r => r.render e
  | bare e, r => Renderer.renderBare e r
  | key k, r => .ok (Renderer.renderKey k r)
  | value v, r => .ok (Renderer.renderValue v r)

def traced : Node → Renderer → Traced
  | expression e, r => Traced.expression e r
  | bare e, r => Traced.bare e r
  | key k, r => .still (.ok (Renderer.renderKey k r))
  | value v, r => .still (.ok (Renderer.renderValue v r))

theorem outcome_traced (node : Node) (r : Renderer) : (node.traced r).outcome = node.render r := by
  cases node with
  | expression e => exact Traced.outcome_expression e r
  | bare e => exact Traced.outcome_bare e r
  | key k => rfl
  | value v => rfl

theorem keeps_traced (node : Node) (r : Renderer) :
    Traced.Keeps r.depth r.depth (node.traced r) := by
  cases node with
  | expression e => exact Traced.keeps_expression e r
  | bare e => exact Traced.keeps_bare e r
  | key k => exact Traced.keeps_still_ok (Renderer.renderKey k r)
  | value v =>
      rw [traced, Renderer.renderValue_eq_push]
      exact Traced.keeps_still_ok (r.push _)

end Node

/-- A use of a renderer. Its text and its dialect are open to change from outside, its count is not. -/
inductive Use
  | render (node : Node)
  | edit (change : String → String)
  | switch (dialect : Dialect)

/-- A failure is no end: the renderer it leaves behind is used on. -/
def Use.apply (r : Renderer) : Use → Renderer
  | render node => (node.render r).renderer
  | edit change => { r with text := change r.text }
  | switch dialect => { r with dialect }

def Renderer.after (r : Renderer) (uses : List Use) : Renderer :=
  uses.foldl Use.apply r

def ConvertError.withLimit (limit : Nat) : ConvertError → ConvertError
  | depthExceeded _ => depthExceeded limit
  | err => err

namespace Renderer

/-- How a renderer that was used before stands to a new one in the course of the same rendering: `base`
is the used one at the start of it. -/
structure Tracks (base used new : Renderer) : Prop where
  dialect : used.dialect = new.dialect
  limit : used.maxDepth = base.maxDepth
  room : new.maxDepth = base.maxDepth - base.depth
  text : used.text = base.text ++ new.text
  depth : used.depth = base.depth + new.depth

/-- The same outcome on both: on the used renderer the text goes behind what was there, the count is
raised by as much, and the limit that an error names is its own. -/
inductive Alike (base : Renderer) : Rendering → Rendering → Prop
  | ok {used new : Renderer} (h : Tracks base used new) : Alike base (.ok used) (.ok new)
  | error {used new : Stopped} (h : Tracks base used.renderer new.renderer)
      (herror : used.error = new.error.withLimit base.maxDepth) :
      Alike base (.error used) (.error new)

variable {base used new : Renderer}

theorem tracks_start (r : Renderer) (log : Log) :
    Tracks r r (start r.dialect ⟨r.maxDepth - r.depth⟩ log) :=
  ⟨rfl, rfl, rfl, (String.append_empty).symm, rfl⟩

theorem Tracks.push (h : Tracks base used new) (s : String) :
    Tracks base (used.push s) (new.push s) where
  dialect := h.dialect
  limit := h.limit
  room := h.room
  text := by simp only [Renderer.push, h.text, String.append_assoc]
  depth := h.depth

theorem Tracks.record (h : Tracks base used new) (event event' : Event) :
    Tracks base (used.record event) (new.record event') :=
  ⟨h.dialect, h.limit, h.room, h.text, h.depth⟩

theorem Tracks.leave (h : Tracks base used new) (hpos : 0 < new.depth) :
    Tracks base used.leave new.leave where
  dialect := h.dialect
  limit := h.limit
  room := h.room
  text := h.text
  depth := by
    have hdepth := h.depth
    simp only [Renderer.leave]
    omega

theorem Alike.bind {x y : Rendering} {f g : Renderer → Rendering} (h : Alike base x y)
    (hnext : ∀ used new, y = .ok new → Tracks base used new → Alike base (f used) (g new)) :
    Alike base (x >>= f) (y >>= g) := by
  cases h with
  | ok h => exact hnext _ _ rfl h
  | error h herror => exact .error h herror

theorem Alike.maxDepth_renderer {x y : Rendering} (h : Alike base x y) :
    x.renderer.maxDepth = base.maxDepth := by
  cases h with
  | ok h => exact h.limit
  | error h => exact h.limit

/-- Both are refused at the same level, even if the used one was beyond its limit before. -/
theorem Tracks.enter (h : Tracks base used new) : Alike base used.enter new.enter := by
  have hlimit := h.limit
  have hroom := h.room
  have hdepth := h.depth
  have hdown : Tracks base used.down new.down :=
    ⟨h.dialect, hlimit, hroom, h.text, by rw [down_depth, down_depth, hdepth, Nat.add_assoc]⟩
  by_cases hnew : new.maxDepth < new.depth + 1
  · have hused : used.maxDepth < used.depth + 1 := by omega
    rw [Renderer.enter, Renderer.enter, if_pos hused, if_pos hnew]
    exact .error (hdown.record _ _) (congrArg ConvertError.depthExceeded hlimit)
  · have hused : ¬ used.maxDepth < used.depth + 1 := by omega
    rw [Renderer.enter, Renderer.enter, if_neg hused, if_neg hnew]
    exact .ok hdown

theorem Tracks.checkOperator (h : Tracks base used new) (op : Operator)
    (position : OperatorPosition) :
    Alike base (used.checkOperator op position) (new.checkOperator op position) := by
  by_cases hop : position.admits op
  · rw [Renderer.checkOperator, Renderer.checkOperator, if_pos hop, if_pos hop]
    exact .ok h
  · rw [Renderer.checkOperator, Renderer.checkOperator, if_neg hop, if_neg hop]
    exact .error (h.record _ _) rfl

theorem Tracks.counted {body : Renderer → Rendering} (h : Tracks base used new)
    (hbody : ∀ used new, Tracks base used new → Alike base (body used) (body new))
    (hdepth : ∀ r s, body r = .ok s → s.depth = r.depth) :
    Alike base (counted body used) (counted body new) := by
  refine h.enter.bind fun used' new' hnew' h' => ?_
  refine (hbody used' new' h').bind fun used'' new'' hnew'' h'' => ?_
  -- The new renderer has entered a level too, so that the count of neither is cut off at zero.
  obtain ⟨-, rfl⟩ := enter_eq_ok_iff.mp hnew'
  have hpos : 0 < new''.depth := (hdepth _ _ hnew'').symm ▸ Nat.succ_pos _
  exact .ok (h''.leave hpos)

theorem depth_of_renderBare_eq_ok (e : Expression) (r s : Renderer)
    (h : renderBare e r = .ok s) : s.depth = r.depth :=
  (Traced.keeps_bare e r).ok s ((Traced.outcome_bare e r).trans h)

theorem Tracks.renderKey (h : Tracks base used new) (key : String) :
    Tracks base (renderKey key used) (renderKey key new) := by
  rw [Renderer.renderKey, Renderer.renderKey, h.dialect]
  exact h.push _

theorem Tracks.renderValue (h : Tracks base used new) (v : Value) :
    Tracks base (renderValue v used) (renderValue v new) := by
  rw [renderValue_eq_push, renderValue_eq_push, h.dialect]
  exact h.push _

theorem Tracks.renderBare (h : Tracks base used new) (e : Expression) :
    Alike base (renderBare e used) (renderBare e new) := by
  induction e generalizing used new with
  | comparison c =>
      refine (h.checkOperator c.op .comparison).bind fun used' new' _ h' => ?_
      exact .ok (((h'.renderKey c.key).push c.op.symbol).renderValue c.value)
  | logical left op right ihl ihr =>
      refine (h.checkOperator op .logical).bind fun used' new' _ h' => ?_
      refine (h'.counted (fun _ _ h => ihl h) (depth_of_renderBare_eq_ok left)).bind
        fun used'' new'' _ h'' => ?_
      exact (h''.push op.symbol).counted (fun _ _ h => ihr h) (depth_of_renderBare_eq_ok right)
  | group inner ih =>
      have hopen : Tracks base (used.push used.dialect.openGroup) (new.push new.dialect.openGroup) := by
        rw [h.dialect]
        exact h.push _
      refine (hopen.counted (fun _ _ h => ih h) (depth_of_renderBare_eq_ok inner)).bind
        fun used' new' _ h' => ?_
      rw [h'.dialect]
      exact .ok (h'.push _)

theorem Tracks.render (h : Tracks base used new) (e : Expression) :
    Alike base (used.render e) (new.render e) :=
  h.counted (fun _ _ h => h.renderBare e) (depth_of_renderBare_eq_ok e)

theorem Tracks.node (h : Tracks base used new) (node : Node) :
    Alike base (node.render used) (node.render new) := by
  cases node with
  | expression e => exact h.render e
  | bare e => exact h.renderBare e
  | key k => exact .ok (h.renderKey k)
  | value v => exact .ok (h.renderValue v)

theorem depth_le_renderer_render (node : Node) (r : Renderer) :
    r.depth ≤ (node.render r).renderer.depth := by
  have hkeeps := node.keeps_traced r
  have houtcome := node.outcome_traced r
  cases h : node.render r with
  | ok s => exact Nat.le_of_eq (hkeeps.ok s (houtcome.trans h)).symm
  | error s => exact hkeeps.error s (houtcome.trans h)

theorem maxDepth_renderer_render (node : Node) (r : Renderer) :
    (node.render r).renderer.maxDepth = r.maxDepth :=
  ((tracks_start r r.log).node node).maxDepth_renderer

theorem depth_le_apply (use : Use) (r : Renderer) : r.depth ≤ (use.apply r).depth := by
  cases use with
  | render node => exact depth_le_renderer_render node r
  | edit change => exact Nat.le_refl r.depth
  | switch dialect => exact Nat.le_refl r.depth

theorem maxDepth_apply (use : Use) (r : Renderer) : (use.apply r).maxDepth = r.maxDepth := by
  cases use with
  | render node => exact maxDepth_renderer_render node r
  | edit change => rfl
  | switch dialect => rfl

theorem depth_le_after (uses : List Use) (r : Renderer) : r.depth ≤ (r.after uses).depth := by
  induction uses generalizing r with
  | nil => exact Nat.le_refl r.depth
  | cons use uses ih => exact Nat.le_trans (depth_le_apply use r) (ih (use.apply r))

theorem maxDepth_after (uses : List Use) (r : Renderer) :
    (r.after uses).maxDepth = r.maxDepth := by
  induction uses generalizing r with
  | nil => rfl
  | cons use uses ih => exact (ih (use.apply r)).trans (maxDepth_apply use r)

theorem render_of_maxDepth_le {r : Renderer} (h : r.maxDepth ≤ r.depth) (e : Expression) :
    ∃ s, r.render e = .error s ∧ s.error = .depthExceeded r.maxDepth ∧ s.renderer.text = r.text := by
  rw [Renderer.render, Renderer.counted, Renderer.enter, if_pos (Nat.lt_succ_of_le h)]
  exact ⟨_, rfl, rfl, rfl⟩

/-- What is left open to a renderer without room: pieces that are not counted. -/
structure Exhausted (limit : Nat) (r : Renderer) : Prop where
  expression : ∀ e, ∃ s, (Node.expression e).render r = .error s ∧
    s.error = .depthExceeded limit ∧ s.renderer.text = r.text
  key : ∀ k, ∃ s, (Node.key k).render r = .ok s
  value : ∀ v, ∃ s, (Node.value v).render r = .ok s
  comparison : ∀ c : Comparison, c.op.isComparison → ∃ s, (Node.bare (.comparison c)).render r = .ok s

theorem exhausted_of_maxDepth_le {r : Renderer} (h : r.maxDepth ≤ r.depth) :
    Exhausted r.maxDepth r where
  expression := render_of_maxDepth_le h
  key _ := ⟨_, rfl⟩
  value _ := ⟨_, rfl⟩
  comparison _ hop := ⟨_, renderComparison_eq_ok_iff.mpr ⟨hop, rfl⟩⟩

end Renderer

/-- A rendering on a renderer of any past goes as on a new one with the limit that is left: the same
outcome, the same text behind what stands there, as many levels more counted, and the same error but for
the limit it names. A success restores the count, a failure does not lower it, and no level is left that
was not entered by the rendering itself. Once no room is left, none ever is again. -/
theorem render_after (dialect : Dialect) (settings : ConverterSettings) (log log' : Log)
    (uses : List Use) (node : Node) :
    let r := (Renderer.start dialect settings log).after uses
    let new := Renderer.start r.dialect ⟨settings.maxDepth - r.depth⟩ log'
    r.maxDepth = settings.maxDepth ∧
    Renderer.Alike r (node.render r) (node.render new) ∧
    (∀ s, node.render r = .ok s → s.depth = r.depth) ∧
    r.depth ≤ (node.render r).renderer.depth ∧
    ((node.traced r).outcome = node.render r ∧
      ∀ level, Move.leave level ∈ (node.traced r).moves → r.depth < level) ∧
    (settings.maxDepth ≤ r.depth → ∀ later, (r.after later).Exhausted settings.maxDepth) := by
  intro r new
  have hlimit : r.maxDepth = settings.maxDepth := Renderer.maxDepth_after uses _
  have hnew : new = Renderer.start r.dialect ⟨r.maxDepth - r.depth⟩ log' := by rw [hlimit]
  have hkeeps := node.keeps_traced r
  have houtcome := node.outcome_traced r
  refine ⟨hlimit, ?_, ?_, Renderer.depth_le_renderer_render node r, ⟨houtcome, hkeeps.leave⟩, ?_⟩
  · rw [hnew]
    exact (Renderer.tracks_start r log').node node
  · intro s hs
    exact hkeeps.ok s (houtcome.trans hs)
  · intro hfull later
    have hlater : (r.after later).maxDepth = settings.maxDepth :=
      (Renderer.maxDepth_after later r).trans hlimit
    have hroom : (r.after later).maxDepth ≤ (r.after later).depth :=
      hlater.symm ▸ Nat.le_trans hfull (Renderer.depth_le_after later r)
    exact hlater ▸ Renderer.exhausted_of_maxDepth_le hroom

/-- A group beyond the limit of one leaves its bracket in the text and two levels counted, and the
renderer takes no expression any more. -/
theorem render_after_refused_group :
    let r := (Renderer.start .pgVector ⟨1⟩ ⟨LogFilter.silent, []⟩).after
      [.render (.expression (.group (.test "a" .eq true)))]
    r.depth = 2 ∧ r.text = "(" ∧ ∀ later, (r.after later).Exhausted 1 := by
  have hleft := render_after .pgVector ⟨1⟩ ⟨LogFilter.silent, []⟩ ⟨LogFilter.silent, []⟩
    [.render (.expression (.group (.test "a" .eq true)))] (.key "a")
  exact ⟨rfl, rfl, hleft.2.2.2.2.2 (by decide)⟩

end FilterClause
