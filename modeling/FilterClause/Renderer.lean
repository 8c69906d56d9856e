import FilterClause.Log
import FilterClause.Key
import FilterClause.Settings

/-!
Rendering. A renderer appends to its text and counts how deep it stands. Only expressions are counted:
a comparison, a pair of operands or a group rendered by itself does not count, the expressions inside
do.

A failure leaves the renderer as it was at that moment. The text written so far stays, and expressions
that were entered and not finished stay counted.
-/

namespace FilterClause

structure Renderer where
  dialect : Dialect
  maxDepth : Nat
  log : Log
  text : String := ""
  depth : Nat := 0

/-- A failure and the renderer it leaves behind. -/
structure Stopped where
  error : ConvertError
  renderer : Renderer

abbrev Rendering := Except Stopped Renderer

def Rendering.renderer : Rendering → Renderer
  | .ok r => r
  | .error s => s.renderer

namespace Renderer

def start (dialect : Dialect) (settings : ConverterSettings) (log : Log) : Renderer :=
  { dialect, maxDepth := settings.maxDepth, log }

def push (r : Renderer) (s : String) : Renderer :=
  { r with text := r.text ++ s }

def record (r : Renderer) (event : Event) : Renderer :=
  { r with log := r.log.record event }

/-- One level down. The level beyond the limit is refused and stays counted. -/
def enter (r : Renderer) : Rendering :=
  let r := { r with depth := r.depth + 1 }
  if r.maxDepth < r.depth then
    .error ⟨.depthExceeded r.maxDepth, r.record (.depthExceeded r.maxDepth r.dialect.name)⟩
  else .ok r

def leave (r : Renderer) : Renderer :=
  { r with depth := r.depth - 1 }

/-- Counts one level for the time of `body`, unless it fails. -/
def counted (body : Renderer → Rendering) (r : Renderer) : Rendering := do
  let r ← r.enter
  let r ← body r
  .ok r.leave

def checkOperator (op : Operator) (position : OperatorPosition) (r : Renderer) : Rendering :=
  if position.admits op then .ok r
  else .error ⟨.unsupportedOperator op position, r.record (.operatorRefused op position)⟩

def renderKey (key : String) (r : Renderer) : Renderer :=
  r.push (r.dialect.renderKey (Key.stripOuterQuotes key))

def renderItems : List Scalar → Renderer → Renderer
  | [], r => r
  | [s], r => r.push (r.dialect.renderScalar s)
  | s :: items, r => renderItems items ((r.push (r.dialect.renderScalar s)).push ",")

def renderValue : Value → Renderer → Renderer
  | .scalar s, r => r.push (r.dialect.renderScalar s)
  | .list items, r => (renderItems items (r.push r.dialect.openRange)).push r.dialect.closeRange

def renderComparison (c : Comparison) (r : Renderer) : Rendering := do
  let r ← r.checkOperator c.op .comparison
  .ok (renderValue c.value ((renderKey c.key r).push c.op.symbol))

/-- Renders a node without counting it. -/
def renderBare : Expression → Renderer → Rendering
  | .comparison c, r => renderComparison c r
  | .logical left op right, r => do
    let r ← r.checkOperator op .logical
    let r ← counted (renderBare left) r
    counted (renderBare right) (r.push op.symbol)
  | .group inner, r => do
    let r ← counted (renderBare inner) (r.push r.dialect.openGroup)
    .ok (r.push r.dialect.closeGroup)

def render (e : Expression) : Renderer → Rendering :=
  counted (renderBare e)

end Renderer

/-- A conversion that goes on with a log. -/
def convertLogged (e : Expression) (dialect : Dialect) (settings : ConverterSettings) (log : Log) :
    Except ConvertError String × Log :=
  let log := log.record (.started dialect.name settings.maxDepth)
  match (Renderer.start dialect settings log).render e with
  | .ok r => (.ok r.text, r.log.record (.rendered r.text))
  | .error s => (.error s.error, s.renderer.log)

def convertWith (e : Expression) (dialect : Dialect) (settings : ConverterSettings) :
    Except ConvertError String :=
  (convertLogged e dialect settings { filter := LogFilter.silent }).1

def convert (e : Expression) (dialect : Dialect) : Except ConvertError String :=
  convertWith e dialect {}

end FilterClause
