import FilterClause.Diagnostic
import FilterClause.Log.Filter
import FilterClause.Text.Terminal

/-!
The log of a run: events in the order they occur, each with a level of its own, and their lines. A log
has its filter from the start and does not take in what the filter leaves out.
-/

namespace FilterClause

inductive Event
  | loadingSettings (path : String)
  | converting (dialect : String)
  | parsed (e : Expression)
  | started (dialect : String) (maxDepth : Nat)
  | depthExceeded (limit : Nat) (dialect : String)
  | operatorRefused (op : Operator) (position : OperatorPosition)
  | rendered (clause : String)

namespace Event

def level : Event → Level
  | loadingSettings _ | converting _ => .info
  | parsed _ | started .. => .debug
  | depthExceeded .. | operatorRefused .. => .warn
  | rendered _ => .trace

def target : Event → String
  | loadingSettings _ => "filterc::settings"
  | converting _ | parsed _ => "filterc"
  | started .. | depthExceeded .. | rendered _ => "filter_converter::renderer"
  | operatorRefused .. => "filter_converter::renderer::expr"

def message : Event → String
  | loadingSettings path => "Loading settings from " ++ path
  | converting dialect => "Converting filter expression for " ++ dialect
  | parsed _ => "parsed filter expression"
  | started .. => "converting filter expression"
  | depthExceeded .. => "filter expression exceeds the maximum nesting depth"
  | operatorRefused .. => "unsupported operator in filter expression"
  | rendered _ => "rendered filter expression"

def fields : Event → List (String × String)
  | loadingSettings _ | converting _ => []
  | parsed e => [("expression", e.diagnostic)]
  | started dialect maxDepth => [("dialect", dialect), ("max_depth", toString maxDepth)]
  | depthExceeded limit dialect => [("limit", toString limit), ("dialect", dialect)]
  | operatorRefused op position => [("operator", op.name), ("position", position.text)]
  | rendered clause => [("clause", clause)]

def fieldText (field : String × String) : String :=
  " " ++ field.1 ++ "=" ++ field.2

/-- Only the message is made safe for a terminal; fields are written as they are. -/
def text (event : Event) : String :=
  Text.terminalSafe event.message ++ String.join (event.fields.map fieldText)

def line (event : Event) : String :=
  event.level.name ++ " " ++ event.target ++ ": " ++ event.text

theorem fieldText_infix_line {event : Event} {field : String × String} (h : field ∈ event.fields) :
    (fieldText field).toList <:+: event.line.toList := by
  have hjoin : (fieldText field).toList <:+: (String.join (event.fields.map fieldText)).toList := by
    rw [String.toList_join, List.flatMap_map]
    exact List.infix_of_mem_flatten (List.mem_map_of_mem h)
  rw [line, text, ← String.append_assoc, String.toList_append]
  exact hjoin.trans (List.suffix_append _ _).isInfix

/-- The message counts as a field. -/
def fieldNames (event : Event) : List String :=
  "message" :: event.fields.map Prod.fst

def admittedBy (event : Event) (f : LogFilter) : Bool :=
  (f.threshold event.target event.fieldNames).admits event.level

end Event

structure Log where
  filter : LogFilter
  events : List Event := []

namespace Log

def record (log : Log) (event : Event) : Log :=
  if event.admittedBy log.filter then { log with events := log.events ++ [event] } else log

def lines (log : Log) : List String :=
  log.events.map Event.line

end Log

end FilterClause
