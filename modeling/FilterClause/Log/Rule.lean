import FilterClause.Decimal.Numeral
import FilterClause.Log.Level
import FilterClause.Text.Blank
import FilterClause.Text.Pattern

/-!
Rules of a log filter. A rule gives a threshold to all of the program or to the parts whose names begin
in one way, and may be narrowed to events with a field of some name.

A rule is written as a level alone, or as the name of a part, what it is narrowed to in brackets, and
after an equals sign its level; each of these may be left out.
-/

namespace FilterClause

/-- What a rule is narrowed to. Stretches of a run that bear a name, or a value in some field, are a
scope too, but a run is not divided into any. -/
inductive LogScope
  | every
  | withField (name : String)
  | stretch
  deriving DecidableEq, Repr

namespace LogScope

def holds (s : LogScope) (fields : List String) : Bool :=
  match s with
  | every => true
  | withField name => name ∈ fields
  | stretch => false

/-- A field is narrower than none, and of two fields the later in the order of their names counts as
narrower. -/
def atMost : LogScope → LogScope → Bool
  | every, _ => true
  | withField a, withField b => !(b < a)
  | _, _ => false

/-- What is written in braces: the name of a field, or a field and the form of its value, which is a
number or else a search pattern. -/
def ofField? (field : List Char) : Option LogScope :=
  match field.dropWhile (· ≠ '=') with
  | [] => if field = [] then none else some (withField (String.ofList field))
  | _ :: rest =>
    let value := rest.takeWhile (· ≠ '=')
    if Decimal.isNumeral (String.ofList value) || Text.Pattern.isWellFormed value then some stretch
    else none

/-- A scope behind its opening bracket and the text behind it. The field is cut out `early` places before
where it stands; `before` is the text up to the bracket. -/
def ofBracket? (before : List Char) (early : Nat) (inside : List Char) :
    Option (LogScope × List Char) :=
  let name := inside.takeWhile fun c => c ≠ ']' && c ≠ '\x7b'
  match inside.dropWhile fun c => c ≠ ']' && c ≠ '\x7b' with
  | ']' :: rest => some (stretch, rest)
  | '\x7b' :: rest =>
    match rest.dropWhile (· ≠ '\x7d') with
    | '\x7d' :: ']' :: after =>
      let field := rest.takeWhile (· ≠ '\x7d')
      let lead := before ++ '[' :: name ++ ['\x7b']
      (ofField? ((lead.drop (lead.length - early) ++ field).take field.length)).map fun scope =>
        (if name = [] then scope else stretch, after)
    | _ => none
  | _ => none

end LogScope

structure LogRule where
  part : Option String
  scope : LogScope
  threshold : Threshold
  deriving DecidableEq, Repr

namespace LogRule

def governs (r : LogRule) (target : String) (fields : List String) : Bool :=
  r.scope.holds fields &&
    match r.part with
    | some part => part.toList.isPrefixOf target.toList
    | none => true

def precision (r : LogRule) : Nat :=
  match r.part with
  | some part => part.length + 1
  | none => 0

/-- Whether the second rule comes before the first: it names its part at more length, or at the same
length and is not the less narrow. -/
def yieldsTo (b r : LogRule) : Bool :=
  b.precision < r.precision || (b.precision = r.precision && b.scope.atMost r.scope)

def preferred (best : Option LogRule) (r : LogRule) : Option LogRule :=
  match best with
  | some b => if b.yieldsTo r then some r else some b
  | none => some r

/-- Whether a rule may start like this: with a letter or digit of any script, or one of four signs. -/
def beginsRule (cs : List Char) : Bool :=
  match cs with
  | c :: _ => Text.isAlphanumeric c || c ∈ ['-', ':', '_', '[']
  | [] => false

/-- A rule without an equals sign is a level for every part, or else a part that is taken in whole.
Blanks before it are passed over only in looking at how it starts; they stay in the name of the part. -/
def ofName? (text : String) : Option LogRule :=
  if beginsRule (Text.trimStart text.toList) then
    match Threshold.ofName? text with
    | some t => some ⟨none, .every, t⟩
    | none => some ⟨some text, .every, some .trace⟩
  else none

/-- The threshold behind an equals sign, the fullest if nothing is there. -/
def level? (level : List Char) : Option Threshold :=
  match level with
  | [] => some (some .trace)
  | level => Threshold.ofName? (String.ofList level)

def ofPart? (part level : List Char) : Option LogRule :=
  if beginsRule part then
    (level? level).map fun t => ⟨some (String.ofList part), .every, t⟩
  else none

/-- A rule with a bracket, from the part before it and the text inside and behind. Places in a rule are
counted from its first character that is no blank, but cut from the text with its blanks: behind blanks
a level is never found, and a field is cut out too early to be one that an event has. -/
def ofBracket? (part inside : List Char) : Option LogRule := do
  let blanks := part.takeWhile Text.isBlank
  if beginsRule (part.drop blanks.length ++ ['[']) then
    let (scope, rest) ← LogScope.ofBracket? part (String.ofList blanks).utf8ByteSize inside
    let name := if part = [] then none else some (String.ofList part)
    match rest with
    | '=' :: level => if blanks = [] then (level? level).map fun t => ⟨name, scope, t⟩ else none
    | rest => if Text.trimStart rest = [] then some ⟨name, scope, some .trace⟩ else none
  else none

def ofText? (text : String) : Option LogRule :=
  let part := text.toList.takeWhile fun c => c ≠ '=' && c ≠ '['
  match text.toList.dropWhile fun c => c ≠ '=' && c ≠ '[' with
  | '=' :: level => ofPart? part level
  | '[' :: inside => ofBracket? part inside
  | _ => ofName? text

end LogRule

end FilterClause
