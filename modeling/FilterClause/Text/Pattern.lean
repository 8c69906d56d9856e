import FilterClause.Text.Alphanumeric
import FilterClause.Text.Pattern.CharClass

/-!
Search patterns: which texts are well formed as one. A pattern has literals, escapes, classes in
brackets, groups, alternatives and repetitions, nested up to a limit. There are no counted repetitions
and no properties by name.
-/

namespace FilterClause.Text.Pattern

/-- A group whose closing parenthesis has not been met, or the whole pattern: its mode, the greatest
height of its earlier alternatives, if there are any, and of the last one the number of pieces, the
greatest height of all but the last piece, and the height of that. -/
structure OpenGroup where
  mode : Mode := {}
  earlier : Option Nat := none
  pieces : Nat := 0
  tallest : Nat := 0
  last : Nat := 0
  /-- Whether a repetition may follow. -/
  repeatable : Bool := false

namespace OpenGroup

def add (g : OpenGroup) (height : Nat) : OpenGroup :=
  { g with pieces := g.pieces + 1, tallest := max g.tallest g.last, last := height, repeatable := true }

/-- Flags are a piece that cannot be repeated. -/
def addFlags (g : OpenGroup) (mode : Mode) : OpenGroup :=
  { g.add 0 with mode, repeatable := false }

def repeated (g : OpenGroup) : OpenGroup :=
  { g with last := g.last + 1 }

/-- The height of the last alternative. Two or more pieces are nested in their sequence. -/
def sequenceHeight (g : OpenGroup) : Nat :=
  if 1 < g.pieces then max g.tallest g.last + 1 else g.last

def height (g : OpenGroup) : Nat :=
  match g.earlier with
  | none => g.sequenceHeight
  | some earlier => max earlier g.sequenceHeight + 1

def alternative (g : OpenGroup) : OpenGroup :=
  { mode := g.mode, earlier := some (max (g.earlier.getD 0) g.sequenceHeight) }

end OpenGroup

/-- How far a pattern has been read: the group here, the open groups around, and the names given. -/
structure Progress where
  group : OpenGroup := {}
  outer : List OpenGroup := []
  names : List (List Char) := []

namespace Progress

def mode (p : Progress) : Mode :=
  p.group.mode

def add (p : Progress) (height : Nat) : Progress :=
  { p with group := p.group.add height }

def enter (p : Progress) (inside : Mode) : Progress :=
  { p with group := { mode := inside }, outer := p.group :: p.outer }

end Progress

def isGroupName : List Char → Bool
  | c :: cs =>
    (c = '_' || isAlphabetic c) && cs.all fun c => c ∈ ['_', '.', '[', ']'] || isAlphanumeric c
  | [] => false

/-- A group behind the sign that opens its name. Two groups have different names. -/
def namedGroup (p : Progress) (cs : List Char) : Option (Progress × List Char) :=
  let name := cs.takeWhile (· ≠ '>')
  match cs.dropWhile (· ≠ '>') with
  | [] => none
  | _ :: rest =>
    if isGroupName name && name ∉ p.names then
      some ({ p.enter p.mode with names := name :: p.names }, rest)
    else none

/-- Known flags, each at most once, and none missing behind a dash. -/
def areFlags (flags : List Char) : Bool :=
  flags.all (fun c => c ∈ ['i', 'm', 's', 'U', 'u', 'R', 'x', '-'])
    && flags.eraseDups.length = flags.length && flags.getLast? ≠ some '-'

/-- Flags, for a group of their own or for what is left of the one around. -/
def flaggedGroup (p : Progress) (cs : List Char) : Option (Progress × List Char) :=
  let flags := cs.takeWhile fun c => c ≠ ':' && c ≠ ')'
  if areFlags flags then
    match cs.dropWhile fun c => c ≠ ':' && c ≠ ')' with
    | ':' :: rest => some (p.enter (p.mode.set flags), rest)
    | ')' :: rest =>
      if flags = [] then none
      else some ({ p with group := p.group.addFlags (p.mode.set flags) }, rest)
    | _ => none
  else none

def enterGroup (p : Progress) (cs : List Char) : Option (Progress × List Char) :=
  match p.mode.skip cs with
  | '?' :: 'P' :: '<' :: rest => namedGroup p rest
  | '?' :: '<' :: rest => namedGroup p rest
  | '?' :: rest => flaggedGroup p rest
  | rest => some (p.enter p.mode, rest)

/-- Past the mark behind a repetition that makes it as short as can be. -/
def lazyMark (cs : List Char) : List Char :=
  match cs with
  | '?' :: rest => rest
  | rest => rest

def step (p : Progress) : List Char → Option (Progress × List Char)
  | '(' :: rest => enterGroup p rest
  | ')' :: rest =>
    match p.outer with
    | [] => none
    | around :: outer => some ({ p with group := around.add (p.group.height + 1), outer }, rest)
  | '[' :: rest => (charClass p.mode rest).map fun (height, rest) => (p.add height, rest)
  | '\\' :: rest =>
    match escape p.mode rest with
    | some (.literal code byte, rest) =>
      if p.mode.foldsWide || (byte && !p.mode.allows code) then none else some (p.add 0, rest)
    | some (_, rest) => some (p.add 0, rest)
    | none => none
  | '|' :: rest => some ({ p with group := p.group.alternative }, rest)
  | '.' :: rest => if p.mode.wide then some (p.add 0, rest) else none
  | '^' :: rest => some (p.add 0, rest)
  | '$' :: rest => some (p.add 0, rest)
  | '\x7b' :: _ => none
  | c :: rest =>
    if c ∈ ['?', '*', '+'] then
      if p.group.repeatable then some ({ p with group := p.group.repeated }, lazyMark rest) else none
    else if p.mode.foldsWide then none
    else some (p.add 0, rest)
  | [] => none

/-- The greatest height that a pattern may have. -/
def heightLimit : Nat := 250

/-- Reads a pattern to its end, where no group may be open. -/
def run : List Char → Progress → List Char → Bool
  | [], _, _ => false
  | _ :: ticks, p, cs =>
    match p.mode.skip cs with
    | [] => p.outer.isEmpty && p.group.height ≤ heightLimit
    | cs =>
      match step p cs with
      | some (p, rest) => run ticks p rest
      | none => false

def isWellFormed (cs : List Char) : Bool :=
  run (clock cs) {} cs

end FilterClause.Text.Pattern
