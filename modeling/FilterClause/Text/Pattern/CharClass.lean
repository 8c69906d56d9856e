import FilterClause.Text.Clock
import FilterClause.Text.Pattern.Mode

/-!
Character classes of a search pattern: items and ranges in brackets, classes inside of classes, and
operators between them. Without the wide character set a class must stay within the plain characters,
so that neither it nor a named kind inside of it can be negated. Of a class that is well formed the
height is told, which is how deep it is nested.
-/

namespace FilterClause.Text.Pattern

def classItem (m : Mode) : List Char → Option (Option Nat × List Char)
  | '\\' :: rest =>
    match escape m rest with
    | some (.literal code _, rest) => if m.allows code then some (some code, rest) else none
    | some (.kind, rest) => some (none, rest)
    | _ => none
  | c :: rest => if m.allows c.toNat then some (some c.toNat, rest) else none
  | [] => none

/-- An item or a range of a class. A dash before another dash or before the end of the class makes no
range; the ends of a range are single characters in their order. -/
def classRange (m : Mode) (cs : List Char) : Option (List Char) := do
  let (low, rest) ← if m.foldsWide then none else classItem m cs
  match m.skip rest with
  | '-' :: more =>
    if m.peek more = some ']' || m.peek more = some '-' then some ('-' :: more)
    else
      match low, ← classItem m (m.skip more) with
      | some low, (some high, rest) => if low ≤ high then some rest else none
      | _, _ => none
  | rest => some rest

/-- A class whose closing bracket has not been met: what stands before its last operator, if there is
one, and the number and the greatest height of the items behind. -/
structure OpenClass where
  left : Option Nat := none
  items : Nat := 0
  tallest : Nat := 0

namespace OpenClass

def add (o : OpenClass) (height : Nat) : OpenClass :=
  { o with items := o.items + 1, tallest := max o.tallest height }

/-- The height of what has been read. Two or more items are a union, and an operator nests its sides. -/
def height (o : OpenClass) : Nat :=
  let right := if 1 < o.items then o.tallest + 1 else o.tallest
  match o.left with
  | none => right
  | some left => max left right + 1

/-- Goes on behind an operator. Operators nest to the left. -/
def operate (o : OpenClass) : OpenClass :=
  { left := some o.height }

end OpenClass

/-- Takes in the dashes that stand for themselves. -/
def leadingDashes (m : Mode) : List Char → OpenClass → List Char → OpenClass × List Char
  | _ :: ticks, o, '-' :: rest => leadingDashes m ticks (o.add 0) (m.skip rest)
  | _, o, cs => (o, cs)

/-- What stands for itself before the other items: a closing bracket, or dashes. -/
def leadingItems (m : Mode) (cs : List Char) : Option (OpenClass × List Char) :=
  let (o, rest) := match m.skip cs with
    | ']' :: rest => (({} : OpenClass).add 0, rest)
    | rest => leadingDashes m rest {} rest
  if m.foldsWide && o.items ≠ 0 then none else some (o, rest)

def openClass (m : Mode) (cs : List Char) : Option (OpenClass × List Char) :=
  match m.skip cs with
  | '^' :: rest => if m.wide then leadingItems m rest else none
  | rest => leadingItems m rest

def kindNames : List String :=
  ["alnum", "alpha", "ascii", "blank", "cntrl", "digit", "graph", "lower", "print", "punct", "space",
    "upper", "word", "xdigit"]

/-- The name of a kind between colons, behind the bracket that opens it, and whether it is negated. What
only looks like one is a class. -/
def namedKind? (cs : List Char) : Option (Bool × List Char) :=
  match cs with
  | ':' :: rest =>
    let negated := rest.head? = some '^'
    let name := if negated then rest.drop 1 else rest
    match name.dropWhile (· ≠ ':') with
    | ':' :: ']' :: after =>
      if String.ofList (name.takeWhile (· ≠ ':')) ∈ kindNames then some (negated, after) else none
    | _ => none
  | _ => none

/-- The items of a class and of the classes inside of it, up to its closing bracket; `outer` are the
classes around the one that is read. Gives the height of the whole. -/
def classBody (m : Mode) : List Char → OpenClass → List OpenClass → List Char →
    Option (Nat × List Char)
  | [], _, _, _ => none
  | _ :: ticks, o, outer, cs =>
    match m.skip cs with
    | [] => none
    | '[' :: rest =>
      match namedKind? rest with
      | some (negated, rest) =>
        if m.foldsWide || (negated && !m.wide) then none else classBody m ticks (o.add 0) outer rest
      | none => do
        let (inner, rest) ← openClass m rest
        classBody m ticks inner (o :: outer) rest
    | ']' :: rest =>
      match outer with
      | [] => some (o.height + 1, rest)
      | around :: outer => classBody m ticks (around.add (o.height + 1)) outer rest
    | '&' :: '&' :: rest => classBody m ticks o.operate outer rest
    | '-' :: '-' :: rest => classBody m ticks o.operate outer rest
    | '~' :: '~' :: rest => classBody m ticks o.operate outer rest
    | cs => do
      let rest ← classRange m cs
      classBody m ticks (o.add 0) outer rest

def charClass (m : Mode) (cs : List Char) : Option (Nat × List Char) := do
  let (o, rest) ← openClass m cs
  classBody m (clock rest) o [] rest

end FilterClause.Text.Pattern
