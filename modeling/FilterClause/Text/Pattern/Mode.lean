import FilterClause.Text.Blank
import FilterClause.Text.Hexadecimal

/-!
Flags and escapes of a search pattern. The kinds of characters (digits, words, blanks), the edges of
words and a search in either letter case are there for plain letters only, so a pattern has to turn off
the wide character set before it uses them.
-/

namespace FilterClause.Text.Pattern

/-- Past blanks, and past comments from a hash sign to the end of the line. -/
def skipComments (inComment : Bool) : List Char → List Char
  | [] => []
  | c :: rest =>
    if inComment then skipComments (c ≠ '\n') rest
    else if c = '#' then skipComments true rest
    else if isBlank c then skipComments false rest
    else c :: rest

/-- What the flags of a pattern say about its further text. In a spaced pattern blanks and comments may
stand between its pieces. -/
structure Mode where
  caseless : Bool := false
  wide : Bool := true
  spaced : Bool := false
  deriving DecidableEq, Repr

namespace Mode

/-- Whether a literal would need the letter case of a wide character. -/
def foldsWide (m : Mode) : Bool :=
  m.caseless && m.wide

def allows (m : Mode) (code : Nat) : Bool :=
  m.wide || code < 0x80

def skip (m : Mode) (cs : List Char) : List Char :=
  if m.spaced then skipComments false cs else cs

/-- The next character that counts, as far as can be told without reading on: of a comment only the hash
sign is passed over, so that its first character shows. -/
def peek (m : Mode) (cs : List Char) : Option Char :=
  if m.spaced then
    match cs.dropWhile isBlank with
    | '#' :: rest => (rest.dropWhile isBlank).head?
    | rest => rest.head?
  else cs.head?

/-- Flags before the dash are turned on and those behind it off. -/
def set (m : Mode) (flags : List Char) : Mode :=
  let on := flags.takeWhile (· ≠ '-')
  let off := flags.dropWhile (· ≠ '-')
  { caseless := (m.caseless || 'i' ∈ on) && 'i' ∉ off
    wide := (m.wide || 'u' ∈ on) && 'u' ∉ off
    spaced := (m.spaced || 'x' ∈ on) && 'x' ∉ off }

end Mode

/-- What an escape stands for. A literal by its two-digit code counts as a byte outside of the wide
character set. -/
inductive Escape
  | literal (code : Nat) (byte : Bool)
  | kind
  | edge

/-- The number that so many digits spell, on top of those before, and the text behind them. -/
def code? (m : Mode) : Nat → Nat → List Char → Option (Nat × List Char)
  | 0, code, cs => some (code, cs)
  | digits + 1, code, cs =>
    match m.skip cs with
    | [] => none
    | c :: rest => do
      let value ← hexValue? c
      code? m digits (16 * code + value) rest

def codeEscape (m : Mode) (digits : Nat) (byte : Bool) (cs : List Char) :
    Option (Escape × List Char) := do
  let (code, rest) ← code? m digits 0 cs
  if code < 0xD800 || (0xDFFF < code && code < 0x110000) then some (.literal code byte, rest) else none

def escape (m : Mode) : List Char → Option (Escape × List Char)
  | 'x' :: rest => codeEscape m 2 true rest
  | 'u' :: rest => codeEscape m 4 false rest
  | 'U' :: rest => codeEscape m 8 false rest
  | 'a' :: rest => some (.literal 0x07 false, rest)
  | 't' :: rest => some (.literal 0x09 false, rest)
  | 'n' :: rest => some (.literal 0x0A false, rest)
  | 'v' :: rest => some (.literal 0x0B false, rest)
  | 'f' :: rest => some (.literal 0x0C false, rest)
  | 'r' :: rest => some (.literal 0x0D false, rest)
  | 'A' :: rest => some (.edge, rest)
  | 'z' :: rest => some (.edge, rest)
  | c :: rest =>
    if c ∈ ['d', 's', 'w'] then if m.wide then none else some (.kind, rest)
    else if c ∈ ['b', 'B', '<', '>'] then if m.wide then none else some (.edge, rest)
    else if c.toNat < 0x80 && !c.isAlphanum then some (.literal c.toNat false, rest)
    else none
  | [] => none

end FilterClause.Text.Pattern
