import FilterClause.Json.Failure

/-!
What stands between the values of a text: blanks, colons, commas and brackets.

Inside an array or object, a step first says whether another item follows. The closing bracket is left
for whoever opened it, because a failed body is closed too as far as the text allows.
-/

namespace FilterClause.Json

/-- The four blanks of JSON; no other blank character counts. -/
def isBlank (c : Char) : Bool :=
  c = ' ' || c = '\n' || c = '\t' || c = '\r'

def skipBlanks (rest : List Char) : List Char :=
  rest.dropWhile isBlank

def readColon (rest : List Char) : Except Failure (List Char) :=
  match skipBlanks rest with
  | [] => .error (.atNext .endOfObject [])
  | ':' :: rest => .ok rest
  | rest => .error (.atNext .expectedColon rest)

/-- Whether an element follows, after a comma unless it is the first. -/
def nextElement (first : Bool) (rest : List Char) : Reading Bool :=
  match skipBlanks rest with
  | [] => .error (.atNext .endOfList [])
  | ']' :: rest => .ok (false, ']' :: rest)
  | c :: rest =>
    if first then .ok (true, c :: rest)
    else if c = ',' then
      match skipBlanks rest with
      | [] => .error (.atNext .endOfValue [])
      | ']' :: rest => .error (.atNext .trailingComma (']' :: rest))
      | rest => .ok (true, rest)
    else .error (.atNext .expectedListEnd (c :: rest))

/-- Whether a member follows; if so, the rest stands behind the quote that opens its name. -/
def nextMember (first : Bool) (rest : List Char) : Reading Bool :=
  match skipBlanks rest with
  | [] => .error (.atNext .endOfObject [])
  | '\x7d' :: rest => .ok (false, '\x7d' :: rest)
  | c :: rest =>
    if first then
      if c = '"' then .ok (true, rest) else .error (.atNext .keyNotString (c :: rest))
    else if c = ',' then
      match skipBlanks rest with
      | [] => .error (.atNext .endOfValue [])
      | '"' :: rest => .ok (true, rest)
      | '\x7d' :: rest => .error (.atNext .trailingComma ('\x7d' :: rest))
      | rest => .error (.atNext .keyNotString rest)
    else .error (.atNext .expectedObjectEnd (c :: rest))

inductive Bracket
  | array
  | object
  deriving DecidableEq, Repr

namespace Bracket

def closing : Bracket → Char
  | array => ']'
  | object => '\x7d'

def endFault : Bracket → Fault
  | array => .endOfList
  | object => .endOfObject

def close (b : Bracket) (rest : List Char) : Except Failure (List Char) :=
  match skipBlanks rest with
  | [] => .error (.atNext b.endFault [])
  | c :: rest =>
    if c = b.closing then .ok rest
    else if c = ',' then
      match b with
      | array =>
        match skipBlanks rest with
        | ']' :: rest => .error (.atNext .trailingComma (']' :: rest))
        | rest => .error (.atNext .trailingCharacters rest)
      | object => .error (.atNext .trailingComma (c :: rest))
    else .error (.atNext .trailingCharacters (c :: rest))

/-- Where reading stands once a failed body has been closed as far as the text allows: behind the
bracket if it comes next, and in an array behind a comma. -/
def afterFailure (b : Bracket) (rest : List Char) : List Char :=
  match skipBlanks rest with
  | [] => []
  | c :: rest =>
    if c = b.closing then rest
    else if c = ',' && b = array then skipBlanks rest
    else c :: rest

/-- A body up to and with its closing bracket. A failure without a place is placed behind the body. -/
def enclose {α : Type} (b : Bracket) (body : Reader α) (rest : List Char) : Reading α :=
  match body rest with
  | .ok (a, rest) =>
    match b.close rest with
    | .ok rest => .ok (a, rest)
    | .error f => .error f
  | .error f => .error (f.place (b.afterFailure f.rest))

end Bracket

end FilterClause.Json
