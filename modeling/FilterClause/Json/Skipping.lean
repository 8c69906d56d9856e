import FilterClause.Json.Reader

/-!
Passing over a value that nobody wants. Only its form is checked: numbers may be of any size, strings
may hold lone surrogates, and brackets may nest without limit. The open brackets are kept on a stack,
and the faults are fewer and coarser than those of a value that is read.
-/

namespace FilterClause.Json

/-- What a value that is passed over turns out to be: complete, or the start of a body. -/
inductive Skipped
  | atom
  | opened (b : Bracket)

def skipAtom : List Char → Except Failure (Skipped × List Char)
  | [] => .error (.atNext .endOfValue [])
  | 'n' :: rest => do .ok (.atom, ← readKeyword ['u', 'l', 'l'] rest)
  | 't' :: rest => do .ok (.atom, ← readKeyword ['r', 'u', 'e'] rest)
  | 'f' :: rest => do .ok (.atom, ← readKeyword ['a', 'l', 's', 'e'] rest)
  | '"' :: rest => do .ok (.atom, ← skipString rest)
  | '[' :: rest => .ok (.opened .array, rest)
  | '\x7b' :: rest => .ok (.opened .object, rest)
  | c :: rest =>
    if c = '-' || c.isDigit then do
      let (_, rest) ← readLiteral .invalidNumber (c :: rest)
      .ok (.atom, rest)
    else .error (.atNext .expectedValue (c :: rest))

/-- Closes brackets as long as they close, innermost first, and says whether a value has to follow:
the brackets still open then, and the text behind the comma or the opening bracket. -/
def closeSkipped (fresh : Bool) : List Bracket → Reader (List Bracket)
  | [], rest => .ok ([], rest)
  | b :: outer, rest =>
    match skipBlanks rest with
    | [] => .error (.atNext b.endFault [])
    | c :: rest =>
      if c = b.closing then closeSkipped false outer rest
      else if fresh then .ok (b :: outer, c :: rest)
      else if c = ',' then .ok (b :: outer, rest)
      else
        match b with
        | .array => .error (.atNext .expectedListEnd (c :: rest))
        | .object => .error (.atNext .expectedObjectEnd (c :: rest))

/-- The name and colon before the next value, if it is a member's. -/
def skipName (b : Bracket) (rest : List Char) : Except Failure (List Char) :=
  match b with
  | .array => .ok rest
  | .object =>
    match skipBlanks rest with
    | [] => .error (.atNext .endOfObject [])
    | '"' :: rest => do
      let rest ← skipString rest
      readColon rest
    | rest => .error (.atNext .keyNotString rest)

/-- Passes over values until no bracket is open, a tick each. -/
def skipValues : List Char → List Bracket → List Char → Except Failure (List Char)
  | [], _, rest => .error (.atNext .endOfValue rest)
  | _ :: ticks, opened, rest => do
    let (skipped, rest) ← skipAtom (skipBlanks rest)
    let (opened, rest) ← match skipped with
      | .atom => closeSkipped false opened rest
      | .opened b => closeSkipped true (b :: opened) rest
    match opened with
    | [] => .ok rest
    | b :: _ =>
      let rest ← skipName b rest
      skipValues ticks opened rest

def skipValue (rest : List Char) : Except Failure (List Char) :=
  skipValues (Text.clock rest) [] rest

end FilterClause.Json
