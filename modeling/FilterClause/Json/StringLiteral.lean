import FilterClause.Json.Failure
import FilterClause.Text.Hexadecimal

/-!
String literals after their opening quote. Codes above the basic plane are written as two units, which
have to come together. A literal whose text is not wanted is only checked character by character, so
that a lone unit passes there.
-/

namespace FilterClause.Json

def unit? (a b c d : Char) : Option Nat := do
  let a ← Text.hexValue? a
  let b ← Text.hexValue? b
  let c ← Text.hexValue? c
  let d ← Text.hexValue? d
  some (((a * 16 + b) * 16 + c) * 16 + d)

def isHighSurrogate (n : Nat) : Bool :=
  0xD800 ≤ n && n < 0xDC00

def isLowSurrogate (n : Nat) : Bool :=
  0xDC00 ≤ n && n < 0xE000

def pairedCode (high low : Nat) : Nat :=
  (high - 0xD800) * 0x400 + (low - 0xDC00) + 0x10000

def badUnit (rest : List Char) : Failure :=
  if (bytesOf rest).length < 4 then .here .endOfString []
  else ⟨.invalidEscape, rest, 4, true⟩

/-- The character that a backslash and this letter stand for. -/
def shortEscape? : Char → Option Char
  | '"' => some '"'
  | '\\' => some '\\'
  | '/' => some '/'
  | 'b' => some '\x08'
  | 'f' => some '\x0c'
  | 'n' => some '\n'
  | 'r' => some '\r'
  | 't' => some '\t'
  | _ => none

def andThen (c : Char) (reading : Reading (List Char)) : Reading (List Char) :=
  match reading with
  | .ok (cs, rest) => .ok (c :: cs, rest)
  | .error f => .error f

/-- The failure where the second unit of a pair should stand. -/
def noSecondUnit : List Char → Failure
  | [] => .here .endOfString []
  | '\\' :: [] => .here .endOfString []
  | '\\' :: 'u' :: rest => badUnit rest
  | '\\' :: rest => .atNext .unfinishedSurrogate rest
  | rest => .atNext .unfinishedSurrogate rest

def readString : List Char → Reading (List Char)
  | [] => .error (.here .endOfString [])
  | '"' :: rest => .ok ([], rest)
  | '\\' :: [] => .error (.here .endOfString [])
  | '\\' :: 'u' :: a :: b :: c :: d :: rest =>
    match unit? a b c d with
    | none => .error (badUnit (a :: b :: c :: d :: rest))
    | some n =>
      if isLowSurrogate n then .error (.here .loneSurrogate rest)
      else if isHighSurrogate n then
        match rest with
        | '\\' :: 'u' :: a :: b :: c :: d :: rest =>
          match unit? a b c d with
          | none => .error (badUnit (a :: b :: c :: d :: rest))
          | some m =>
            if isLowSurrogate m then andThen (Char.ofNat (pairedCode n m)) (readString rest)
            else .error (.here .loneSurrogate rest)
        | rest => .error (noSecondUnit rest)
      else andThen (Char.ofNat n) (readString rest)
  | '\\' :: 'u' :: rest => .error (badUnit rest)
  | '\\' :: e :: rest =>
    match shortEscape? e with
    | some c => andThen c (readString rest)
    | none => .error (.atNext .invalidEscape (e :: rest))
  | c :: rest =>
    if c.toNat < 0x20 then .error (.atNext .controlCharacter (c :: rest))
    else andThen c (readString rest)

/-- A string literal of which only the end is wanted. -/
def skipString : List Char → Except Failure (List Char)
  | [] => .error (.here .endOfString [])
  | '"' :: rest => .ok rest
  | '\\' :: [] => .error (.here .endOfString [])
  | '\\' :: 'u' :: a :: b :: c :: d :: rest =>
    if (unit? a b c d).isSome then skipString rest
    else .error (badUnit (a :: b :: c :: d :: rest))
  | '\\' :: 'u' :: rest => .error (badUnit rest)
  | '\\' :: e :: rest =>
    if (shortEscape? e).isSome then skipString rest
    else .error (.atNext .invalidEscape (e :: rest))
  | c :: rest =>
    if c.toNat < 0x20 then .error (.here .controlCharacter (c :: rest)) else skipString rest

end FilterClause.Json
