import FilterClause.Dialect
import FilterClause.Json.Record

/-!
Settings of a conversion, and the settings file of the command. Fields that are not given keep their
defaults; members of other names are passed over.
-/

namespace FilterClause

open Json (Document Fault Failure Reader Reading)

structure ConverterSettings where
  /-- The deepest level of nesting that is rendered; a comparison alone is at level one. -/
  maxDepth : Nat := 64
  deriving DecidableEq, Repr

namespace ConverterSettings

def toDocument (s : ConverterSettings) : Document :=
  .object [("max_depth", .integer s.maxDepth)]

def memberOf (depth : Option Nat) (name : String) (rest : List Char) : Reading (Option Nat) :=
  match name with
  | "max_depth" => (Json.readField name depth Json.readCount rest).map fun (n, rest) => (some n, rest)
  | _ => (Json.skipMember rest).map fun rest => (depth, rest)

def ofMembers (_budget : Nat) (rest : List Char) :
    Except Failure (ConverterSettings × List Char) := do
  let (depth, rest) ← Json.recordMembers memberOf none rest
  .ok (⟨depth.getD 64⟩, rest)

def ofElements (_budget : Nat) (rest : List Char) :
    Except Failure (ConverterSettings × List Char) := do
  let (depth, rest) ← Json.readElement? Json.readCount true rest
  .ok (⟨depth.getD 64⟩, rest)

def read : Nat → Reader ConverterSettings :=
  Json.readRecord "struct ConverterSettings" ofElements ofMembers

end ConverterSettings

namespace DialectKind

def toDocument (kind : DialectKind) : Document :=
  .string kind.settingName

def ofSetting (name : String) : Except Fault DialectKind :=
  match all.find? fun kind => kind.settingName == name with
  | some kind => .ok kind
  | none => .error (.unknownVariant name (all.map settingName))

/-- The name itself; an unknown one is placed behind it. -/
def readName (rest : List Char) : Reading DialectKind :=
  match Json.readStringValue "variant identifier" rest with
  | .ok (name, rest) =>
    match ofSetting name with
    | .ok kind => .ok (kind, rest)
    | .error fault => .error (.here fault rest)
  | .error f => .error f

def readNull (rest : List Char) : Except Failure (List Char) :=
  match Json.skipBlanks rest with
  | 'n' :: rest => Json.readKeyword ['u', 'l', 'l'] rest
  | rest => (Json.refuse (α := Unit) "unit" rest).map fun (_, rest) => rest

def readMemberName (rest : List Char) : Reading DialectKind :=
  match Json.skipBlanks rest with
  | '"' :: rest => readName ('"' :: rest)
  | [] => .error (.atNext .endOfObject [])
  | '\x7d' :: rest => .error (.atNext .expectedValue ('\x7d' :: rest))
  | rest => .error (.atNext .keyNotString rest)

/-- An object whose one member has the name and the value null. -/
def readMember (rest : List Char) : Except Failure (DialectKind × List Char) := do
  let (kind, rest) ← readMemberName rest
  let rest ← Json.readColon rest
  let rest ← readNull rest
  match Json.skipBlanks rest with
  | '\x7d' :: rest => .ok (kind, rest)
  | [] => .error (.here .endOfObject [])
  | rest => .error (.here .expectedValue rest)

def read (budget : Nat) (rest : List Char) : Reading DialectKind :=
  match Json.skipBlanks rest with
  | '"' :: rest => readName ('"' :: rest)
  | '\x7b' :: body =>
    match budget with
    | 0 => .error (.atNext .nestingLimit ('\x7b' :: body))
    | _ + 1 => readMember body
  | [] => .error (.atNext .endOfValue [])
  | rest => .error (.atNext .expectedValue rest)

end DialectKind

structure CommandSettings where
  dialect : DialectKind := .pgVector
  column : Option String := none
  maxDepth : Option Nat := none
  deriving DecidableEq, Repr

namespace CommandSettings

def converterSettings (s : CommandSettings) : ConverterSettings :=
  match s.maxDepth with
  | some maxDepth => { maxDepth }
  | none => {}

/-- The fields that have been read. A field of value null counts as given. -/
structure Fields where
  dialect : Option DialectKind := none
  column : Option (Option String) := none
  maxDepth : Option (Option Nat) := none

def Fields.finish (f : Fields) : CommandSettings :=
  ⟨f.dialect.getD .pgVector, f.column.getD none, f.maxDepth.getD none⟩

def readColumn : Reader (Option String) :=
  Json.readOptional (Json.readStringValue "a string")

def readMaxDepth : Reader (Option Nat) :=
  Json.readOptional Json.readCount

def memberOf (budget : Nat) (f : Fields) (name : String) (rest : List Char) : Reading Fields :=
  match name with
  | "dialect" => (Json.readField name f.dialect (DialectKind.read budget) rest).map fun (d, rest) =>
    ({ f with dialect := some d }, rest)
  | "column" => (Json.readField name f.column readColumn rest).map fun (c, rest) =>
    ({ f with column := some c }, rest)
  | "max_depth" => (Json.readField name f.maxDepth readMaxDepth rest).map fun (n, rest) =>
    ({ f with maxDepth := some n }, rest)
  | _ => (Json.skipMember rest).map fun rest => (f, rest)

def ofMembers (budget : Nat) (rest : List Char) :
    Except Failure (CommandSettings × List Char) := do
  let (f, rest) ← Json.recordMembers (memberOf budget) {} rest
  .ok (f.finish, rest)

/-- Fields missing at the end of an array keep their defaults. -/
def ofElements (budget : Nat) (rest : List Char) :
    Except Failure (CommandSettings × List Char) := do
  let (dialect, rest) ← Json.readElement? (DialectKind.read budget) true rest
  let (column, rest) ← Json.readElement? readColumn false rest
  let (maxDepth, rest) ← Json.readElement? readMaxDepth false rest
  .ok (Fields.finish ⟨dialect, column, maxDepth⟩, rest)

def read : Nat → Reader CommandSettings :=
  Json.readRecord "struct CliSettings" ofElements ofMembers

end CommandSettings

end FilterClause
