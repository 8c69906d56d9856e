import FilterClause.Decimal.Natural
import FilterClause.Dialect

/-!
The command line. Arguments are taken from left to right; a flag is given at most once, its value after
an equals sign or as the next argument, which then may not look like a flag. Nothing is said about why
a command line is refused.

Requests for help (`--help`, `-h`, `help`) are left out together with the text that answers them, and are
refused here like any other word that is not known.
-/

namespace FilterClause.Command

structure ConvertOptions where
  input : Option String := none
  config : Option String := none
  dialect : Option DialectKind := none
  column : Option String := none
  maxDepth : Option Nat := none
  deriving DecidableEq, Repr

structure AstOptions where
  input : Option String := none
  deriving DecidableEq, Repr

inductive Invocation
  | version
  | convert (options : ConvertOptions)
  | ast (options : AstOptions)
  deriving DecidableEq, Repr

def setOnce {α : Type} (field : Option α) (a : α) : Option (Option α) :=
  match field with
  | none => some (some a)
  | some _ => none

def path? (s : String) : Option String :=
  if s = "" then none else some s

def ConvertOptions.set (o : ConvertOptions) (name value : String) : Option ConvertOptions :=
  match name with
  | "input" => do
    let input ← setOnce o.input (← path? value)
    some { o with input }
  | "config" => do
    let config ← setOnce o.config (← path? value)
    some { o with config }
  | "dialect" => do
    let dialect ← setOnce o.dialect (← (DialectKind.ofToken value).toOption)
    some { o with dialect }
  | "column" => do
    let column ← setOnce o.column value
    some { o with column }
  | "max-depth" => do
    let maxDepth ← setOnce o.maxDepth (← Decimal.count? value)
    some { o with maxDepth }
  | _ => none

def AstOptions.set (o : AstOptions) (name value : String) : Option AstOptions :=
  match name with
  | "input" => do
    let input ← setOnce o.input (← path? value)
    some { o with input }
  | _ => none

/-- An argument that would be taken for a flag; a lone dash would not. -/
def looksLikeFlag (argument : String) : Bool :=
  match argument.toList with
  | '-' :: _ :: _ => true
  | _ => false

def longFlag? (argument : String) : Option (String × Option String) :=
  match argument.toList with
  | '-' :: '-' :: cs =>
    let name := String.ofList (cs.takeWhile (· ≠ '='))
    match cs.dropWhile (· ≠ '=') with
    | [] => some (name, none)
    | _ :: value => some (name, some (String.ofList value))
  | _ => none

/-- Takes the options through the arguments. A double dash ends them, and nothing may follow it. -/
def setAll {σ : Type} (set : σ → String → String → Option σ) (options : σ) :
    List String → Option σ
  | [] => some options
  | argument :: arguments =>
    if argument = "--" then
      if arguments = [] then some options else none
    else
      match longFlag? argument with
      | none => none
      | some (name, some value) => do
        let options ← set options name value
        setAll set options arguments
      | some (name, none) =>
        match arguments with
        | [] => none
        | value :: arguments =>
          if looksLikeFlag value then none
          else do
            let options ← set options name value
            setAll set options arguments

def isVersionFlag (argument : String) : Bool :=
  argument = "--version" || ['-', 'V'].isPrefixOf argument.toList

/-- What the arguments ask for, unless they are refused. -/
def Invocation.ofArguments : List String → Option Invocation
  | [] => none
  | argument :: arguments =>
    if isVersionFlag argument then some .version
    else
      match argument with
      | "convert" => (setAll ConvertOptions.set {} arguments).map .convert
      | "ast" => (setAll AstOptions.set {} arguments).map .ast
      | _ => none

def Invocation.paths : Invocation → List String
  | version => []
  | convert o => o.config.toList ++ o.input.toList
  | ast o => o.input.toList

def Invocation.readsStdin : Invocation → Bool
  | version => false
  | convert o => o.input.isNone
  | ast o => o.input.isNone

end FilterClause.Command
