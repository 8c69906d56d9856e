import FilterClause.Command.Arguments
import FilterClause.Parse
import FilterClause.Renderer
import FilterClause.Schema.Tree

/-!
Running the command, as a function of the files and the standard input. The stages follow one another,
and the first that fails is the outcome: reading the settings file, parsing it, reading the expression,
parsing it, converting it.
-/

namespace FilterClause.Command

inductive ReadError
  | system (code : Nat) (kind : String) (text : String)
  | notText
  deriving DecidableEq, Repr

namespace ReadError

def missing : ReadError :=
  system 2 "NotFound" "No such file or directory"

def directory : ReadError :=
  system 21 "IsADirectory" "Is a directory"

def notTextMessage : String :=
  "stream did not contain valid UTF-8"

def message : ReadError → String
  | system code _ text => text ++ " (os error " ++ toString code ++ ")"
  | notText => notTextMessage

def diagnostic : ReadError → String
  | system code kind text =>
    braced "Os" [("code", toString code), ("kind", kind), ("message", Text.quoted text)]
  | notText => braced "Error" [("kind", "InvalidData"), ("message", Text.quoted notTextMessage)]

end ReadError

inductive CommandError
  | io (e : ReadError)
  | settings (report : Json.Report)
  | convert (e : ConvertError)
  deriving DecidableEq, Repr

namespace CommandError

def message : CommandError → String
  | io e => "Failed to read input: " ++ e.message
  | settings report => "Failed to parse the settings file: " ++ report.message
  | convert e => "Failed to convert the filter expression: " ++ e.message

def diagnostic : CommandError → String
  | io e => constructed "Io" e.diagnostic
  | settings report => constructed "SettingsParse" report.diagnostic
  | convert e => constructed "Convert" e.diagnostic

end CommandError

structure Surroundings where
  readFile : String → Except ReadError ByteArray
  stdin : Except ReadError ByteArray

structure Outcome where
  exitCode : Nat
  stdout : String
  error : Option CommandError
  log : Log

def Outcome.success (stdout : String) (log : Log) : Outcome :=
  ⟨0, stdout ++ "\n", none, log⟩

def Outcome.failure (error : CommandError) (log : Log) : Outcome :=
  ⟨1, "", some error, log⟩

def decode : Except ReadError ByteArray → Except CommandError String
  | .ok bytes =>
    match String.fromUTF8? bytes with
    | some text => .ok text
    | none => .error (.io .notText)
  | .error e => .error (.io e)

def readFile (w : Surroundings) (path : String) : Except CommandError String :=
  decode (w.readFile path)

def readInput (w : Surroundings) : Option String → Except CommandError String
  | some path => readFile w path
  | none => decode w.stdin

def parseSettings (text : String) : Except CommandError CommandSettings :=
  (Source.parse CommandSettings.read text).mapError CommandError.settings

def loadSettings (w : Surroundings) (path : String) : Except CommandError CommandSettings := do
  let text ← readFile w path
  parseSettings text

/-- Each flag that is given replaces what the settings say. -/
def ConvertOptions.override (o : ConvertOptions) (s : CommandSettings) : CommandSettings where
  dialect := o.dialect.getD s.dialect
  column := o.column <|> s.column
  maxDepth := o.maxDepth <|> s.maxDepth

def resolveSettings (w : Surroundings) (o : ConvertOptions) : Except CommandError CommandSettings :=
  match o.config with
  | some path => do
    let s ← loadSettings w path
    .ok (o.override s)
  | none => .ok (o.override {})

/-- The settings file is named before it is opened. -/
def recordSettings (o : ConvertOptions) (log : Log) : Log :=
  match o.config with
  | some path => log.record (.loadingSettings path)
  | none => log

def readExpression (w : Surroundings) (input : Option String) : Except CommandError Expression := do
  let text ← readInput w input
  (parseJson text).mapError CommandError.convert

def runConvert (w : Surroundings) (o : ConvertOptions) (log : Log) : Outcome :=
  let log := recordSettings o log
  match resolveSettings w o with
  | .error e => .failure e log
  | .ok s =>
    match readExpression w o.input with
    | .error e => .failure e log
    | .ok e =>
      let dialect := s.dialect.build s.column
      let log := (log.record (.converting dialect.name)).record (.parsed e)
      match convertLogged e dialect s.converterSettings log with
      | (.ok clause, log) => .success clause log
      | (.error e, log) => .failure (.convert e) log

def runAst (w : Surroundings) (o : AstOptions) (log : Log) : Outcome :=
  match readExpression w o.input with
  | .error e => .failure e log
  | .ok e => .success e.toDocument.indented log

def versionText : String := "filterc 0.1.0"

def Invocation.run (w : Surroundings) (filter : LogFilter) : Invocation → Outcome
  | version => .success versionText { filter }
  | convert o => runConvert w o { filter }
  | ast o => runAst w o { filter }

end FilterClause.Command
