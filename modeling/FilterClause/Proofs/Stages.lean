import FilterClause.Command.Run
import FilterClause.Proofs.Acceptance
import FilterClause.Proofs.Entries
import FilterClause.Proofs.Flags
import FilterClause.Proofs.Offence

/-!
What a conversion by the command comes to. Each of its stages is judged by what it is about, whatever
becomes of the others; the first that fails decides, and if none fails the clause is written for the
settings that the flags, the settings file and the defaults give.
-/

namespace FilterClause.Command

open Json (Document)

/-- A setting is the flag's, or else the settings file's, or else the default. A document that spells
nothing is no setting. -/
inductive Chosen {α : Type} (spells : Document → Option α → Prop) (default : α) :
    Option α → Option Document → α → Prop
  | flag (a : α) (entry : Option Document) : Chosen spells default (some a) entry a
  | file {d : Document} {a : α} (h : spells d (some a)) : Chosen spells default none (some d) a
  | null {d : Document} (h : spells d none) : Chosen spells default none (some d) default
  | absent : Chosen spells default none none default

theorem Chosen.unique {α : Type} {spells : Document → Option α → Prop} {default a a' : α}
    {flag : Option α} {entry : Option Document}
    (h : Chosen spells default flag entry a) (h' : Chosen spells default flag entry a')
    (hspells : ∀ d x x', spells d x → spells d x' → x = x') : a = a' := by
  cases h with
  | flag => cases h'; rfl
  | file hd =>
      cases h' with
      | file hd' => exact Option.some.inj (hspells _ _ _ hd hd')
      | null hd' => cases hspells _ _ _ hd hd'
  | null hd =>
      cases h' with
      | file hd' => cases hspells _ _ _ hd hd'
      | null hd' => rfl
  | absent => cases h'; rfl

theorem chosen_of_rel {α : Type} {spells : Document → Option α → Prop} {entry : Option Document}
    {field : Option (Option α)} (h : Option.Rel spells entry field) (flag : Option α) (default : α) :
    Chosen spells default flag entry ((flag <|> field.getD none).getD default) := by
  cases flag with
  | some a => exact .flag a entry
  | none =>
      cases h with
      | none => exact .absent
      | @some d x hd =>
          cases x with
          | none => exact .null hd
          | some a => exact .file hd

structure Choice where
  kind : DialectKind
  column : String
  maxDepth : Nat

namespace Choice

def dialect (c : Choice) : Dialect :=
  match c.kind with
  | .pgVector => .pgVector c.column
  | .mySql => .mySql c.column

def settings (c : Choice) : ConverterSettings :=
  { maxDepth := c.maxDepth }

end Choice

/-- The text of a file or of the standard input, or why there is none. -/
inductive Yields : Except ReadError ByteArray → Except ReadError String → Prop
  | text {bytes : ByteArray} {text : String} (h : String.fromUTF8? bytes = some text) :
      Yields (.ok bytes) (.ok text)
  | notText {bytes : ByteArray} (h : String.fromUTF8? bytes = none) :
      Yields (.ok bytes) (.error .notText)
  | unread (e : ReadError) : Yields (.error e) (.error e)

section Run

variable (w : Surroundings) (o : ConvertOptions)

/-- Where the expression is taken from: the input file, or the standard input where none is named. -/
def inputBytes : Except ReadError ByteArray :=
  match o.input with
  | some path => w.readFile path
  | none => w.stdin

/-- The entries of the settings file. Where none is named there are no entries. -/
inductive FileHolds : Entries → Prop
  | none (h : o.config = none) : FileHolds {}
  | file {path text : String} {entries : Entries} (hconfig : o.config = some path)
      (htext : Yields (w.readFile path) (.ok text))
      (h : Source.parse Entries.read text = .ok entries) : FileHolds entries

/-- Each setting is chosen for itself. -/
inductive Settles : Choice → Prop
  | intro {entries : Entries} {kind : DialectKind} {column : String} {maxDepth : Nat}
      (hfile : FileHolds w o entries)
      (hkind : Chosen Document.SpellsDialect .pgVector o.dialect entries.dialect kind)
      (hcolumn : Chosen Document.SpellsColumn "metadata" o.column entries.column column)
      (hmaxDepth : Chosen Document.SpellsMaxDepth 64 o.maxDepth entries.maxDepth maxDepth) :
      Settles ⟨kind, column, maxDepth⟩

def InputHolds (e : Expression) : Prop :=
  ∃ text, Yields (inputBytes w o) (.ok text) ∧ parseJson text = .ok e

end Run

inductive Stage
  | readSettings
  | parseSettings
  | readInput
  | parseInput
  | convert
  deriving DecidableEq

namespace Stage

def earlier : Stage → List Stage
  | readSettings => []
  | parseSettings => [readSettings]
  | readInput => [readSettings, parseSettings]
  | parseInput => [readSettings, parseSettings, readInput]
  | convert => [readSettings, parseSettings, readInput, parseInput]

inductive Reports : Stage → CommandError → Prop
  | readSettings (e : ReadError) : Reports readSettings (.io e)
  | parseSettings (report : Json.Report) : Reports parseSettings (.settings report)
  | readInput (e : ReadError) : Reports readInput (.io e)
  | parseInput (report : Json.Report) : Reports parseInput (.convert (.invalidExpression report))
  | tooDeep (limit : Nat) : Reports convert (.convert (.depthExceeded limit))
  | misplaced (op : Operator) (position : OperatorPosition) :
      Reports convert (.convert (.unsupportedOperator op position))

/-- The stage fails with this error on what it is given, no matter how other stages fare. -/
inductive Fails (w : Surroundings) (o : ConvertOptions) : Stage → CommandError → Prop
  | readSettings {path : String} {e : ReadError} (hconfig : o.config = some path)
      (h : Yields (w.readFile path) (.error e)) : Fails w o readSettings (.io e)
  | parseSettings {path text : String} {report : Json.Report} (hconfig : o.config = some path)
      (htext : Yields (w.readFile path) (.ok text))
      (h : Source.parse CommandSettings.read text = .error report) :
      Fails w o parseSettings (.settings report)
  | readInput {e : ReadError} (h : Yields (inputBytes w o) (.error e)) : Fails w o readInput (.io e)
  | parseInput {text : String} {e : ConvertError} (htext : Yields (inputBytes w o) (.ok text))
      (h : parseJson text = .error e) : Fails w o parseInput (.convert e)
  | convert {c : Choice} {e : Expression} {err : ConvertError} (hsettings : Settles w o c)
      (hinput : InputHolds w o e) (h : convertWith e c.dialect c.settings = .error err) :
      Fails w o convert (.convert err)

/-- The stage fails and no earlier one does. -/
structure FailsFirst (w : Surroundings) (o : ConvertOptions) (stage : Stage) (e : CommandError) :
    Prop where
  fails : stage.Fails w o e
  earlier : ∀ s ∈ stage.earlier, ∀ e', ¬ s.Fails w o e'

end Stage

namespace Yields

variable {w : Surroundings} {o : ConvertOptions} {bytes : Except ReadError ByteArray}
  {r r' : Except ReadError String}

theorem unique (h : Yields bytes r) (h' : Yields bytes r') : r = r' := by
  cases h with
  | text htext =>
      cases h' with
      | text htext' => rw [Option.some.inj (htext.symm.trans htext')]
      | notText hnone => cases htext.symm.trans hnone
  | notText hnone =>
      cases h' with
      | text htext => cases hnone.symm.trans htext
      | notText => rfl
  | unread e => cases h'; rfl

theorem exists_of_not_error (bytes : Except ReadError ByteArray)
    (h : ∀ e, ¬ Yields bytes (.error e)) : ∃ text, Yields bytes (.ok text) := by
  cases bytes with
  | error e => exact absurd (.unread e) (h e)
  | ok bytes =>
      cases htext : String.fromUTF8? bytes with
      | none => exact absurd (.notText htext) (h .notText)
      | some text => exact ⟨text, .text htext⟩

theorem decode (h : Yields bytes r) : Command.decode bytes = r.mapError CommandError.io := by
  cases h with
  | text htext =>
      rw [Command.decode, htext]
      rfl
  | notText hnone =>
      rw [Command.decode, hnone]
      rfl
  | unread e => rfl

theorem readFile {path : String} (h : Yields (w.readFile path) r) :
    Command.readFile w path = r.mapError CommandError.io :=
  h.decode

theorem readInput (h : Yields (inputBytes w o) r) :
    Command.readInput w o.input = r.mapError CommandError.io := by
  unfold inputBytes at h
  cases hinput : o.input with
  | some path =>
      rw [hinput] at h
      exact h.readFile
  | none =>
      rw [hinput] at h
      exact h.decode

end Yields

section Run

variable {w : Surroundings} {o : ConvertOptions}

theorem FileHolds.unique {entries entries' : Entries} (h : FileHolds w o entries)
    (h' : FileHolds w o entries') : entries = entries' := by
  cases h with
  | none hconfig =>
      cases h' with
      | none => rfl
      | file hconfig' => cases hconfig.symm.trans hconfig'
  | file hconfig htext hentries =>
      cases h' with
      | none hconfig' => cases hconfig.symm.trans hconfig'
      | file hconfig' htext' hentries' =>
          obtain rfl := Option.some.inj (hconfig.symm.trans hconfig')
          obtain rfl := Except.ok.inj (htext.unique htext')
          exact Except.ok.inj (hentries.symm.trans hentries')

theorem Settles.unique {c c' : Choice} (h : Settles w o c) (h' : Settles w o c') : c = c' := by
  obtain ⟨hfile, hkind, hcolumn, hmaxDepth⟩ := h
  obtain ⟨hfile', hkind', hcolumn', hmaxDepth'⟩ := h'
  obtain rfl := hfile.unique hfile'
  obtain rfl := hkind.unique hkind' fun _ _ _ => Document.SpellsDialect.unique
  obtain rfl := hcolumn.unique hcolumn' fun _ _ _ => Document.SpellsColumn.unique
  obtain rfl := hmaxDepth.unique hmaxDepth' fun _ _ _ => Document.SpellsMaxDepth.unique
  rfl

theorem Choice.dialect_eq_build (c : Choice) : c.dialect = c.kind.build (some c.column) := by
  obtain ⟨kind, column, maxDepth⟩ := c
  cases kind <;> rfl

theorem build_eq_build_getD (kind : DialectKind) (column : Option String) :
    kind.build column = kind.build (some (column.getD "metadata")) := by
  cases kind <;> rfl

theorem settles_override {entries : Entries} {f : CommandSettings.Fields}
    (hfile : FileHolds w o entries) (h : entries.Spell f) :
    ∃ c, Settles w o c ∧ (o.override f.finish).dialect.build (o.override f.finish).column = c.dialect ∧
      (o.override f.finish).converterSettings = c.settings := by
  have hdialect : Option.Rel Document.SpellsDialect entries.dialect (f.dialect.map some) := by
    have hrel := h.dialect
    cases hd : entries.dialect <;> cases hk : f.dialect <;> rw [hd, hk] at hrel <;> cases hrel
    · exact .none
    · rename_i hspells
      exact .some hspells
  refine ⟨_, .intro hfile (chosen_of_rel hdialect o.dialect .pgVector)
    (chosen_of_rel h.column o.column "metadata") (chosen_of_rel h.maxDepth o.maxDepth 64), ?_, ?_⟩
  · rw [build_eq_build_getD, Choice.dialect_eq_build]
    cases hd : o.dialect <;> cases hk : f.dialect <;>
      simp [ConvertOptions.override, CommandSettings.Fields.finish, hd, hk]
  · simp only [ConvertOptions.override, CommandSettings.Fields.finish,
      CommandSettings.converterSettings, Choice.settings]
    cases o.maxDepth <|> f.maxDepth.getD none <;> rfl

theorem exists_settings (hread : ∀ e, ¬ Stage.readSettings.Fails w o e)
    (hparse : ∀ e, ¬ Stage.parseSettings.Fails w o e) :
    ∃ c s, Settles w o c ∧ resolveSettings w o = .ok s ∧ s.dialect.build s.column = c.dialect ∧
      s.converterSettings = c.settings := by
  cases hconfig : o.config with
  | none =>
      obtain ⟨c, hc, hdialect, hsettings⟩ :=
        settles_override (FileHolds.none hconfig) (f := {}) ⟨.none, .none, .none⟩
      refine ⟨c, _, hc, ?_, hdialect, hsettings⟩
      rw [resolveSettings, hconfig]
      rfl
  | some path =>
      obtain ⟨text, htext⟩ := Yields.exists_of_not_error (w.readFile path) fun e he =>
        hread _ (.readSettings hconfig he)
      cases hs : Source.parse CommandSettings.read text with
      | error report => exact absurd (.parseSettings hconfig htext hs) (hparse (.settings report))
      | ok s =>
          obtain ⟨rest, hs', hrest⟩ := Json.readText_eq_ok_iff.mp hs
          obtain ⟨entries, hentries, f, hspells, rfl⟩ := follows_readSettings _ _ _ _ hs'
          have hfile : FileHolds w o entries :=
            .file hconfig htext (Json.readText_eq_ok_iff.mpr ⟨rest, hentries, hrest⟩)
          obtain ⟨c, hc, hdialect, hsettings⟩ := settles_override hfile hspells
          refine ⟨c, _, hc, ?_, hdialect, hsettings⟩
          simp only [resolveSettings, hconfig, loadSettings, htext.readFile, Except.mapError,
            parseSettings, hs, Except.ok_bind]

theorem InputHolds.readExpression {e : Expression} (h : InputHolds w o e) :
    Command.readExpression w o.input = .ok e := by
  obtain ⟨text, htext, hparse⟩ := h
  simp only [Command.readExpression, htext.readInput, Except.mapError, Except.ok_bind, hparse]

theorem exists_input (hread : ∀ e, ¬ Stage.readInput.Fails w o e)
    (hparse : ∀ e, ¬ Stage.parseInput.Fails w o e) : ∃ e, InputHolds w o e := by
  obtain ⟨text, htext⟩ := Yields.exists_of_not_error (inputBytes w o) fun e he => hread _ (.readInput he)
  cases he : parseJson text with
  | error err => exact absurd (.parseInput htext he) (hparse (.convert err))
  | ok e => exact ⟨e, text, htext, he⟩

/-- The run ends with the error and prints nothing. -/
structure Outcome.Ends (out : Outcome) (e : CommandError) : Prop where
  exitCode : out.exitCode = 1
  stdout : out.stdout = ""
  error : out.error = some e

/-- The run prints the line and nothing else. -/
structure Outcome.Prints (out : Outcome) (line : String) : Prop where
  exitCode : out.exitCode = 0
  stdout : out.stdout = line ++ "\n"
  error : out.error = none

variable {log : Log}

theorem ends_of_settings {e : CommandError} (h : resolveSettings w o = .error e) :
    (runConvert w o log).Ends e := by
  rw [runConvert, h]
  exact ⟨rfl, rfl, rfl⟩

theorem ends_of_input {s : CommandSettings} {e : CommandError} (hs : resolveSettings w o = .ok s)
    (h : Command.readExpression w o.input = .error e) : (runConvert w o log).Ends e := by
  simp only [runConvert, hs, h]
  exact ⟨rfl, rfl, rfl⟩

theorem outcome_of_conversion {s : CommandSettings} {c : Choice} {e : Expression}
    (hs : resolveSettings w o = .ok s) (hdialect : s.dialect.build s.column = c.dialect)
    (hsettings : s.converterSettings = c.settings) (he : InputHolds w o e) :
    (∀ clause, convertWith e c.dialect c.settings = .ok clause →
      (runConvert w o log).Prints clause) ∧
    ∀ err, convertWith e c.dialect c.settings = .error err →
      (runConvert w o log).Ends (.convert err) := by
  simp only [runConvert, hs, he.readExpression, hdialect, hsettings]
  generalize hlog : ((recordSettings o log).record _).record _ = log'
  rw [← convertLogged_fst e c.dialect c.settings log']
  cases convertLogged e c.dialect c.settings log' with
  | mk result log'' =>
      cases result with
      | ok clause =>
          refine ⟨fun _ h => ?_, fun _ h => (nomatch h)⟩
          cases h
          exact ⟨rfl, rfl, rfl⟩
      | error err =>
          refine ⟨fun _ h => (nomatch h), fun _ h => ?_⟩
          cases h
          exact ⟨rfl, rfl, rfl⟩

theorem Stage.Fails.reports {stage : Stage} {e : CommandError} (h : stage.Fails w o e) :
    stage.Reports e := by
  cases h with
  | readSettings => exact .readSettings _
  | parseSettings => exact .parseSettings _
  | readInput => exact .readInput _
  | parseInput _ hparse =>
      obtain ⟨report, hreport⟩ := exists_report_of_parseJson_ne_ok fun e he => by
        rw [hparse] at he
        cases he
      obtain rfl := Except.error.inj (hparse.symm.trans hreport)
      exact .parseInput report
  | convert _ _ hconvert =>
      obtain rfl | ⟨op, position, rfl⟩ := convertWith_error_cases hconvert
      · exact .tooDeep _
      · exact .misplaced op position

theorem Stage.Fails.resolveSettings {stage : Stage} {e : CommandError} (h : stage.Fails w o e)
    (hstage : stage ∈ [.readSettings, .parseSettings]) : Command.resolveSettings w o = .error e := by
  cases h with
  | readSettings hconfig herror =>
      simp only [Command.resolveSettings, hconfig, loadSettings, herror.readFile]
      rfl
  | parseSettings hconfig htext hparse =>
      simp only [Command.resolveSettings, hconfig, loadSettings, htext.readFile, Except.mapError,
        Except.ok_bind, Command.parseSettings, hparse]
      rfl
  | readInput _ => exact absurd hstage (by decide)
  | parseInput _ _ => exact absurd hstage (by decide)
  | convert _ _ _ => exact absurd hstage (by decide)

theorem Stage.Fails.readExpression {stage : Stage} {e : CommandError} (h : stage.Fails w o e)
    (hstage : stage ∈ [.readInput, .parseInput]) : Command.readExpression w o.input = .error e := by
  cases h with
  | readInput herror =>
      simp only [Command.readExpression, herror.readInput]
      rfl
  | parseInput htext hparse =>
      simp only [Command.readExpression, htext.readInput, Except.mapError, Except.ok_bind, hparse]
  | readSettings _ _ => exact absurd hstage (by decide)
  | parseSettings _ _ _ => exact absurd hstage (by decide)
  | convert _ _ _ => exact absurd hstage (by decide)

/-- The first stage to fail decides, one case a stage. -/
theorem Stage.FailsFirst.ends {stage : Stage} {e : CommandError} (h : stage.FailsFirst w o e) :
    (runConvert w o log).Ends e := by
  obtain ⟨hfails, hearlier⟩ := h
  cases stage with
  | readSettings => exact ends_of_settings (hfails.resolveSettings (by decide))
  | parseSettings => exact ends_of_settings (hfails.resolveSettings (by decide))
  | readInput =>
      obtain ⟨c, s, -, hs, -⟩ := exists_settings (hearlier .readSettings (by decide))
        (hearlier .parseSettings (by decide))
      exact ends_of_input hs (hfails.readExpression (by decide))
  | parseInput =>
      obtain ⟨c, s, -, hs, -⟩ := exists_settings (hearlier .readSettings (by decide))
        (hearlier .parseSettings (by decide))
      exact ends_of_input hs (hfails.readExpression (by decide))
  | convert =>
      obtain ⟨c, s, hc, hs, hdialect, hsettings⟩ :=
        exists_settings (hearlier .readSettings (by decide)) (hearlier .parseSettings (by decide))
      cases hfails with
      | convert hsettles hinput hconvert =>
          obtain rfl := hsettles.unique hc
          exact (outcome_of_conversion hs hdialect hsettings hinput).2 _ hconvert

theorem exists_prints (h : ∀ stage e, ¬ Stage.Fails w o stage e) :
    ∃ c e clause, Settles w o c ∧ InputHolds w o e ∧
      convertWith e c.dialect c.settings = .ok clause ∧ (runConvert w o log).Prints clause := by
  obtain ⟨c, s, hc, hs, hdialect, hsettings⟩ := exists_settings (h .readSettings) (h .parseSettings)
  obtain ⟨e, he⟩ := exists_input (h .readInput) (h .parseInput)
  cases hconvert : convertWith e c.dialect c.settings with
  | error err => exact absurd (.convert hc he hconvert) (h .convert (.convert err))
  | ok clause =>
      exact ⟨c, e, clause, hc, he, hconvert,
        (outcome_of_conversion hs hdialect hsettings he).1 clause hconvert⟩

end Run

/-- A conversion that is asked for goes by the flags on its command line. Its outcome is that of the
first stage to fail, which reports one of its own errors; if none fails, the clause of the expression is
printed for the settings chosen. -/
theorem convert_run_by_stages {arguments : List String} {o : ConvertOptions}
    (h : Invocation.ofArguments arguments = some (.convert o)) :
    (∃ rest given, arguments = "convert" :: rest ∧ Spelled rest given ∧ o.GivenBy given) ∧
    ∀ (w : Surroundings) (filter : LogFilter),
      (∀ stage e, Stage.FailsFirst w o stage e →
        ((Invocation.convert o).run w filter).Ends e ∧ stage.Reports e) ∧
      ((∀ stage e, ¬ Stage.Fails w o stage e) →
        ∃ c e clause, Settles w o c ∧ InputHolds w o e ∧
          convertWith e c.dialect c.settings = .ok clause ∧
          ((Invocation.convert o).run w filter).Prints clause) :=
  ⟨exists_spelled_of_ofArguments h, fun _ _ =>
    ⟨fun _ _ hfirst => ⟨hfirst.ends, hfirst.fails.reports⟩, exists_prints⟩⟩

/-- No file can be read, and nothing is given. -/
def nowhere : Surroundings where
  readFile _ := .error .missing
  stdin := .ok .empty

/-- A settings file that is named has to be there, even if every setting is given by a flag. -/
theorem convert_run_missing_settings :
    ∃ o, Invocation.ofArguments ["convert", "--config=s.json", "--dialect=mysql", "--column", "",
        "--max-depth", "3"] = some (.convert o) ∧
      ((Invocation.convert o).run nowhere LogFilter.usual).Ends (.io .missing) := by
  let o : ConvertOptions :=
    { config := some "s.json", dialect := some .mySql, column := some "", maxDepth := some 3 }
  have h : Invocation.ofArguments ["convert", "--config=s.json", "--dialect=mysql", "--column", "",
      "--max-depth", "3"] = some (.convert o) := by decide +kernel
  have hfirst : Stage.FailsFirst nowhere o .readSettings (.io .missing) :=
    ⟨.readSettings rfl (.unread .missing), fun _ hs => nomatch hs⟩
  exact ⟨o, h, (((convert_run_by_stages h).2 nowhere LogFilter.usual).1 _ _ hfirst).1⟩

theorem fromUTF8?_toUTF8 (text : String) : String.fromUTF8? text.toUTF8 = some text := by
  have hvalid : text.toUTF8.IsValidUTF8 := text.isValidUTF8
  rw [String.fromUTF8?, dif_pos hvalid]
  rfl

/-- The dialect and the limit are the settings file's, the column is the flag's, empty as it is. -/
example :
    let w : Surroundings :=
      ⟨fun _ => .ok "\x7b\"column\": null, \"max_depth\": 1, \"dialect\": \"mysql\"\x7d".toUTF8,
        .ok "\x7b\"op\": \"eq\", \"type\": \"comparison\", \"key\": \"k\", \"value\": 1\x7d".toUTF8⟩
    ((Invocation.convert { config := some "s.json", column := some "" }).run w LogFilter.usual).stdout =
      "->>'$.k' = 1\n" := by
  simp only [Invocation.run, runConvert, resolveSettings, loadSettings, readFile, readExpression,
    readInput, decode, fromUTF8?_toUTF8, Except.ok_bind]
  decide +kernel

end FilterClause.Command
