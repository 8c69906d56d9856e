import FilterClause.Proofs.Stages
import FilterClause.Proofs.Stopping

/-!
The log of a conversion by the command. What happens in a run does not depend on its log; the log takes
in, of the events of the run, those that its filter admits. The full log tells which course the run took:
whether a settings file was named, whether there was an expression to convert, and what came of it.
-/

namespace FilterClause

theorem Log.recordAll_eq (log : Log) (events : List Event) :
    log.recordAll events =
      { log with events := log.events ++ events.filter (·.admittedBy log.filter) } := by
  induction events generalizing log with
  | nil => rw [recordAll, List.foldl_nil, List.filter_nil, List.append_nil]
  | cons event events ih =>
      have hcons : log.recordAll (event :: events) = (log.record event).recordAll events := rfl
      rw [hcons, ih, record, List.filter_cons]
      split
      · rw [List.append_assoc, List.singleton_append]
      · rfl

/-- Everything up to the level is taken in, whatever part of the program it is from. -/
def LogFilter.upTo (level : Level) : LogFilter :=
  [⟨none, .every, some level⟩]

theorem Event.admittedBy_upTo (event : Event) (level : Level) :
    event.admittedBy (.upTo level) = decide (event.level.rank ≤ level.rank) := by
  have hgoverns : LogRule.governs ⟨none, .every, some level⟩ event.target event.fieldNames = true :=
    rfl
  simp only [admittedBy, LogFilter.threshold, LogFilter.upTo, List.filter_cons, hgoverns, if_true,
    List.filter_nil]
  rfl

theorem Event.admittedBy_full (event : Event) : event.admittedBy LogFilter.full = true := by
  have hlevel : event.level.rank ≤ Level.trace.rank := by
    cases event.level <;> decide
  exact (event.admittedBy_upTo .trace).trans (decide_eq_true hlevel)

theorem convertLogged_of_ok {e : Expression} {dialect : Dialect} {settings : ConverterSettings}
    {clause : String} (h : convertWith e dialect settings = .ok clause) (log : Log) :
    convertLogged e dialect settings log =
      (.ok clause,
        log.recordAll [.started dialect.name settings.maxDepth, .rendered clause]) := by
  obtain ⟨hroom, hw, rfl⟩ := convertWith_eq_ok_iff.mp h
  let r := Renderer.start dialect settings (log.record (.started dialect.name settings.maxDepth))
  have hr : r.render e = .ok (r.push (e.clause dialect)) :=
    Renderer.render_start_eq_ok_iff.mpr ⟨hroom, hw, rfl⟩
  have htext : (r.push (e.clause dialect)).text = e.clause dialect := String.empty_append
  rw [convertLogged]
  simp only [r] at hr htext
  simp only [hr, htext]
  rfl

theorem convertLogged_of_error {e : Expression} {dialect : Dialect} {settings : ConverterSettings}
    {err : ConvertError} (h : convertWith e dialect settings = .error err) (log : Log) :
    convertLogged e dialect settings log =
      (.error err,
        log.recordAll (.started dialect.name settings.maxDepth :: err.warnings dialect.name)) := by
  rw [← convertLogged_fst e dialect settings log] at h
  rw [convertLogged] at h ⊢
  split at h
  · cases h
  · rename_i s hs
    cases h
    simp only [Renderer.log_of_render_eq_error hs]
    rfl

/-- The event is the warning for the error, in a conversion to the dialect of this name. -/
inductive Warns (dialect : String) : ConvertError → Event → Prop
  | tooDeep (limit : Nat) : Warns dialect (.depthExceeded limit) (.depthExceeded limit dialect)
  | misplaced (op : Operator) (position : OperatorPosition) :
      Warns dialect (.unsupportedOperator op position) (.operatorRefused op position)

def Shows (text line : String) : Prop :=
  text.toList <:+: line.toList

/-- What has to be said of an error: the limit and the dialect, or the operator and where it stands. -/
def ConvertError.particulars (dialect : String) : ConvertError → List (String × String)
  | depthExceeded limit => [("limit", toString limit), ("dialect", dialect)]
  | unsupportedOperator op position => [("operator", op.name), ("position", position.text)]
  | unknownDialect _ | invalidExpression _ => []

theorem Warns.shows {dialect : String} {err : ConvertError} {event : Event}
    (h : Warns dialect err event) {field : String × String} (hfield : field ∈ err.particulars dialect) :
    Shows (Event.fieldText field) event.line := by
  cases h with
  | tooDeep limit => exact Event.fieldText_infix_line hfield
  | misplaced op position => exact Event.fieldText_infix_line hfield

theorem exists_warns {e : Expression} {dialect : Dialect} {settings : ConverterSettings}
    {err : ConvertError} (h : convertWith e dialect settings = .error err) :
    ∃ event, Warns dialect.name err event ∧ err.warnings dialect.name = [event] := by
  obtain rfl | ⟨op, position, rfl⟩ := convertWith_error_cases h
  · exact ⟨_, .tooDeep _, rfl⟩
  · exact ⟨_, .misplaced op position, rfl⟩

namespace Command

section Course

variable (w : Surroundings) (o : ConvertOptions)

/-- No stage before the conversion fails. -/
def Converts : Prop :=
  ∀ stage ∈ Stage.convert.earlier, ∀ e, ¬ stage.Fails w o e

/-- What comes of a run, and what is recorded behind the name of the settings file. -/
inductive Course : Except CommandError String → List Event → Prop
  | early {e : CommandError} (h : ¬ Converts w o) : Course (.error e) []
  | refused {c : Choice} {e : Expression} {err : ConvertError} {warning : Event}
      (hpass : Converts w o) (hc : Settles w o c) (he : InputHolds w o e)
      (h : convertWith e c.dialect c.settings = .error err) (hw : Warns c.dialect.name err warning) :
      Course (.error (.convert err))
        [.converting c.dialect.name, .parsed e, .started c.dialect.name c.settings.maxDepth, warning]
  | printed {c : Choice} {e : Expression} {clause : String}
      (hpass : Converts w o) (hc : Settles w o c) (he : InputHolds w o e)
      (h : convertWith e c.dialect c.settings = .ok clause) :
      Course (.ok clause)
        [.converting c.dialect.name, .parsed e, .started c.dialect.name c.settings.maxDepth,
          .rendered clause]

def settingsEvents : List Event :=
  o.config.toList.map Event.loadingSettings

def Outcome.of (result : Except CommandError String) (log : Log) : Outcome :=
  match result with
  | .ok clause => .success clause log
  | .error e => .failure e log

theorem recordSettings_eq (log : Log) : recordSettings o log = log.recordAll (settingsEvents o) := by
  rw [recordSettings, settingsEvents]
  cases o.config <;> rfl

variable {w o}

/-- A stage that fails before the conversion leaves nothing to be recorded, whichever stage it is that the
run ends in. -/
theorem runConvert_of_early (h : ¬ Converts w o) :
    ∃ e, ∀ log, runConvert w o log = .failure e (recordSettings o log) := by
  simp only [Converts, not_forall, not_not] at h
  obtain ⟨stage, hstage, e, hfails⟩ := h
  cases hs : resolveSettings w o with
  | error e' =>
      refine ⟨e', ?_⟩
      intro log
      simp only [runConvert, hs]
  | ok s =>
      have hinput : stage ∈ [.readInput, .parseInput] := by
        by_contra hinput
        have hsettings : stage ∈ [.readSettings, .parseSettings] := by
          cases stage <;> simp_all [Stage.earlier]
        rw [hfails.resolveSettings hsettings] at hs
        cases hs
      refine ⟨e, ?_⟩
      intro log
      simp only [runConvert, hs, hfails.readExpression hinput]

/-- Whatever its log, the run takes the same course. -/
theorem exists_course (w : Surroundings) (o : ConvertOptions) :
    ∃ result events, Course w o result events ∧
      ∀ log, runConvert w o log = .of result (log.recordAll (settingsEvents o ++ events)) := by
  have happend : ∀ (log : Log) events, log.recordAll (settingsEvents o ++ events) =
      (recordSettings o log).recordAll events := by
    intro log events
    rw [recordSettings_eq]
    exact List.foldl_append
  simp only [happend]
  by_cases hpass : Converts w o
  · obtain ⟨c, s, hc, hs, hdialect, hsettings⟩ :=
      exists_settings (hpass .readSettings (by decide)) (hpass .parseSettings (by decide))
    obtain ⟨e, he⟩ := exists_input (hpass .readInput (by decide)) (hpass .parseInput (by decide))
    cases hconvert : convertWith e c.dialect c.settings with
    | error err =>
        obtain ⟨warning, hwarns, hwarnings⟩ := exists_warns hconvert
        refine ⟨_, _, .refused hpass hc he hconvert hwarns, ?_⟩
        intro log
        simp only [runConvert, hs, he.readExpression, hdialect, hsettings,
          convertLogged_of_error hconvert, hwarnings, Log.recordAll, List.foldl_cons, List.foldl_nil,
          Outcome.of]
    | ok clause =>
        refine ⟨_, _, .printed hpass hc he hconvert, ?_⟩
        intro log
        simp only [runConvert, hs, he.readExpression, hdialect, hsettings,
          convertLogged_of_ok hconvert, Log.recordAll, List.foldl_cons, List.foldl_nil, Outcome.of]
  · obtain ⟨e, hrun⟩ := runConvert_of_early hpass
    exact ⟨.error e, [], .early hpass, hrun⟩

end Course

/-- The warnings of a run. A conversion that fails leaves one, behind everything else, and no other stage
leaves any. -/
structure Warned (w : Surroundings) (o : ConvertOptions) (out : Outcome) : Prop where
  once : (∃ warning, out.log.events.filter (·.level = .warn) = [warning]) ↔
    ∃ e, Stage.FailsFirst w o .convert e
  last : ∀ e, Stage.FailsFirst w o .convert e → ∃ c err warning, Settles w o c ∧
    e = .convert err ∧ out.error = some e ∧ Warns c.dialect.name err warning ∧
    (∀ field ∈ err.particulars c.dialect.name, Shows (Event.fieldText field) warning.line) ∧
    out.log.events.filter (·.level = .warn) = [warning] ∧ out.log.events.getLast? = some warning
  never : (¬ ∃ e, Stage.FailsFirst w o .convert e) → out.log.events.filter (·.level = .warn) = []

/-- What was done in a run: a settings file was named, there was an expression to convert, and there is a
clause. -/
structure Told (w : Surroundings) (o : ConvertOptions) (out : Outcome) : Prop where
  settings : ∀ path, .loadingSettings path ∈ out.log.events ↔ o.config = some path
  input : (∃ dialect, .converting dialect ∈ out.log.events) ↔ Converts w o
  clause : ∀ clause, .rendered clause ∈ out.log.events ↔ out.Prints clause
  success : (∃ clause, .rendered clause ∈ out.log.events) ↔ out.exitCode = 0
  line : ∀ clause, out.Prints clause →
    ∃ line ∈ out.log.lines, Shows (Event.fieldText ("clause", clause)) line

section Run

variable {w : Surroundings} {o : ConvertOptions} {result : Except CommandError String}
  {events : List Event} {log : Log}

theorem InputHolds.unique {e e' : Expression} (h : InputHolds w o e) (h' : InputHolds w o e') :
    e = e' :=
  Except.ok.inj (h.readExpression.symm.trans h'.readExpression)

theorem Stage.FailsFirst.exists_convertWith {c : Choice} {e : Expression} {error : CommandError}
    (h : Stage.FailsFirst w o .convert error) (hc : Settles w o c) (he : InputHolds w o e) :
    ∃ err, error = .convert err ∧ convertWith e c.dialect c.settings = .error err := by
  cases h.fails with
  | convert hsettles hinput hconvert =>
      obtain rfl := hsettles.unique hc
      obtain rfl := hinput.unique he
      exact ⟨_, rfl, hconvert⟩

theorem filter_settingsEvents_append (events : List Event) :
    (settingsEvents o ++ events).filter (·.level = .warn) = events.filter (·.level = .warn) := by
  rw [List.filter_append, settingsEvents]
  cases o.config <;> rfl

theorem mem_settingsEvents_append_iff {event : Event} (h : ∀ path, .loadingSettings path ≠ event) :
    event ∈ settingsEvents o ++ events ↔ event ∈ events := by
  simp only [settingsEvents, List.mem_append, List.mem_map, h, and_false, exists_false, false_or]

theorem Outcome.prints_of_iff {clause : String} :
    (Outcome.of result log).Prints clause ↔ result = .ok clause := by
  cases result with
  | error e =>
      constructor
      · rintro ⟨hcode, -, -⟩
        cases hcode
      · intro h
        cases h
  | ok clause' =>
      constructor
      · rintro ⟨-, hstdout, -⟩
        have hchars := congrArg String.toList hstdout
        rw [Outcome.of, Outcome.success, String.toList_append, String.toList_append] at hchars
        rw [String.toList_injective (List.append_cancel_right hchars)]
      · intro h
        cases h
        exact ⟨rfl, rfl, rfl⟩

theorem Outcome.log_of : (Outcome.of result log).log = log := by
  cases result <;> rfl

namespace Course

theorem loadingSettings_notMem (h : Course w o result events) (path : String) :
    .loadingSettings path ∉ events := by
  cases h with
  | early h => exact List.not_mem_nil
  | refused hpass hc he h hw => cases hw <;> simp
  | printed hpass hc he h => simp

theorem converting_mem_iff (h : Course w o result events) :
    (∃ dialect, .converting dialect ∈ events) ↔ Converts w o := by
  cases h with
  | early h => simp [h]
  | refused hpass hc he h hw => exact iff_of_true ⟨_, List.mem_cons_self⟩ hpass
  | printed hpass hc he h => exact iff_of_true ⟨_, List.mem_cons_self⟩ hpass

theorem rendered_mem_iff (h : Course w o result events) (clause : String) :
    .rendered clause ∈ events ↔ result = .ok clause := by
  cases h with
  | early h => simp
  | refused hpass hc he h hw => cases hw <;> simp
  | printed hpass hc he h => simp [eq_comm]

theorem told (h : Course w o result events) (hlog : log.events = settingsEvents o ++ events) :
    Told w o (.of result log) := by
  have hmem : ∀ event : Event, (∀ path, .loadingSettings path ≠ event) →
      (event ∈ (Outcome.of result log).log.events ↔ event ∈ events) := by
    intro event hevent
    rw [Outcome.log_of, hlog]
    exact mem_settingsEvents_append_iff hevent
  have hrendered : ∀ clause, .rendered clause ∈ (Outcome.of result log).log.events ↔
      result = .ok clause := by
    intro clause
    exact (hmem (.rendered clause) (fun _ => Event.noConfusion)).trans (h.rendered_mem_iff clause)
  have hclause : ∀ clause, .rendered clause ∈ (Outcome.of result log).log.events ↔
      (Outcome.of result log).Prints clause := by
    intro clause
    exact (hrendered clause).trans Outcome.prints_of_iff.symm
  refine ⟨?_, ?_, hclause, ?_, ?_⟩
  · intro path
    rw [Outcome.log_of, hlog]
    simp only [settingsEvents, List.mem_append, List.mem_map, Option.mem_toList,
      Event.loadingSettings.injEq, exists_eq_right, h.loadingSettings_notMem path, or_false]
  · rw [← h.converting_mem_iff]
    apply exists_congr
    intro dialect
    exact hmem (.converting dialect) (fun _ => Event.noConfusion)
  · simp only [hrendered]
    cases result with
    | error e => simp [Outcome.of, Outcome.failure]
    | ok clause => simp [Outcome.of, Outcome.success]
  · intro clause hprints
    exact ⟨_, List.mem_map_of_mem ((hclause clause).mpr hprints),
      Event.fieldText_infix_line List.mem_cons_self⟩

theorem warned_of_not_fails (hnot : ¬ ∃ e, Stage.FailsFirst w o .convert e)
    (hlog : log.events = settingsEvents o ++ events)
    (hevents : events.filter (·.level = .warn) = []) : Warned w o (.of result log) := by
  have hfilter : (Outcome.of result log).log.events.filter (·.level = .warn) = [] := by
    rw [Outcome.log_of, hlog, filter_settingsEvents_append, hevents]
  constructor
  · apply iff_of_false _ hnot
    rintro ⟨warning, hwarning⟩
    rw [hfilter] at hwarning
    cases hwarning
  · intro e hfirst
    exact absurd ⟨e, hfirst⟩ hnot
  · exact fun _ => hfilter

theorem warned (h : Course w o result events) (hlog : log.events = settingsEvents o ++ events) :
    Warned w o (.of result log) := by
  cases h with
  | early h =>
      apply warned_of_not_fails _ hlog rfl
      rintro ⟨e, hfirst⟩
      exact h hfirst.earlier
  | @refused c e err warning hpass hc he h hw =>
      have hfirst : Stage.FailsFirst w o .convert (.convert err) := ⟨.convert hc he h, hpass⟩
      have hfilter : log.events.filter (·.level = .warn) = [warning] := by
        rw [hlog, filter_settingsEvents_append]
        cases hw <;> rfl
      have hlast : log.events.getLast? = some warning := by
        rw [hlog, List.getLast?_append]
        rfl
      refine ⟨iff_of_true ⟨warning, hfilter⟩ ⟨_, hfirst⟩, ?_, ?_⟩
      · intro error herror
        obtain ⟨err', rfl, h'⟩ := herror.exists_convertWith hc he
        obtain rfl := Except.error.inj (h.symm.trans h')
        exact ⟨c, err, warning, hc, rfl, rfl, hw, fun _ => hw.shows, hfilter, hlast⟩
      · exact fun hnot => absurd ⟨_, hfirst⟩ hnot
  | printed hpass hc he h =>
      apply warned_of_not_fails _ hlog rfl
      rintro ⟨e, hfirst⟩
      obtain ⟨err, -, h'⟩ := hfirst.exists_convertWith hc he
      cases h.symm.trans h'

end Course

end Run

/-- The log of a conversion is that of the full log which its filter admits, at a level what is not less
important than the level, and nothing else of the outcome depends on it. The full log warns once, at its
end, of what the conversion fails for, in a line that shows its particulars, and tells of the settings
file, the input and the clause. -/
theorem convert_run_log (w : Surroundings) (o : ConvertOptions) :
    let full := (Invocation.convert o).run w LogFilter.full
    Warned w o full ∧ Told w o full ∧
    (∀ filter, let out := (Invocation.convert o).run w filter
      out.exitCode = full.exitCode ∧ out.stdout = full.stdout ∧ out.error = full.error ∧
      out.log.events = full.log.events.filter (·.admittedBy filter)) ∧
    ∀ level, ((Invocation.convert o).run w (.upTo level)).log.lines =
      (full.log.events.filter fun event => event.level.rank ≤ level.rank).map Event.line := by
  intro full
  obtain ⟨result, events, hcourse, hrun⟩ := exists_course w o
  have hout : ∀ filter, (Invocation.convert o).run w filter =
      .of result (Log.recordAll ⟨filter, []⟩ (settingsEvents o ++ events)) := by
    intro filter
    exact hrun ⟨filter, []⟩
  have hevents : ∀ filter, ((Invocation.convert o).run w filter).log.events =
      (settingsEvents o ++ events).filter (·.admittedBy filter) := by
    intro filter
    rw [hout filter, Outcome.log_of, Log.recordAll_eq, List.nil_append]
  have hfull : full.log.events = settingsEvents o ++ events := by
    rw [hevents LogFilter.full]
    apply List.filter_eq_self.mpr
    intro event _
    exact event.admittedBy_full
  have hof : full = .of result full.log := by
    simp only [full, hout, Outcome.log_of]
  refine ⟨?_, ?_, ?_, ?_⟩
  · rw [hof]
    exact hcourse.warned hfull
  · rw [hof]
    exact hcourse.told hfull
  · intro filter out
    have hsame : out.exitCode = full.exitCode ∧ out.stdout = full.stdout ∧ out.error = full.error := by
      simp only [out, full, hout]
      cases result <;> exact ⟨rfl, rfl, rfl⟩
    exact ⟨hsame.1, hsame.2.1, hsame.2.2, (hevents filter).trans (hfull ▸ rfl)⟩
  · intro level
    simp only [Log.lines, hevents, hfull, Event.admittedBy_upTo]

/-- A disjunction as the operator of a comparison, by the command's own settings. -/
example :
    let w : Surroundings := ⟨nowhere.readFile,
      .ok "\x7b\"type\": \"comparison\", \"key\": \"k\", \"op\": \"or\", \"value\": 1\x7d".toUTF8⟩
    ((Invocation.convert {}).run w (.upTo .info)).log.lines =
      ["INFO filterc: Converting filter expression for PgVector",
        "WARN filter_converter::renderer::expr: unsupported operator in filter expression " ++
          "operator=OR position=comparison"] := by
  simp only [Invocation.run, runConvert, resolveSettings, readExpression, readInput, decode,
    fromUTF8?_toUTF8, Except.ok_bind]
  decide +kernel

end Command

end FilterClause
