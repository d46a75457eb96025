import NamedParams.Proofs.Command.ExitStatus

namespace NamedParams

open NamedParams.CommandLine

section Quiet

variable {logger : Logger} (hquiet : logger.quiet = true)
include hquiet

theorem Logger.message_of_quiet (level : Level) (text : String) (detail : Option Detail) :
    logger.message level text detail = [] := by
  rw [Logger.message, hquiet, Bool.true_or, if_pos rfl]

variable (config : Config) (root : List String)

theorem Loading.add_log_of_quiet (loading : Loading) (path : String) :
    (loading.add config logger root path).log = loading.log := by
  rw [Loading.add]
  split
  · rw [Logger.debug, Logger.message_of_quiet hquiet, List.append_nil]
  · dsimp only
    split
    · rfl
    · rw [Logger.message_of_quiet hquiet, List.append_nil]

theorem Session.loadAll_log_of_quiet (session : Session) (paths : List String) :
    (session.loadAll config logger root paths).log = [] := by
  have hfold (loading : Loading) :
      (paths.foldl (fun loading path => loading.add config logger root path) loading).log =
        loading.log := by
    induction paths generalizing loading with
    | nil => rfl
    | cons path rest ih =>
      rw [List.foldl_cons, ih, Loading.add_log_of_quiet hquiet]
  exact hfold _

theorem Tally.add_log_of_quiet (tally : Tally) (detector : Detector) (path : String) :
    (tally.add config logger detector path).1.log = tally.log := by
  rw [Tally.add]
  split
  · rfl
  · dsimp only [Detector.checkOne]
    rw [checkedMessage, Logger.debug, Logger.message_of_quiet hquiet, List.append_nil]

theorem tallyFiles_log_of_quiet (paths : List String) (tally : Tally) (detector : Detector) :
    (tallyFiles config logger paths (tally, detector)).1.log = tally.log := by
  induction paths generalizing tally detector with
  | nil => rfl
  | cons path rest ih =>
    rw [tallyFiles]
    split
    · exact ih tally detector
    · exact (ih _ _).trans (Tally.add_log_of_quiet hquiet config tally detector path)

/-- Who is quiet says nothing about the files that are checked. -/
theorem checkPaths_log_of_quiet (session : Session) (paths : List String) :
    (checkPaths config logger root session paths).1.log = [] := by
  let loading := session.loadAll config logger root paths
  have hlog : (checkPaths config logger root session paths).1.log = loading.log ++
      (tallyFiles config logger loading.loaded (Tally.empty, ⟨loading.session, 0⟩)).1.log := rfl
  rw [hlog, Session.loadAll_log_of_quiet hquiet, tallyFiles_log_of_quiet hquiet]
  rfl

end Quiet

section Options

variable {options : CheckOptions} (hjson : options.output.json = true)
include hjson

/-- Next to data, nothing tells how far a check has come. -/
theorem CheckOptions.silent_of_json (text : String) :
    options.started text = [] ∧ options.done text = [] ∧ options.failed text = [] := by
  simp [started, done, failed, hjson]

theorem CheckOptions.foundLog_of_json (files : List String) : options.foundLog files = [] := by
  simp [foundLog, silent_of_json hjson]

/-- A document can always be shown, and nothing is printed behind it. -/
theorem showResult_of_json (environment : Environment) (result : CheckResult)
    (htotal : result.summary.total = result.findings.length) :
    showResult options environment result [] =
      ⟨[⟨.out, result.toJson.pretty⟩], .completed (CheckEnd.analyzed result).status⟩ := by
  have hformat : result.format (options.presentation environment) = .ok result.toJson.pretty := by
    rw [CheckResult.format, Presentation.render, CheckOptions.presentation, if_pos hjson]
  have hsteps : options.nextSteps (options.presentation environment).color = [] := by
    rw [CheckOptions.nextSteps, hjson, Bool.or_true, if_pos rfl]
  simp only [showResult, hformat, hsteps, htotal, CheckEnd.status, List.length_pos_iff]
  split <;> simp_all

end Options

/-- What is printed for an end of a check when data is asked for: the result as a document, or what
    is reported about the failure. -/
def CheckEnd.dataRun (targets : List String) (logger : Logger) : CheckEnd → CommandRun
  | configFailed failure => .stop [] (Failure.ofThrown .unknown failure.thrown) logger
  | targetsFailed message =>
    .stop [] (Failure.ofThrown .fileNotAccessible (.ofMessage message)) logger
  | nothingFound => .stop [] (noFiles targets) logger
  | settingsFailed message =>
    .stop [] (Failure.ofThrown .typeScriptConfig (.ofMessage message)) logger
  | analyzed result =>
    ⟨[⟨.out, result.toJson.pretty⟩], .completed (CheckEnd.analyzed result).status⟩

section Command

variable {tree : FileTree} {root : List String} {color : Bool} {shared : ProgramOptions}
  {options : OutputOptions} (command : Environment → CommandRun)

/-- Nobody but the reports of failures says anything next to data. -/
theorem environmentOf_quiet (hjson : options.json = true) (loaded : LoadedConfig) :
    (environmentOf root color shared options loaded).programLogger.quiet = true ∧
      (environmentOf root color shared options loaded).logger.quiet = true := by
  simp [environmentOf, OutputOptions.withShared, hjson]

/-- A command that prints data prints all there is, unless it breaks off. -/
theorem runCommand_of_json (hjson : options.json = true) {loaded : LoadedConfig}
    (hload : (ConfigLoader.start.load tree root (shared.request root)).1 = .ok loaded)
    (hhandled : ∀ cause, (command (environmentOf root color shared options loaded)).ending ≠
      .broken cause) :
    runCommand tree root color shared options command =
      command (environmentOf root color shared options loaded) := by
  have hquiet : (environmentOf root color shared options loaded).announcement = [] := by
    rw [Environment.announcement, Logger.debug,
      Logger.message_of_quiet (environmentOf_quiet hjson loaded).1]
  simp only [runCommand, create_eq_environmentOf hload, hquiet, List.nil_append]

end Command

namespace Program

section Data

variable (tree : FileTree) (root : List String) (color : Bool) (time : String)

/-- What the run of a command line with a command comes to. -/
def commandRun (command : CommandInfo) (global own : Arguments) (operands : List String) :
    CommandRun :=
  let output : OutputOptions := ⟨none, none, own.isSet "--json"⟩
  runCommand tree root color (programOptions global) output
    (commandOf tree root time command (output.withShared (programOptions global)) own operands)

variable {tree root color time} {command : CommandInfo} {global own : Arguments}
  {arguments operands : List String}

theorem run_eq_commandRun (hparse : info.parse arguments = .run command global own operands) :
    run tree root color time arguments =
      .ofRun (commandRun tree root color time command global own operands) := by
  rw [run, hparse]
  rfl

/-- Who reports the failures of a command line. -/
def errorLoggerOf (color : Bool) (global : Arguments) : Logger :=
  ⟨(programOptions global).verbose.getD false, false, color⟩

/-- With `--json`, the end of a check decides what is printed. -/
theorem commandRun_check_of_json (hjson : own.isSet "--json" = true) {ending : CheckEnd}
    (hends : (taskOf root global own operands).Ends tree root time ending) :
    commandRun tree root color time check global own operands =
      ending.dataRun operands (errorLoggerOf color global) := by
  let options := checkOptionsOf global own operands
  let environment := checkEnvironment root color global own
  have hcheck : commandRun tree root color time check global own operands =
      runCommand tree root color (programOptions global) ⟨none, none, own.isSet "--json"⟩
        (runCheck tree root time options) := rfl
  have hhandled {loaded : LoadedConfig} {run : CommandRun}
      (hload : (ConfigLoader.start.load tree root
        (taskOf root global own operands).request).1 = .ok loaded)
      (hrun : runCheck tree root time options (environment loaded) = run)
      (hending : ∀ cause, run.ending ≠ .broken cause) :
      commandRun tree root color time check global own operands = run := by
    rw [← hrun] at hending ⊢
    exact runCommand_of_json _ hjson hload hending
  have hsilent := CheckOptions.silent_of_json (show options.output.json = true from hjson)
  cases hends with
  | configFails hload => exact runCommand_of_failure _ hload
  | @targetsFail loaded message hload hfiles =>
    have hrun := runCheck_of_targetsFail time options (environment loaded) hfiles
    rw [(hsilent _).1, (hsilent _).2.2] at hrun
    exact hhandled hload hrun nofun
  | @nothingFound loaded hload hfiles =>
    have hrun := runCheck_of_nothingFound time options (environment loaded) hfiles
    rw [(hsilent _).1, (hsilent _).2.2] at hrun
    exact hhandled hload hrun nofun
  | @settingsFail loaded files message hload hfiles hsome hsettings =>
    have hrun :=
      runCheck_of_settingsFail time options (environment loaded) hfiles hsome hsettings
    rw [CheckOptions.foundLog_of_json hjson files, (hsilent _).2.2] at hrun
    exact hhandled hload hrun nofun
  | @analyzes loaded files hload hfiles hsome hsettings =>
    have hquiet : (environment loaded).logger.quiet = true := (environmentOf_quiet hjson loaded).2
    have hrun := runCheck_of_analyzed time options (environment loaded) hfiles hsome hsettings
    rw [CheckOptions.foundLog_of_json hjson files, (hsilent _).2.1, CheckOptions.report,
      checkPaths_log_of_quiet hquiet, List.append_nil, List.append_nil,
      showResult_of_json hjson _ _ (CheckTask.result_total tree root time _ files)] at hrun
    exact hhandled hload hrun nofun

end Data

end Program

end NamedParams
