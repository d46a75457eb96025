import NamedParams.Program
import NamedParams.Proofs.Command.FoundFiles

namespace NamedParams

open NamedParams.CommandLine

section Logging

variable (config : Config) (logger other : Logger) (root : List String)

/-- Whether the same files are ready to be checked, whatever was logged on the way. -/
structure Loading.SameFiles (a b : Loading) : Prop where
  loaded : a.loaded = b.loaded
  session : a.session = b.session

theorem Loading.SameFiles.add {a b : Loading} (hsame : a.SameFiles b) (path : String) :
    (a.add config logger root path).SameFiles (b.add config other root path) := by
  rw [Loading.add, Loading.add, hsame.session]
  split
  · exact ⟨hsame.loaded, rfl⟩
  · dsimp only
    cases b.session.load (Path.resolve root path) with
    | none => exact ⟨hsame.loaded, rfl⟩
    | some session => exact ⟨by rw [hsame.loaded], rfl⟩

theorem Session.loadAll_sameFiles (session : Session) (paths : List String) :
    (session.loadAll config logger root paths).SameFiles
      (session.loadAll config other root paths) := by
  have hfold : ∀ a b : Loading, a.SameFiles b →
      (paths.foldl (fun loading path => loading.add config logger root path) a).SameFiles
        (paths.foldl (fun loading path => loading.add config other root path) b) := by
    induction paths with
    | nil => exact fun _ _ hsame => hsame
    | cons path rest ih => exact fun a b hsame => ih _ _ (hsame.add config logger other root path)
  exact hfold _ _ ⟨rfl, rfl⟩

variable (session : Session) (paths : List String)

theorem checkPaths_findings :
    let loading := session.loadAll config logger root paths
    (checkPaths config logger root session paths).1.findings =
      (findingsOf config (loading.session.checked config loading.loaded)).mergeSort Finding.le :=
  Detector.checkFiles_findings config logger
    ⟨(session.loadAll config logger root paths).session, 0⟩ _

theorem checkPaths_summary :
    let loading := session.loadAll config logger root paths
    let files := loading.session.checked config loading.loaded
    (checkPaths config logger root session paths).1.summary =
      Summary.ofFindings ((findingsOf config files).mergeSort Finding.le) files.length
        (functionCountOf config files) := by
  intro loading files
  have hsummary :=
    Detector.checkFiles_summary config logger ⟨loading.session, 0⟩ loading.loaded
  rw [Detector.checkFiles_findings] at hsummary
  exact hsummary

/-- What a check finds does not depend on who prints its messages. -/
theorem result_checkPaths_eq (time : String) :
    (checkPaths config logger root session paths).1.result config time =
      (checkPaths config other root session paths).1.result config time := by
  obtain ⟨hloaded, hsession⟩ := session.loadAll_sameFiles config logger other root paths
  rw [CheckReport.result, CheckReport.result, checkPaths_findings, checkPaths_findings,
    checkPaths_summary, checkPaths_summary, hloaded, hsession]

theorem checkPaths_total :
    (checkPaths config logger root session paths).1.summary.total =
      (checkPaths config logger root session paths).1.findings.length := by
  rw [checkPaths_summary, checkPaths_findings]
  rfl

end Logging

/-- What a check is to do, apart from how it shows what comes of it. -/
structure CheckTask where
  request : ConfigRequest
  directory : List String
  targets : List String
  tsconfig : Option String
  assertions : Option String

/-- How a check ends: at the first thing that goes wrong, or with a result. -/
inductive CheckEnd where
  | configFailed (failure : ConfigFailure)
  | targetsFailed (message : String)
  | nothingFound
  | settingsFailed (message : String)
  | analyzed (result : CheckResult)

/-- The status that tells of an end. -/
def CheckEnd.status : CheckEnd → Nat
  | configFailed _ => 1
  | targetsFailed _ => 2
  | nothingFound => 4
  | settingsFailed _ => 4
  | analyzed result => if result.findings = [] then 0 else 1

/-- What is wrong with the settings of the compiler that a configuration names. -/
def Config.complaint? (config : Config) (tree : FileTree) : Option String :=
  (config.tsconfigPath.filter (· != "")).bind (CompilerSettings.complaint? tree)

namespace CheckTask

/-- The configuration that a check goes by, with what the command line replaces. -/
def config (task : CheckTask) (root : List String) (loaded : LoadedConfig) : Config :=
  loaded.config.override root (Path.absolute task.directory) task.tsconfig task.assertions

/-- What the check of some files comes to when nothing is printed. -/
def result (tree : FileTree) (root : List String) (time : String) (config : Config)
    (files : List String) : CheckResult :=
  (checkPaths config ⟨false, true, false⟩ root ⟨[], tree⟩ files).1.result config time

theorem result_total (tree : FileTree) (root : List String) (time : String) (config : Config)
    (files : List String) : (result tree root time config files).summary.total =
      (result tree root time config files).findings.length :=
  checkPaths_total config _ root _ files

/-- How a check ends in a file tree, with the stages in their order: the configuration is loaded,
    files are searched for, the settings of the compiler are read, and the files are checked. -/
inductive Ends (task : CheckTask) (tree : FileTree) (root : List String) (time : String) :
    CheckEnd → Prop where
  | configFails {failure : ConfigFailure}
    (hload : (ConfigLoader.start.load tree root task.request).1 = .error failure) :
    Ends task tree root time (.configFailed failure)
  | targetsFail {loaded : LoadedConfig} {message : String}
    (hload : (ConfigLoader.start.load tree root task.request).1 = .ok loaded)
    (hfiles : filesToCheck tree root task.targets (task.config root loaded) task.directory =
      .error message) :
    Ends task tree root time (.targetsFailed message)
  | nothingFound {loaded : LoadedConfig}
    (hload : (ConfigLoader.start.load tree root task.request).1 = .ok loaded)
    (hfiles : filesToCheck tree root task.targets (task.config root loaded) task.directory =
      .ok []) :
    Ends task tree root time .nothingFound
  | settingsFail {loaded : LoadedConfig} {files : List String} {message : String}
    (hload : (ConfigLoader.start.load tree root task.request).1 = .ok loaded)
    (hfiles : filesToCheck tree root task.targets (task.config root loaded) task.directory =
      .ok files)
    (hsome : files ≠ [])
    (hsettings : (task.config root loaded).complaint? tree = some message) :
    Ends task tree root time (.settingsFailed message)
  | analyzes {loaded : LoadedConfig} {files : List String}
    (hload : (ConfigLoader.start.load tree root task.request).1 = .ok loaded)
    (hfiles : filesToCheck tree root task.targets (task.config root loaded) task.directory =
      .ok files)
    (hsome : files ≠ [])
    (hsettings : (task.config root loaded).complaint? tree = none) :
    Ends task tree root time (.analyzed (result tree root time (task.config root loaded) files))

variable (task : CheckTask) (tree : FileTree) (root : List String) (time : String)

theorem exists_ends : ∃ ending, task.Ends tree root time ending := by
  cases hload : (ConfigLoader.start.load tree root task.request).1 with
  | error failure => exact ⟨_, .configFails hload⟩
  | ok loaded =>
    cases hfiles : filesToCheck tree root task.targets (task.config root loaded)
        task.directory with
    | error message => exact ⟨_, .targetsFail hload hfiles⟩
    | ok files =>
      by_cases hnone : files = []
      · subst hnone
        exact ⟨_, .nothingFound hload hfiles⟩
      · cases hsettings : (task.config root loaded).complaint? tree with
        | some message => exact ⟨_, .settingsFail hload hfiles hnone hsettings⟩
        | none => exact ⟨_, .analyzes hload hfiles hnone hsettings⟩

variable {task tree root time}

/-- At most one stage is the first to fail, and there is at most one result. -/
theorem Ends.unique {ending other : CheckEnd} (hending : task.Ends tree root time ending)
    (hother : task.Ends tree root time other) : ending = other := by
  cases hending <;> cases hother <;> grind

end CheckTask

/-- The status that an ending stands for. The error that a command does not handle is one without
    a kind. -/
inductive CommandEnding.Gives : CommandEnding → Nat → Prop where
  | completed (status : Nat) : Gives (.completed status) status
  | stopped (status : Nat) : Gives (.stopped status) status
  | broken (message : String) : Gives (.broken (.ofMessage message)) 1

section Showing

variable (options : CheckOptions) (environment : Environment) (result : CheckResult)
  (log : List Entry)

/-- Without findings there is no table, so nothing can go wrong in it. -/
theorem exists_format_of_no_findings (presentation : Presentation) (hnone : result.findings = []) :
    ∃ text, result.format presentation = .ok text := by
  rw [CheckResult.format, Presentation.render]
  split
  · exact ⟨_, rfl⟩
  · split
    · exact ⟨_, rfl⟩
    · have hshown : takeLimited presentation.limit result.findings = [] := by
        rw [hnone]
        cases presentation.limit <;> simp [takeLimited]
      rw [Presentation.full, hshown]
      exact ⟨_, rfl⟩

theorem exists_showResult_of_no_findings (htotal : result.summary.total = result.findings.length)
    (hnone : result.findings = []) :
    ∃ text, result.format (options.presentation environment) = .ok text ∧
      showResult options environment result log = ⟨log ++ [⟨.out, text⟩], .completed 0⟩ := by
  obtain ⟨text, htext⟩ :=
    exists_format_of_no_findings result (options.presentation environment) hnone
  have hzero : ¬ 0 < result.summary.total := by simp [htotal, hnone]
  refine ⟨text, htext, ?_⟩
  rw [showResult]
  simp only [htext, if_neg hzero]

/-- With findings the status is one, also when they cannot be shown. -/
theorem showResult_gives_of_findings (htotal : result.summary.total = result.findings.length)
    (hsome : result.findings ≠ []) :
    (showResult options environment result log).ending.Gives 1 := by
  have hpositive : 0 < result.summary.total := by
    rw [htotal]
    exact List.length_pos_iff.mpr hsome
  rw [showResult]
  cases result.format (options.presentation environment) with
  | error error => exact .broken error.message
  | ok text =>
    simp only [if_pos hpositive]
    exact .completed 1

theorem showResult_gives (htotal : result.summary.total = result.findings.length) :
    (showResult options environment result log).ending.Gives (CheckEnd.analyzed result).status := by
  rw [CheckEnd.status]
  split
  · rename_i hnone
    obtain ⟨text, -, hshow⟩ :=
      exists_showResult_of_no_findings options environment result log htotal hnone
    rw [hshow]
    exact .completed 0
  · rename_i hsome
    exact showResult_gives_of_findings options environment result log htotal hsome

end Showing

section Stages

variable {tree : FileTree} {root : List String} (time : String) (options : CheckOptions)
  (environment : Environment)

/-- Who reports the failures of a check. -/
def CheckOptions.errorLogger (options : CheckOptions) (environment : Environment) : Logger :=
  ⟨options.isVerbose, false, environment.logger.color⟩

/-- What is printed until it is known which files are to be checked. -/
def CheckOptions.foundLog (options : CheckOptions) (files : List String) : List Entry :=
  options.started "Finding TypeScript files..." ++
    options.done ("Found " ++ toString files.length ++ " TypeScript files") ++
    options.started "Checking named parameters..."

theorem runCheck_of_targetsFail {message : String}
    (hfiles : filesToCheck tree root options.paths (options.config environment root)
      environment.directory = .error message) :
    runCheck tree root time options environment =
      .stop (options.started "Finding TypeScript files..." ++
          options.failed "Could not read target paths")
        (Failure.ofThrown .fileNotAccessible (.ofMessage message))
        (options.errorLogger environment) := by
  rw [CheckOptions.config] at hfiles
  simp only [runCheck, hfiles]
  rfl

theorem runCheck_of_nothingFound
    (hfiles : filesToCheck tree root options.paths (options.config environment root)
      environment.directory = .ok []) :
    runCheck tree root time options environment =
      .stop (options.started "Finding TypeScript files..." ++
          options.failed "No TypeScript files found")
        (noFiles options.paths) (options.errorLogger environment) := by
  rw [CheckOptions.config] at hfiles
  simp only [runCheck, hfiles]
  rfl

theorem runCheck_of_settingsFail {files : List String} {message : String}
    (hfiles : filesToCheck tree root options.paths (options.config environment root)
      environment.directory = .ok files) (hsome : files ≠ [])
    (hsettings : (options.config environment root).complaint? tree = some message) :
    runCheck tree root time options environment =
      .stop (options.foundLog files ++ options.failed "Could not load TypeScript configuration")
        (Failure.ofThrown .typeScriptConfig (.ofMessage message))
        (options.errorLogger environment) := by
  obtain ⟨first, rest, rfl⟩ := List.exists_cons_of_ne_nil hsome
  rw [Config.complaint?] at hsettings
  rw [CheckOptions.config] at hfiles hsettings
  simp only [runCheck, hfiles, hsettings]
  rfl

/-- When nothing fails before, files are checked, and the result is shown. -/
theorem runCheck_of_analyzed {files : List String}
    (hfiles : filesToCheck tree root options.paths (options.config environment root)
      environment.directory = .ok files) (hsome : files ≠ [])
    (hsettings : (options.config environment root).complaint? tree = none) :
    runCheck tree root time options environment = showResult options environment
      (CheckTask.result tree root time (options.config environment root) files)
      (options.foundLog files ++ (options.report environment tree root files).log ++
        options.done "Analysis complete") := by
  obtain ⟨first, rest, rfl⟩ := List.exists_cons_of_ne_nil hsome
  rw [Config.complaint?] at hsettings
  rw [CheckTask.result, result_checkPaths_eq _ _ environment.logger]
  rw [CheckOptions.config] at hfiles hsettings ⊢
  simp only [runCheck, hfiles, hsettings]
  rfl

end Stages

section Command

variable {tree : FileTree} {root : List String} {color : Bool} {shared : ProgramOptions}
  {options : OutputOptions} (command : Environment → CommandRun)

theorem runCommand_of_failure {failure : ConfigFailure}
    (hload : (ConfigLoader.start.load tree root (shared.request root)).1 = .error failure) :
    runCommand tree root color shared options command =
      .stop [] (Failure.ofThrown .unknown failure.thrown)
        ⟨shared.verbose.getD false, false, color⟩ := by
  have hcreate : Environment.create tree root color shared options = .error failure := by
    rw [Environment.create, hload]
    rfl
  simp only [runCommand, hcreate]

theorem runCommand_status_of_failure {failure : ConfigFailure}
    (hload : (ConfigLoader.start.load tree root (shared.request root)).1 = .error failure) :
    (runCommand tree root color shared options command).status = 1 := by
  rw [runCommand_of_failure command hload]
  cases failure <;> rfl

/-- What a command runs in once the configuration is loaded. -/
def environmentOf (root : List String) (color : Bool) (shared : ProgramOptions)
    (options : OutputOptions) (loaded : LoadedConfig) : Environment :=
  let options := options.withShared shared
  { config := loaded
    directory := shared.place root
    programLogger := ⟨shared.verbose.getD false, shared.quiet.getD false || options.json, color⟩
    logger := ⟨options.verbose.getD false, options.quiet.getD false || options.json, color⟩ }

theorem create_eq_environmentOf {loaded : LoadedConfig}
    (hload : (ConfigLoader.start.load tree root (shared.request root)).1 = .ok loaded) :
    Environment.create tree root color shared options =
      .ok (environmentOf root color shared options loaded) := by
  rw [Environment.create, hload]
  rfl

/-- The status that a command gives is that of the program, also when the command breaks off. -/
theorem runCommand_status {loaded : LoadedConfig} {status : Nat}
    (hload : (ConfigLoader.start.load tree root (shared.request root)).1 = .ok loaded)
    (hgives : (command (environmentOf root color shared options loaded)).ending.Gives status) :
    (runCommand tree root color shared options command).status = status := by
  simp only [runCommand, create_eq_environmentOf hload, CommandRun.status]
  generalize (command (environmentOf root color shared options loaded)).ending = ending at hgives
  cases hgives <;> rfl

theorem runCommand_of_completed {loaded : LoadedConfig} {log : List Entry} {status : Nat}
    (hload : (ConfigLoader.start.load tree root (shared.request root)).1 = .ok loaded)
    (hrun : command (environmentOf root color shared options loaded) = ⟨log, .completed status⟩) :
    runCommand tree root color shared options command =
      ⟨(environmentOf root color shared options loaded).announcement ++ log,
        .completed status⟩ := by
  simp only [runCommand, create_eq_environmentOf hload, hrun]

end Command

theorem messages_out_append (log : List Entry) (text : String) :
    Output.messages .out (log ++ [⟨.out, text⟩]) = Output.messages .out log ++ (text ++ "\n") := by
  simp [Output.messages, List.filter_append, String.join_append]

namespace Program

section Status

variable (tree : FileTree) (root : List String) (color : Bool) (time : String)
  {arguments operands : List String} (global own : Arguments)

/-- What a command line for a check asks for, apart from how the result is shown. -/
def taskOf (operands : List String) : CheckTask :=
  { request := (programOptions global).request root
    directory := (programOptions global).place root
    targets := operands
    tsconfig := own.value? "--tsconfig"
    assertions := own.value? "--assert" }

/-- How a command line for a check wants the result to be shown. -/
def presentationOf : Presentation :=
  { json := own.isSet "--json"
    verbose := (programOptions global).verbose.getD false
    quiet := (programOptions global).quiet.getD false
    limit := ((own.value? "--max-findings").bind positiveArgument?).map Int.ofNat
    directory := (programOptions global).place root
    color }

/-- The options of a check, as the command gets them. -/
def checkOptionsOf (operands : List String) : CheckOptions :=
  { paths := operands
    output := OutputOptions.withShared ⟨none, none, own.isSet "--json"⟩ (programOptions global)
    tsconfig := own.value? "--tsconfig"
    assertions := own.value? "--assert"
    maxFindings := own.value? "--max-findings" }

variable {tree root color time global own}

theorem run_check_eq (hparse : info.parse arguments = .run check global own operands) :
    run tree root color time arguments =
      .ofRun (runCommand tree root color (programOptions global) ⟨none, none, own.isSet "--json"⟩
        (runCheck tree root time (checkOptionsOf global own operands))) := by
  rw [run, hparse]
  rfl

/-- The environment of a check once its configuration is loaded. -/
def checkEnvironment (root : List String) (color : Bool) (global own : Arguments)
    (loaded : LoadedConfig) : Environment :=
  environmentOf root color (programOptions global) ⟨none, none, own.isSet "--json"⟩ loaded

theorem status_run_check (hparse : info.parse arguments = .run check global own operands)
    {ending : CheckEnd} (hends : (taskOf root global own operands).Ends tree root time ending) :
    (run tree root color time arguments).status = ending.status := by
  let options := checkOptionsOf global own operands
  let environment := checkEnvironment root color global own
  rw [run_check_eq hparse]
  have hstatus {loaded : LoadedConfig} {run : CommandRun} {status : Nat}
      (hload : (ConfigLoader.start.load tree root
        (taskOf root global own operands).request).1 = .ok loaded)
      (hrun : runCheck tree root time options (environment loaded) = run)
      (hgives : run.ending.Gives status) :
      (runCommand tree root color (programOptions global) ⟨none, none, own.isSet "--json"⟩
        (runCheck tree root time options)).status = status :=
    runCommand_status _ hload (hrun ▸ hgives)
  cases hends with
  | configFails hload => exact runCommand_status_of_failure _ hload
  | @targetsFail loaded message hload hfiles =>
    have hrun := runCheck_of_targetsFail time options (environment loaded) hfiles
    exact hstatus hload hrun (.stopped 2)
  | @nothingFound loaded hload hfiles =>
    have hrun := runCheck_of_nothingFound time options (environment loaded) hfiles
    exact hstatus hload hrun (.stopped 4)
  | @settingsFail loaded files message hload hfiles hsome hsettings =>
    have hrun :=
      runCheck_of_settingsFail time options (environment loaded) hfiles hsome hsettings
    exact hstatus hload hrun (.stopped 4)
  | @analyzes loaded files hload hfiles hsome hsettings =>
    have hrun := runCheck_of_analyzed time options (environment loaded) hfiles hsome hsettings
    exact hstatus hload hrun (showResult_gives options (environment loaded) _ _
      (CheckTask.result_total tree root time _ files))

/-- A result without findings is printed, behind whatever has been printed before. -/
theorem exists_report_of_no_findings
    (hparse : info.parse arguments = .run check global own operands) {result : CheckResult}
    (hends : (taskOf root global own operands).Ends tree root time (.analyzed result))
    (hnone : result.findings = []) :
    ∃ text, result.format (presentationOf root color global own) = .ok text ∧
      ∃ before, (run tree root color time arguments).out = before ++ text ++ "\n" := by
  let options := checkOptionsOf global own operands
  let environment := checkEnvironment root color global own
  cases hends with
  | @analyzes loaded files hload hfiles hsome hsettings =>
    have hrun := runCheck_of_analyzed time options (environment loaded) hfiles hsome hsettings
    obtain ⟨text, htext, hshow⟩ := exists_showResult_of_no_findings options (environment loaded) _
      _ (CheckTask.result_total tree root time (options.config (environment loaded) root) files)
      hnone
    refine ⟨text, htext, ?_⟩
    rw [run_check_eq hparse, runCommand_of_completed _ hload (hrun.trans hshow), Output.ofRun]
    rw [← List.append_assoc, messages_out_append, ← String.append_assoc]
    exact ⟨_, rfl⟩

end Status

/-- A check ends in exactly one way, with the first of its stages that fails or with a result, and
    the way it ends decides the status: one when the configuration cannot be loaded, two when the
    targets cannot be read, four when no file is found or the settings of the compiler cannot be
    used, and else one if there are findings. How the result is to be shown has no part in it. The
    status is zero exactly when a result without findings is printed, and findings never end in
    zero, even if they cannot be shown. A configuration that is a program is outside of the model,
    and is among those that cannot be loaded (`ConfigFile.readFormat`). -/
theorem run_check_status (tree : FileTree) (root : List String) (color : Bool) (time : String)
    {arguments operands : List String} {global own : Arguments}
    (hparse : info.parse arguments = .run check global own operands) :
    let task := taskOf root global own operands
    let output := run tree root color time arguments
    ∃ ending, task.Ends tree root time ending ∧
      (∀ other, task.Ends tree root time other → other = ending) ∧
      output.status = ending.status ∧
      (output.status = 0 ↔ ∃ result, task.Ends tree root time (.analyzed result) ∧
        result.findings = [] ∧
        ∃ text, result.format (presentationOf root color global own) = .ok text ∧
          ∃ before, output.out = before ++ text ++ "\n") ∧
      ∀ result, task.Ends tree root time (.analyzed result) → result.findings ≠ [] →
        output.status = 1 := by
  intro task output
  obtain ⟨ending, hends⟩ := task.exists_ends tree root time
  have hstatus : output.status = ending.status := status_run_check hparse hends
  refine ⟨ending, hends, fun other hother => hother.unique hends, hstatus, ⟨?_, ?_⟩, ?_⟩
  · intro hzero
    rw [hstatus] at hzero
    cases ending with
    | configFailed failure => contradiction
    | targetsFailed message => contradiction
    | nothingFound => contradiction
    | settingsFailed message => contradiction
    | analyzed result =>
      have hnone : result.findings = [] := by
        by_contra hsome
        rw [CheckEnd.status, if_neg hsome] at hzero
        contradiction
      exact ⟨result, hends, hnone, exists_report_of_no_findings hparse hends hnone⟩
  · rintro ⟨result, hresult, hnone, -⟩
    rw [status_run_check hparse hresult, CheckEnd.status, if_pos hnone]
  · intro result hresult hsome
    rw [status_run_check hparse hresult, CheckEnd.status, if_neg hsome]

/-- A project with one function that asserts a parameter that is not marked. -/
def unmarkedProject : FileTree :=
  ⟨[(["p", "src", "a.ts"], "function f({a}){assert(a!=null)}")], []⟩

theorem run_check_status_of_unmarkedProject :
    ∃ global own, info.parse ["--no-config", "check"] = .run check global own [] ∧
      (∃ result, (taskOf ["p"] global own []).Ends unmarkedProject ["p"] "" (.analyzed result) ∧
        result.findings.length = 1) ∧
      (run unmarkedProject ["p"] false "" ["--no-config", "check"]).status = 1 := by
  let global : Arguments := ⟨[("--no-config", none)], ["check"], []⟩
  let task := taskOf ["p"] global .none []
  have hparse : info.parse ["--no-config", "check"] = .run check global .none [] := by
    decide +kernel
  have hload : (ConfigLoader.start.load unmarkedProject ["p"] task.request).1 =
      .ok ⟨Config.default, none⟩ := rfl
  have hfiles : filesToCheck unmarkedProject ["p"] task.targets
      (task.config ["p"] ⟨Config.default, none⟩) task.directory = .ok ["/p/src/a.ts"] := by
    decide +kernel
  have hends : task.Ends unmarkedProject ["p"] "" (.analyzed (CheckTask.result unmarkedProject ["p"]
      "" (task.config ["p"] ⟨Config.default, none⟩) ["/p/src/a.ts"])) :=
    .analyzes hload hfiles (List.cons_ne_nil _ _) rfl
  have hlength : (CheckTask.result unmarkedProject ["p"] ""
      (task.config ["p"] ⟨Config.default, none⟩) ["/p/src/a.ts"]).findings.length = 1 := by
    rw [CheckTask.result, CheckReport.result, checkPaths_findings, List.length_mergeSort]
    decide +kernel
  obtain ⟨-, -, -, -, -, hone⟩ := run_check_status unmarkedProject ["p"] false "" hparse
  refine ⟨global, .none, hparse, ⟨_, hends, hlength⟩, hone _ hends ?_⟩
  exact List.length_pos_iff.mp (hlength ▸ Nat.one_pos)

end Program

end NamedParams
