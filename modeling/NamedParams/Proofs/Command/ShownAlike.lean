import NamedParams.Proofs.Command.DataRuns
import NamedParams.Proofs.Json.RoundTrip

namespace NamedParams

open NamedParams.CommandLine

/-- The document of a result, when it is read, holds every finding in its place. -/
theorem CheckResult.get?_findings_reread (result : CheckResult) :
    result.toJson.reread.get? "findings" =
      some (.array (result.findings.map fun finding => finding.toJson.reread)) := by
  have hfirst : result.toJson.reread.get? "findings" =
      some (Json.array (result.findings.map Finding.toJson)).reread := rfl
  rw [hfirst, Json.reread, Json.rereadElements_eq_map, List.map_map]
  rfl

namespace CommandLine.Arguments

/-- The options that only tell how a result is shown. -/
def presentationOptions : List String :=
  ["--json", "--max-findings", "--verbose", "--quiet", "--no-color"]

/-- What some arguments set, apart from how a result is shown. -/
def taskSettings (arguments : Arguments) : List (String × Option String) :=
  arguments.settings.filter fun setting => setting.1 ∉ presentationOptions

variable {arguments other : Arguments}

theorem last?_eq_taskSettings (arguments : Arguments) {names : List String}
    (hnames : ∀ name ∈ names, name ∉ presentationOptions) :
    arguments.last? names =
      arguments.taskSettings.reverse.find? fun setting => names.contains setting.1 := by
  rw [last?, taskSettings, ← List.filter_reverse, List.find?_filter]
  congr 1
  funext setting
  have hsetting := hnames setting.1
  rw [Bool.eq_iff_iff]
  simp only [List.contains_iff_mem, decide_eq_true_eq]
  exact ⟨fun hmem => ⟨hsetting hmem, hmem⟩, And.right⟩

/-- Arguments that set the same task have the same last setting among its options. -/
theorem last?_congr (hsame : arguments.taskSettings = other.taskSettings) {names : List String}
    (hnames : ∀ name ∈ names, name ∉ presentationOptions) :
    arguments.last? names = other.last? names := by
  rw [last?_eq_taskSettings _ hnames, last?_eq_taskSettings _ hnames, hsame]

theorem value?_congr (hsame : arguments.taskSettings = other.taskSettings) {name : String}
    (hname : name ∉ presentationOptions) : arguments.value? name = other.value? name := by
  rw [value?, value?, last?_congr hsame (List.forall_mem_singleton.mpr hname)]

end CommandLine.Arguments

/-- An end at another time, which is written into the result and changes nothing else. -/
def CheckEnd.atTime (time : String) : CheckEnd → CheckEnd
  | .analyzed result => .analyzed { result with timestamp := time }
  | ending => ending

theorem CheckEnd.atTime_status (time : String) (ending : CheckEnd) :
    (ending.atTime time).status = ending.status := by
  cases ending <;> rfl

theorem CheckTask.Ends.atTime {task : CheckTask} {tree : FileTree} {root : List String}
    {time : String} {ending : CheckEnd} (hends : task.Ends tree root time ending)
    (other : String) : task.Ends tree root other (ending.atTime other) := by
  cases hends with
  | configFails hload => exact .configFails hload
  | targetsFail hload hfiles => exact .targetsFail hload hfiles
  | nothingFound hload hfiles => exact .nothingFound hload hfiles
  | settingsFail hload hfiles hsome hsettings => exact .settingsFail hload hfiles hsome hsettings
  | analyzes hload hfiles hsome hsettings => exact .analyzes hload hfiles hsome hsettings

namespace Program

section SameTask

variable {global own global' own' : Arguments}
  (hglobal : global.taskSettings = global'.taskSettings)
  (hown : own.taskSettings = own'.taskSettings)
include hglobal

theorem programOptions_congr :
    (programOptions global).config = (programOptions global').config ∧
      (programOptions global).directory = (programOptions global').directory := by
  constructor
  · rw [programOptions, programOptions]
    dsimp only
    rw [configChoice, configChoice, Arguments.last?_congr hglobal (by decide)]
  · exact Arguments.value?_congr hglobal (by decide)

include hown in
theorem taskOf_congr (root : List String) (operands : List String) :
    taskOf root global own operands = taskOf root global' own' operands := by
  obtain ⟨hconfig, hdirectory⟩ := programOptions_congr hglobal
  rw [taskOf, taskOf, ProgramOptions.request, ProgramOptions.request, ProgramOptions.place,
    ProgramOptions.place, hconfig, hdirectory, Arguments.value?_congr hown (by decide),
    Arguments.value?_congr hown (by decide)]

end SameTask

/-- Two command lines for a check that set the same apart from how the result is shown: they end
    with the same status, whatever the colors and the time. If both ask for data, one of them comes
    to its end exactly when the other does, and then both print the same and nothing else: the
    document of the result, with every finding in it. A configuration that is a program is outside
    of the model, and fails to load for both (`ConfigFile.readFormat`). -/
theorem run_check_shown_alike (tree : FileTree) (root : List String) (color color' : Bool)
    (time time' : String) {arguments arguments' operands : List String}
    {global own global' own' : Arguments}
    (hparse : info.parse arguments = .run check global own operands)
    (hparse' : info.parse arguments' = .run check global' own' operands)
    (hglobal : global.taskSettings = global'.taskSettings)
    (hown : own.taskSettings = own'.taskSettings) :
    (run tree root color time arguments).status = (run tree root color' time' arguments').status ∧
    (own.isSet "--json" = true → own'.isSet "--json" = true →
      let shown := commandRun tree root color time check global own operands
      let shown' := commandRun tree root color' time check global' own' operands
      run tree root color time arguments = .ofRun shown ∧
      run tree root color' time arguments' = .ofRun shown' ∧
      (shown.IsCompleted ↔ shown'.IsCompleted) ∧
      (shown.IsCompleted → shown.log = shown'.log ∧
        ∃ result, (taskOf root global own operands).Ends tree root time (.analyzed result) ∧
          shown.log = [⟨.out, result.toJson.pretty⟩] ∧
          ∃ document, Json.parse result.toJson.pretty = some document ∧
            document.get? "findings" =
              some (.array (result.findings.map fun finding => finding.toJson.reread)))) := by
  have htask := taskOf_congr hglobal hown root operands
  obtain ⟨ending, hends⟩ := (taskOf root global own operands).exists_ends tree root time
  have hends' := htask ▸ hends
  constructor
  · rw [status_run_check hparse hends, status_run_check hparse' (hends'.atTime time'),
      CheckEnd.atTime_status]
  · intro hjson hjson' shown shown'
    have hshown : shown = ending.dataRun operands (errorLoggerOf color global) :=
      commandRun_check_of_json hjson hends
    have hshown' : shown' = ending.dataRun operands (errorLoggerOf color' global') :=
      commandRun_check_of_json hjson' hends'
    refine ⟨run_eq_commandRun hparse, run_eq_commandRun hparse', ?_⟩
    rw [hshown, hshown']
    cases ending with
    | analyzed result =>
      exact ⟨Iff.rfl, fun _ => ⟨rfl, result, hends, rfl, result.toJson.reread,
        Json.parse_pretty _, result.get?_findings_reread⟩⟩
    | configFailed failure => exact ⟨Iff.rfl, nofun⟩
    | targetsFailed message => exact ⟨Iff.rfl, nofun⟩
    | nothingFound => exact ⟨Iff.rfl, nofun⟩
    | settingsFailed message => exact ⟨Iff.rfl, nofun⟩

theorem run_check_shown_alike_of_unmarkedProject :
    ∃ global own global' own',
      info.parse ["--no-config", "check", "--json"] = .run check global own [] ∧
      info.parse ["--no-config", "--verbose", "check", "-j", "--max-findings", "3"] =
        .run check global' own' [] ∧
      global.taskSettings = global'.taskSettings ∧ own.taskSettings = own'.taskSettings ∧
      (commandRun unmarkedProject ["p"] false "" check global own []).IsCompleted ∧
      (commandRun unmarkedProject ["p"] false "" check global own []).log =
        (commandRun unmarkedProject ["p"] true "" check global' own' []).log := by
  let global : Arguments := ⟨[("--no-config", none)], ["check"], ["--json"]⟩
  let own : Arguments := ⟨[("--json", none)], [], []⟩
  let global' : Arguments :=
    ⟨[("--no-config", none), ("--verbose", none)], ["check"], ["-j", "--max-findings", "3"]⟩
  let own' : Arguments := ⟨[("--json", none), ("--max-findings", some "3")], [], []⟩
  let task := taskOf ["p"] global own []
  have hparse : info.parse ["--no-config", "check", "--json"] = .run check global own [] := by
    decide +kernel
  have hparse' : info.parse ["--no-config", "--verbose", "check", "-j", "--max-findings", "3"] =
      .run check global' own' [] := by
    decide +kernel
  have hglobal : global.taskSettings = global'.taskSettings := by decide
  have hown : own.taskSettings = own'.taskSettings := by decide
  have hload : (ConfigLoader.start.load unmarkedProject ["p"] task.request).1 =
      .ok ⟨Config.default, none⟩ := rfl
  have hfiles : filesToCheck unmarkedProject ["p"] task.targets
      (task.config ["p"] ⟨Config.default, none⟩) task.directory = .ok ["/p/src/a.ts"] := by
    decide +kernel
  have hcompleted :
      (commandRun unmarkedProject ["p"] false "" check global own []).IsCompleted := by
    rw [commandRun_check_of_json rfl (.analyzes hload hfiles (List.cons_ne_nil _ _) rfl)]
    exact ⟨_, rfl⟩
  obtain ⟨-, hdata⟩ := run_check_shown_alike unmarkedProject ["p"] false true "" "" hparse hparse'
    hglobal hown
  obtain ⟨-, -, -, hsame⟩ := hdata rfl rfl
  exact ⟨global, own, global', own', hparse, hparse', hglobal, hown, hcompleted,
    (hsame hcompleted).1⟩

end Program

end NamedParams
