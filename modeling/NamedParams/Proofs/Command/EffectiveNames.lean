import NamedParams.Proofs.Command.ExitStatus
import NamedParams.Proofs.Config.Recall
import NamedParams.Proofs.Outcomes

namespace NamedParams

open NamedParams.CommandLine NamedParams.Text

/-- The names that an option gives: what stands between its commas, without blanks around it, as
    far as there is anything left. -/
def optionNames : Option String → List String
  | none => []
  | some value =>
    (((value.toList.splitOn ',').map trim).filter (!·.isEmpty)).map String.ofList

/-- The names that the content of a configuration file gives: the texts in its list of assertion
    functions that are not empty, if it has such a list. -/
def contentNames (content : Option Json) : List String :=
  match content.bind (Json.get? "assertionFunctions") with
  | some (.array elements) => (elements.filterMap Json.string?).filter (· != "")
  | _ => []

/-- The names that count: those of the option if it gives any, else those of the file if it gives
    any, and else the default ones. -/
def effectiveNames (option : Option String) (content : Option Json) : List String :=
  if optionNames option ≠ [] then optionNames option
  else if contentNames content ≠ [] then contentNames content
  else Config.default.assertionFunctions

theorem ne_empty_of_mem_optionNames {option : Option String} {name : String}
    (hname : name ∈ optionNames option) : name ≠ "" := by
  cases option with
  | none => cases hname
  | some value =>
    obtain ⟨word, hword, rfl⟩ := List.mem_map.mp hname
    have hsome := (List.mem_filter.mp hword).2
    rw [Bool.not_eq_true', List.isEmpty_eq_false_iff] at hsome
    rwa [Ne, String.ofList_eq_empty_iff]

theorem ne_empty_of_mem_contentNames {content : Option Json} {name : String}
    (hname : name ∈ contentNames content) : name ≠ "" := by
  rw [contentNames] at hname
  split at hname
  · exact bne_iff_ne.mp (List.mem_filter.mp hname).2
  · cases hname

theorem effectiveNames_ne_nil (option : Option String) (content : Option Json) :
    effectiveNames option content ≠ [] := by
  rw [effectiveNames]
  split
  · assumption
  · split
    · assumption
    · exact List.cons_ne_nil _ _

theorem ne_empty_of_mem_effectiveNames {option : Option String} {content : Option Json}
    {name : String} (hname : name ∈ effectiveNames option content) : name ≠ "" := by
  rw [effectiveNames] at hname
  split at hname
  · exact ne_empty_of_mem_optionNames hname
  · split at hname
    · exact ne_empty_of_mem_contentNames hname
    · have hdefault : ∀ name ∈ Config.default.assertionFunctions, name ≠ "" := by decide
      exact hdefault name hname

theorem effectiveNames_none (content : Option Json) :
    effectiveNames none content =
      if contentNames content ≠ [] then contentNames content
      else Config.default.assertionFunctions := rfl

/-- A list on the command line is one with names in it. -/
theorem bind_listArgument? (option : Option String) :
    option.bind listArgument? =
      if optionNames option ≠ [] then some (optionNames option) else none := by
  cases option with
  | none => rfl
  | some value =>
    rw [Option.bind_some, listArgument?, optionNames]
    cases ((value.toList.splitOn ',').map trim).filter (!·.isEmpty) <;> rfl

namespace Config

/-- A file that gives no names leaves the default ones. -/
theorem assertionFunctions_ofMembers (root : List String) (file : Option String)
    (members : List (String × Json)) :
    (ofMembers root file members).assertionFunctions =
      effectiveNames none (some (.object members)) := by
  have hnames : ∀ names : List String,
      ((some names).filter (!·.isEmpty)).getD default.assertionFunctions =
        if names ≠ [] then names else default.assertionFunctions := by
    intro names
    cases names <;> rfl
  change ((texts? ((Json.object members).get? "assertionFunctions")).filter (!·.isEmpty)).getD
    default.assertionFunctions = _
  rw [effectiveNames_none, contentNames, Option.bind_some]
  cases (Json.object members).get? "assertionFunctions" with
  | none => rfl
  | some value =>
    cases value with
    | array elements => exact hnames _
    | _ => rfl

/-- The command line replaces the names if it gives any, and apart from them at most the path of the
    compiler settings. -/
theorem override_eq (config : Config) (root : List String) (directory : String)
    (tsconfig assertions : Option String) :
    config.override root directory tsconfig assertions =
      { config with
        tsconfigPath := (config.override root directory tsconfig assertions).tsconfigPath
        assertionFunctions :=
          if optionNames assertions ≠ [] then optionNames assertions
          else config.assertionFunctions } := by
  rw [override, bind_listArgument?]
  split <;> rfl

end Config

namespace ConfigRequest

/-- The value in the configuration file that a request leads to, unless configurations are off. -/
def content? (request : ConfigRequest) (tree : FileTree) (root : List String) : Option Json :=
  if request.isOff then none
  else ((request.file? tree root).toOption.join).bind ConfigFile.content

variable {request : ConfigRequest} {tree : FileTree} {root : List String} {loaded : LoadedConfig}

theorem assertionFunctions_of_configOf {found : Option ConfigFile}
    (hconfig : ConfigLoader.configOf root found = .ok loaded) :
    loaded.config.assertionFunctions = effectiveNames none (found.bind ConfigFile.content) := by
  match found with
  | none =>
    cases hconfig
    rfl
  | some ⟨place, none⟩ =>
    cases hconfig
    rfl
  | some ⟨place, some content⟩ =>
    rw [ConfigLoader.configOf] at hconfig
    split at hconfig
    · rename_i config hdescribed
      cases hconfig
      obtain ⟨members, hmembers, rfl⟩ := Option.map_eq_some_iff.mp hdescribed
      cases content with
      | object _ =>
        cases hmembers
        exact Config.assertionFunctions_ofMembers root _ members
      | _ => cases hmembers
    · cases hconfig

/-- Whatever is in a configuration file, once it is loaded its names count, and else the default
    ones. -/
theorem assertionFunctions_of_outcome (houtcome : request.outcome tree root = .ok loaded) :
    loaded.config.assertionFunctions = effectiveNames none (request.content? tree root) := by
  rw [outcome] at houtcome
  rw [content?]
  cases hoff : request.isOff with
  | true =>
    rw [hoff] at houtcome
    cases houtcome
    rfl
  | false =>
    rw [hoff] at houtcome
    obtain ⟨found, hfile, hconfig⟩ := bind_eq_ok_iff.mp houtcome
    rw [hfile]
    exact assertionFunctions_of_configOf hconfig

end ConfigRequest

/-- The configuration that a check goes by is the loaded one, but for the names of the assertion
    functions, and possibly for the path of the compiler settings. -/
theorem CheckTask.config_eq (task : CheckTask) {tree : FileTree} {root : List String}
    {loaded : LoadedConfig} (houtcome : task.request.outcome tree root = .ok loaded) :
    task.config root loaded =
      { loaded.config with
        tsconfigPath := (task.config root loaded).tsconfigPath
        assertionFunctions :=
          effectiveNames task.assertions (task.request.content? tree root) } := by
  have hnames := ConfigRequest.assertionFunctions_of_outcome houtcome
  rw [effectiveNames_none] at hnames
  rw [effectiveNames, ← hnames]
  exact loaded.config.override_eq root _ task.tsconfig task.assertions

namespace Program

/-- No configuration turns the rule off. When a check comes to look at files, there are assertion
    functions, and each of them has a name: those of the option on the command line if it gives any,
    else those of the list in the configuration file if it gives any, whatever else is in the file,
    and else the default ones. The command line replaces nothing in the configuration but these
    names and the path of the compiler settings, and the result that decides the status is that of
    the check with this configuration. Where the configuration is a program, which is outside of the
    model (`ConfigFile.readFormat`), no check comes so far here. -/
theorem run_check_names (tree : FileTree) (root : List String) (color : Bool) (time : String)
    {arguments operands : List String} {global own : Arguments}
    (hparse : info.parse arguments = .run check global own operands) {result : CheckResult}
    (hends : (taskOf root global own operands).Ends tree root time (.analyzed result)) :
    let request := (taskOf root global own operands).request
    let names := effectiveNames (own.value? "--assert") (request.content? tree root)
    names ≠ [] ∧ (∀ name ∈ names, name ≠ "") ∧
      (∃ loaded files, (ConfigLoader.start.load tree root request).1 = .ok loaded ∧
        result = CheckTask.result tree root time result.config files ∧
        result.config = { loaded.config with
          tsconfigPath := result.config.tsconfigPath
          assertionFunctions := names }) ∧
      (run tree root color time arguments).status = (CheckEnd.analyzed result).status := by
  intro request names
  refine ⟨effectiveNames_ne_nil _ _, fun name hname => ne_empty_of_mem_effectiveNames hname, ?_,
    status_run_check hparse hends⟩
  cases hends with
  | @analyzes loaded files hload =>
    have houtcome : request.outcome tree root = .ok loaded := by
      rw [← ConfigRequest.load_start_eq_outcome]
      exact hload
    exact ⟨loaded, files, hload, rfl, (taskOf root global own operands).config_eq houtcome⟩

/-- A project whose configuration names an assertion function among values that are no names, and
    with a function that makes use of it. -/
def customProject : FileTree :=
  ⟨[(["p", "src", "a.ts"], "function f({a}){must(a!=null)}"),
    (["p", ".paramguardrc.json"], "\x7b\"assertionFunctions\":[\"\",7,\"must\"]\x7d")], []⟩

theorem run_check_names_of_customProject :
    ∃ global own result, info.parse ["check", "--assert", " , "] = .run check global own [] ∧
      (taskOf ["p"] global own []).Ends customProject ["p"] "" (.analyzed result) ∧
      result.config.assertionFunctions = ["must"] ∧ result.findings.length = 1 := by
  let arguments := ["check", "--assert", " , "]
  let global : Arguments := ⟨[], ["check"], ["--assert", " , "]⟩
  let own : Arguments := ⟨[("--assert", some " , ")], [], []⟩
  let task := taskOf ["p"] global own []
  let loaded : LoadedConfig :=
    ⟨{ Config.default with assertionFunctions := ["must"] }, some ["p", ".paramguardrc.json"]⟩
  have hparse : info.parse arguments = .run check global own [] := by decide +kernel
  have hload : (ConfigLoader.start.load customProject ["p"] task.request).1 = .ok loaded := by
    decide +kernel
  have hfiles : filesToCheck customProject ["p"] task.targets (task.config ["p"] loaded)
      task.directory = .ok ["/p/src/a.ts"] := by decide +kernel
  have hends : task.Ends customProject ["p"] "" (.analyzed (CheckTask.result customProject ["p"]
      "" (task.config ["p"] loaded) ["/p/src/a.ts"])) :=
    .analyzes hload hfiles (List.cons_ne_nil _ _) rfl
  obtain ⟨-, -, ⟨_, _, -, -, hconfig⟩, -⟩ :=
    run_check_names customProject ["p"] false "" hparse hends
  refine ⟨global, own, _, hparse, hends, ?_, ?_⟩
  · rw [hconfig]
    dsimp only
    decide +kernel
  · rw [CheckTask.result, CheckReport.result, checkPaths_findings, List.length_mergeSort]
    decide +kernel

end Program

end NamedParams
