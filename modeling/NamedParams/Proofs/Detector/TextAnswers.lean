import NamedParams.Proofs.Detector.AskedImports
import NamedParams.Proofs.Detector.CountedFunctions
import NamedParams.Proofs.Detector.ExcludedPaths

namespace NamedParams

open NamedParams.Source

/-- The findings about a text when decorators are resolved by given imports. -/
def Source.SourceFile.findingsBy (config : Config) (index : ImportIndex) (source : SourceFile) :
    List Finding :=
  (requiredReports (fun decoration => index.resolve decoration.handle)
    (source.functions config.assertionFunctions)).map (Finding.ofReport source.path)

theorem checkFile_findingsBy (config : Config) (file : ProjectFile) :
    (checkFile config file).findings = file.source.findingsBy config file.index := by
  rw [checkFile, SourceFile.findingsBy, reportsOf_reports]

/-- The findings about some texts, when the decorators of each are resolved by the imports that are
    given for it. -/
def findingsBy (config : Config) (imports : SourceFile → ImportIndex) (sources : List SourceFile) :
    List Finding :=
  sources.flatMap fun source => source.findingsBy config (imports source)

/-- The report on some texts. It counts the functions that are written in them, and no others. -/
def reportBy (config : Config) (imports : SourceFile → ImportIndex) (sources : List SourceFile) :
    CheckReport :=
  let findings := (findingsBy config imports sources).mergeSort Finding.le
  { findings
    summary := Summary.ofFindings findings sources.length
      (sources.map fun source => source.functionPlaces.length).sum
    log := [] }

section Files

variable {config : Config} {imports : SourceFile → ImportIndex} {files : List ProjectFile}

theorem findingsOf_eq_findingsBy (himports : ∀ file ∈ files, file.index = imports file.source) :
    findingsOf config files = findingsBy config imports (files.map ProjectFile.source) := by
  rw [findingsOf, findingsBy, List.flatMap_map]
  refine List.flatMap_congr fun file hfile => ?_
  rw [checkFile_findingsBy, himports file hfile]

theorem Detector.checkFiles_eq_reportBy (logger : Logger) (detector : Detector)
    (paths : List String)
    (himports : ∀ file ∈ detector.session.checked config paths, file.index = imports file.source) :
    (Outcome.reported (detector.checkFiles config logger paths).1).unlogged =
      .reported (reportBy config imports
        ((detector.session.checked config paths).map ProjectFile.source)) := by
  have hfunctions : functionTotal (detector.session.checked config paths) =
      (((detector.session.checked config paths).map ProjectFile.source).map fun source =>
        source.functionPlaces.length).sum := by
    rw [functionTotal, List.map_map]
    rfl
  rw [Outcome.unlogged, checkFiles_summary, checkFiles_findings, functionCountOf_eq, hfunctions,
    findingsOf_eq_findingsBy himports, ← List.length_map ProjectFile.source]
  rfl

end Files

theorem Session.absent?_of_find?_eq_none {session : Session} {root : List String} {path : String}
    (hnone : session.find? (Detector.filePath root path) = none) :
    ∃ message, session.absent? root [path] = some message := by
  have hsome : ¬ (session.find? (Path.absolute (Path.resolve root path))).isSome = true := by
    rw [Option.not_isSome_iff_eq_none]
    exact hnone
  rw [absent?, List.findSome?_singleton]
  exact ⟨_, if_neg hsome⟩

namespace Detector

/-- The texts that a step checks, in order. A check of paths leaves out those that are excluded as
    they are given or as absolute paths and those without a file. It reads a file that is not in the
    project from disk. A check of a single file does not exclude it. -/
def textsOf (config : Config) (root : List String) (detector : Detector) : Step → List SourceFile
  | .create _ _ | .write _ _ => []
  | .checkPaths paths =>
    (detector.session.filesAt root (paths.filter (isFree config.excludes root))).map
      ProjectFile.source
  | .checkFiles paths =>
    if (detector.session.absent? root paths).isSome then []
    else
      (detector.session.filesOf
        ((paths.map (filePath root)).filter fun path => !config.excludes path)).map
        ProjectFile.source
  | .checkOne path => ((detector.session.find? (filePath root path)).map ProjectFile.source).toList

/-- The answer of a step when the decorators of each text are resolved by the imports that are given
    for it. -/
def answerBy (config : Config) (root : List String) (imports : SourceFile → ImportIndex)
    (detector : Detector) (step : Step) : Outcome :=
  let sources := detector.textsOf config root step
  match step with
  | .create _ _ | .write _ _ => .done
  | .checkPaths _ => .reported (reportBy config imports sources)
  | .checkFiles paths =>
    match detector.session.absent? root paths with
    | some message => .absent message
    | none => .reported (reportBy config imports sources)
  | .checkOne path =>
    match detector.session.absent? root [path] with
    | some message => .absent message
    | none => .found (findingsBy config imports sources) []

/-- The first text at a path whose check asks for its imports in the course of some steps. -/
def settlingText? (config : Config) (logger : Logger) (root : List String) (path : String) :
    Detector → List Step → Option SourceFile
  | _, [] => none
  | detector, step :: rest =>
    (askingText? path (detector.textsOf config root step)).or
      (settlingText? config logger root path (detector.step config logger root step).2 rest)

section Steps

variable {config : Config} {logger : Logger} {root : List String}

theorem map_source_checkedBy (hroot : Path.IsPlace root) (detector : Detector) (step : Step) :
    (detector.checkedBy config logger root step).map ProjectFile.source =
      detector.textsOf config root step := by
  cases step with
  | create path content => rfl
  | write path content => rfl
  | checkPaths paths =>
    have hreads := detector.session.loadAllBy_reads config.excludes logger hroot paths
    rw [textsOf, ← checked_of_reads config hreads, checked_excluding_nil]
    rfl
  | checkFiles paths =>
    rw [checkedBy, textsOf]
    split <;> rfl
  | checkOne path =>
    rw [checkedBy, textsOf]
    cases detector.session.find? (filePath root path) <;> rfl

/-- Steps settle the imports of the first text that is asked for them, unless some are settled. -/
theorem run_settled_or (hroot : Path.IsPlace root) (path : String) (steps : List Step) :
    ∀ detector : Detector, (run config logger root detector steps).2.session.settled? path =
      (detector.session.settled? path).or
        ((settlingText? config logger root path detector steps).map SourceFile.importIndex) := by
  induction steps with
  | nil => exact fun detector => (Option.or_none).symm
  | cons step rest ih =>
    intro detector
    rw [run]
    dsimp only
    rw [ih, step_settled, map_source_checkedBy hroot, settlingText?, Option.map_or,
      Option.or_assoc]

/-- What a step answers depends on the imports that count for the texts that it checks. -/
theorem step_answerBy (hroot : Path.IsPlace root) {detector : Detector} {next : Step}
    {imports : SourceFile → ImportIndex}
    (himports : ∀ file ∈ detector.checkedBy config logger root next,
      file.index = imports file.source) :
    (detector.step config logger root next).1.unlogged =
      detector.answerBy config root imports next := by
  have htexts : (detector.checkedBy config logger root next).map ProjectFile.source =
      detector.textsOf config root next := map_source_checkedBy hroot detector next
  cases next with
  | create path content => rfl
  | write path content => rfl
  | checkPaths paths =>
    rw [answerBy, ← htexts]
    exact checkFiles_eq_reportBy logger
      { detector with session := (detector.session.loadAll config logger root paths).session }
      _ himports
  | checkFiles paths =>
    rw [answerBy, ← htexts, Detector.step]
    rw [checkedBy] at himports ⊢
    cases habsent : detector.session.absent? root paths with
    | some message => rfl
    | none =>
      rw [habsent] at himports
      exact checkFiles_eq_reportBy logger detector _ himports
  | checkOne path =>
    rw [answerBy, ← htexts, Detector.step]
    rw [checkedBy] at himports ⊢
    cases hfile : detector.session.find? (filePath root path) with
    | none =>
      obtain ⟨message, habsent⟩ := Session.absent?_of_find?_eq_none hfile
      rw [habsent]
      rfl
    | some file =>
      rw [hfile] at himports
      have hfindings : (detector.checkOne config logger file).1 =
          findingsBy config imports [file.source] := by
        change (checkFile config file.settle).findings = _
        rw [checkFile_findingsBy, himports file.settle List.mem_cons_self, findingsBy,
          List.flatMap_singleton, ProjectFile.settle_source]
      rw [Session.absent?_of_find? hfile]
      change (Outcome.found (detector.checkOne config logger file).1 _).unlogged =
        .found (findingsBy config imports [file.source]) []
      rw [Outcome.unlogged, hfindings]

end Steps

variable (config : Config) (logger : Logger) {root : List String}

/-- After any steps, a step answers with the findings about the texts of the project as they are,
    and its summary counts their functions and no others. The decorators of a text are resolved by
    the imports of the first text of its path whose check asked for them, and by its own as long as
    there has been none. A step settles imports only where it checks a text that asks for them, and
    where none are settled yet. Paths that it leaves out have no part in that, and neither have
    texts at other paths. -/
theorem run_answers_by_first_asked (hroot : Path.IsPlace root) (project : Session)
    (steps : List Step) (next : Step) :
    let detector := (run config logger root (fresh project) steps).2
    let settling := fun path => settlingText? config logger root path (fresh project) steps
    (detector.step config logger root next).1.unlogged =
        detector.answerBy config root
          (fun source => ((settling source.path).getD source).importIndex) next ∧
      ∀ path, detector.session.settled? path = (settling path).map SourceFile.importIndex ∧
        (detector.step config logger root next).2.session.settled? path =
          ((settling path).or (askingText? path (detector.textsOf config root next))).map
            SourceFile.importIndex := by
  intro detector settling
  have hsettled : ∀ path,
      detector.session.settled? path = (settling path).map SourceFile.importIndex := by
    intro path
    rw [run_settled_or hroot, settled?_fresh, Option.none_or]
  refine ⟨step_answerBy hroot fun file hfile => ?_, fun path => ⟨hsettled path, ?_⟩⟩
  · rw [index_of_mem_checkedBy hfile, hsettled]
    cases settling file.source.path <;> rfl
  · rw [step_settled, map_source_checkedBy hroot, hsettled, Option.map_or]

/-- A class whose only method has a parameter that is asserted not to be null, after some imports
    and with some decorator. -/
def methodText (imports decorator : String) : String :=
  imports ++ "class A\x7bm(" ++ decorator ++ "\x7ba\x7d)\x7bassert(a!=null)\x7d\x7d"

def markerImports (library : String) : String :=
  "import\x7brequired as r\x7dfrom'" ++ library ++ "';"

/-- A file is checked without a decorator, then with one from the library of the marker, and then
    the decorator is taken from another library. -/
def lateDecorator : List Step :=
  [.create "/a.ts" (methodText (markerImports "early") ""), .checkFiles ["/a.ts"],
    .create "/a.ts" (methodText (markerImports "meta") "@r"), .checkPaths ["/b.ts", "/a.ts"],
    .create "/a.ts" (methodText (markerImports "late") "@r")]

/-- The second text counts, although its imports are neither the first nor the current ones. -/
theorem run_answers_by_first_asked_of_lateDecorator :
    let config : Config := ⟨[], [], none, ["assert"]⟩
    let logger : Logger := ⟨false, false, false⟩
    let detector := (run config logger [] (fresh Session.empty) lateDecorator).2
    Path.IsPlace [] ∧
      (settlingText? config logger [] "/a.ts" (fresh Session.empty) lateDecorator).map
          (fun source => String.ofList source.text) =
        some (methodText (markerImports "meta") "@r") ∧
      (detector.step config logger [] (.checkOne "/a.ts")).1.unlogged = .found [] [] := by
  intro config logger detector
  have hroot : Path.IsPlace [] := by decide
  obtain ⟨hanswer, -⟩ := run_answers_by_first_asked config logger hroot Session.empty lateDecorator
    (.checkOne "/a.ts")
  exact ⟨hroot, by decide +kernel, hanswer.trans (by decide +kernel)⟩

end Detector

end NamedParams
