import NamedParams.Proofs.Detector.SettledImports
import NamedParams.Proofs.Detector.SortedFindings

namespace NamedParams

open NamedParams.Source

namespace ProjectFile

/-- The file as a new detector finds it: no imports are settled. -/
def forget (file : ProjectFile) : ProjectFile :=
  ⟨file.source, none⟩

/-- The file with the imports of its text settled. -/
def refresh (file : ProjectFile) : ProjectFile :=
  ⟨file.source, some file.source.importIndex⟩

/-- The imports that count for a file mark the same of the elements that could be reported as the
    imports of its text. -/
def MarksAsWritten (assertionFunctions : List String) (file : ProjectFile) : Prop :=
  ∀ named ∈ file.source.namedElements, named.IsAsserted assertionFunctions →
    file.index.marks named.parameter = file.source.importIndex.marks named.parameter

end ProjectFile

section refresh

variable {config : Config} {file : ProjectFile}

theorem checkFile_refresh_findings (hmarks : file.MarksAsWritten config.assertionFunctions) :
    (checkFile config file.refresh).findings = (checkFile config file).findings := by
  rw [checkFile_findings, checkFile_findings]
  congr 1
  apply List.filter_congr
  intro named hnamed
  rw [NamedElement.isReported, NamedElement.isReported]
  by_cases hasserted : named.IsAsserted config.assertionFunctions
  · rw [hmarks named hnamed hasserted]
    rfl
  · rw [decide_eq_false hasserted, Bool.false_and, Bool.false_and]

/-- The imports that count can be told from the findings, as far as they matter. -/
theorem marksAsWritten_of_findings
    (hfindings : ∀ finding, finding ∈ (checkFile config file).findings ↔
      finding ∈ (checkFile config file.refresh).findings) :
    file.MarksAsWritten config.assertionFunctions := by
  intro named hnamed hasserted
  have hreported : named.isReported config.assertionFunctions file.index = true ↔
      named.isReported config.assertionFunctions file.source.importIndex = true := by
    rw [← finding_mem_checkFile_iff hnamed, hfindings]
    exact @finding_mem_checkFile_iff config file.refresh named hnamed
  rw [NamedElement.isReported, NamedElement.isReported, decide_eq_true hasserted, Bool.true_and,
    Bool.true_and, ← Bool.eq_iff_iff] at hreported
  exact Bool.not_inj hreported

end refresh

theorem findingsOf_refresh {config : Config} {files : List ProjectFile}
    (hmarks : ∀ file ∈ files, file.MarksAsWritten config.assertionFunctions) :
    findingsOf config (files.map ProjectFile.refresh) = findingsOf config files := by
  rw [findingsOf, findingsOf, List.flatMap_map]
  exact List.flatMap_congr fun file hfile => checkFile_refresh_findings (hmarks file hfile)

theorem functionCountOf_refresh (config : Config) (files : List ProjectFile) :
    functionCountOf config (files.map ProjectFile.refresh) = functionCountOf config files := by
  rw [functionCountOf, functionCountOf, List.map_map]
  rfl

/-- A path leads to one of the files only. A file may occur several times. -/
def DistinctPaths (files : List ProjectFile) : Prop :=
  ∀ a ∈ files, ∀ b ∈ files, a.source.path = b.source.path → a = b

theorem DistinctPaths.refresh {files : List ProjectFile} (hpaths : DistinctPaths files) :
    DistinctPaths (files.map ProjectFile.refresh) := by
  intro a ha b hb hsame
  obtain ⟨first, hfirst, rfl⟩ := List.mem_map.mp ha
  obtain ⟨second, hsecond, rfl⟩ := List.mem_map.mp hb
  rw [hpaths first hfirst second hsecond hsame]

/-- The findings about each file can be told from the findings about all of them. -/
theorem mem_findingsOf_iff {config : Config} {files : List ProjectFile}
    (hpaths : DistinctPaths files) {file : ProjectFile} (hfile : file ∈ files) {finding : Finding}
    (hpath : finding.filePath = file.source.path) :
    finding ∈ findingsOf config files ↔ finding ∈ (checkFile config file).findings := by
  rw [findingsOf, List.mem_flatMap]
  constructor
  · rintro ⟨other, hother, hfinding⟩
    have hsame : other.source.path = file.source.path := by
      rw [← hpath, checkFile_filePath hfinding]
    rw [← hpaths other hother file hfile hsame]
    exact hfinding
  · exact fun hfinding => ⟨file, hfile, hfinding⟩

theorem marksAsWritten_of_findingsOf {config : Config} {files : List ProjectFile}
    (hpaths : DistinctPaths files)
    (hfindings : ∀ finding, finding ∈ findingsOf config files ↔
      finding ∈ findingsOf config (files.map ProjectFile.refresh)) :
    ∀ file ∈ files, file.MarksAsWritten config.assertionFunctions := by
  intro file hfile
  have hrefreshed : file.refresh ∈ files.map ProjectFile.refresh := List.mem_map_of_mem hfile
  refine marksAsWritten_of_findings fun finding => ?_
  constructor
  · intro hfinding
    have hpath := checkFile_filePath hfinding
    rw [← mem_findingsOf_iff hpaths.refresh hrefreshed hpath, ← hfindings]
    exact (mem_findingsOf_iff hpaths hfile hpath).mpr hfinding
  · intro hfinding
    have hpath : finding.filePath = file.refresh.source.path := checkFile_filePath hfinding
    rw [← mem_findingsOf_iff hpaths hfile hpath, hfindings]
    exact (mem_findingsOf_iff hpaths.refresh hrefreshed hpath).mpr hfinding

namespace Session

/-- The session as a new detector finds it. -/
def forget (session : Session) : Session :=
  { session with files := session.files.map ProjectFile.forget }

theorem find?_forget (session : Session) (path : String) :
    session.forget.find? path = (session.find? path).map ProjectFile.forget := by
  rw [find?, forget, List.find?_map]
  rfl

theorem checked_forget (config : Config) (session : Session) (paths : List String) :
    session.forget.checked config paths =
      (session.checked config paths).map ProjectFile.refresh := by
  rw [checked, checked, List.map_filterMap]
  congr 1
  funext path
  rw [find?_forget, Option.map_map, Option.map_map]
  rfl

theorem update_forget (session : Session) (file : ProjectFile) :
    (session.update file).forget = session.forget.update file.forget := by
  rw [update, update, forget, forget, List.map_map, List.map_map]
  congr 2
  funext old
  exact apply_ite ProjectFile.forget _ _ _

theorem create_forget (session : Session) (path content : String) :
    (session.create path content).forget = session.forget.create path content := by
  rw [create, create, find?_forget]
  cases session.find? path with
  | none =>
    rw [forget, List.map_append]
    rfl
  | some old => exact session.update_forget ⟨SourceFile.parse path content, old.settled⟩

theorem load_forget (session : Session) (place : List String) :
    session.forget.load place = (session.load place).map forget := by
  rw [load, load, find?_forget]
  cases session.find? (Path.absolute place) with
  | some old => rfl
  | none =>
    dsimp only [Option.map_none]
    rw [Option.map_map]
    congr 1
    funext content
    exact (session.create_forget _ content).symm

theorem absent?_forget (session : Session) (root paths : List String) :
    session.forget.absent? root paths = session.absent? root paths := by
  rw [absent?, absent?]
  congr 1
  funext path
  dsimp only
  rw [find?_forget, Option.isSome_map]

theorem absent?_of_find? {session : Session} {root : List String} {path : String}
    {file : ProjectFile} (hfile : session.find? (Detector.filePath root path) = some file) :
    session.absent? root [path] = none := by
  have hsome : (session.find? (Path.absolute (Path.resolve root path))).isSome = true := by
    rw [Option.isSome_iff_exists]
    exact ⟨file, hfile⟩
  rw [absent?, List.findSome?_singleton]
  exact if_pos hsome

end Session

namespace Loading

def forget (loading : Loading) : Loading :=
  { loading with session := loading.session.forget }

theorem add_forget (config : Config) (logger : Logger) (root : List String) (loading : Loading)
    (path : String) :
    loading.forget.add config logger root path =
      (loading.add config logger root path).forget := by
  rw [add, add]
  by_cases hexcluded : config.excludes path = true
  · rw [if_pos hexcluded, if_pos hexcluded]
    rfl
  · rw [if_neg hexcluded, if_neg hexcluded, forget]
    dsimp only
    rw [Session.load_forget]
    cases loading.session.load (Path.resolve root path) <;> rfl

end Loading

/-- Files are read in the same way whether or not imports are settled. -/
theorem Session.loadAll_forget (config : Config) (logger : Logger) (root : List String)
    (session : Session) (paths : List String) :
    session.forget.loadAll config logger root paths =
      (session.loadAll config logger root paths).forget := by
  have hfold : ∀ loading : Loading,
      paths.foldl (fun (loading : Loading) path => loading.add config logger root path)
        loading.forget =
      (paths.foldl (fun (loading : Loading) path => loading.add config logger root path)
        loading).forget := by
    induction paths with
    | nil => exact fun loading => rfl
    | cons path rest ih =>
      intro loading
      rw [List.foldl_cons, List.foldl_cons, loading.add_forget config logger root path]
      exact ih _
  exact hfold ⟨[], [], session⟩

namespace Detector

/-- A new detector for the project of a session. -/
def fresh (session : Session) : Detector :=
  .start session.forget

/-- An answer apart from what is logged on the way to it. -/
def Outcome.unlogged : Outcome → Outcome
  | reported report => reported { report with log := [] }
  | found findings _ => found findings []
  | outcome => outcome

/-- The files that a step checks, with the imports that count for them. -/
def checkedBy (config : Config) (logger : Logger) (root : List String) (detector : Detector) :
    Step → List ProjectFile
  | .create _ _ | .write _ _ => []
  | .checkPaths paths =>
    let loading := detector.session.loadAll config logger root paths
    loading.session.checked config loading.loaded
  | .checkFiles paths =>
    if (detector.session.absent? root paths).isSome then []
    else detector.session.checked config (paths.map (filePath root))
  | .checkOne path => ((detector.session.find? (filePath root path)).map ProjectFile.settle).toList

variable (config : Config) (logger : Logger) (root : List String) (detector : Detector)

/-- A check of files answers like one by a new detector exactly when the imports that count for the
    files mark what could be reported as their texts do. -/
theorem checkFiles_fresh_iff (paths : List String) :
    ((detector.checkFiles config logger paths).1.findings =
          ((fresh detector.session).checkFiles config logger paths).1.findings ∧
        (detector.checkFiles config logger paths).1.summary =
          ((fresh detector.session).checkFiles config logger paths).1.summary) ↔
      ∀ file ∈ detector.session.checked config paths,
        file.MarksAsWritten config.assertionFunctions := by
  have hfresh : (fresh detector.session).session.checked config paths =
      (detector.session.checked config paths).map ProjectFile.refresh :=
    detector.session.checked_forget config paths
  rw [checkFiles_summary, checkFiles_summary, checkFiles_findings, checkFiles_findings, hfresh,
    List.length_map, functionCountOf_refresh]
  constructor
  · rintro ⟨hfindings, _⟩
    -- Sorting mixes the findings of the files, but it keeps their members.
    refine marksAsWritten_of_findingsOf (fun a ha b hb => Session.eq_of_mem_checked ha hb) ?_
    intro finding
    rw [← (List.mergeSort_perm _ Finding.le).mem_iff, hfindings]
    exact (List.mergeSort_perm _ Finding.le).mem_iff
  · intro hmarks
    rw [findingsOf_refresh hmarks]
    exact ⟨rfl, rfl⟩

theorem checkOne_fresh_iff {file : ProjectFile} :
    (detector.checkOne config logger file).1 =
        ((fresh detector.session).checkOne config logger file.forget).1 ↔
      file.MarksAsWritten config.assertionFunctions := by
  change (checkFile config file).findings = (checkFile config file.refresh).findings ↔ _
  constructor
  · intro hfindings
    exact marksAsWritten_of_findings fun finding => by rw [hfindings]
  · exact fun hmarks => (checkFile_refresh_findings hmarks).symm

theorem unlogged_reported_inj {a b : CheckReport} :
    (Outcome.reported a).unlogged = (Outcome.reported b).unlogged ↔
      a.findings = b.findings ∧ a.summary = b.summary := by
  simp only [Outcome.unlogged, Outcome.reported.injEq, CheckReport.mk.injEq, and_true]

/-- A step answers like one of a new detector for the same project exactly when, in each file that
    is checked, the imports that count mark what could be reported as the text of the file does. -/
theorem step_fresh_iff (next : Step) :
    (detector.step config logger root next).1.unlogged =
        ((fresh detector.session).step config logger root next).1.unlogged ↔
      ∀ file ∈ detector.checkedBy config logger root next,
        file.MarksAsWritten config.assertionFunctions := by
  cases next with
  | create path content => exact ⟨fun _ _ => List.not_mem_nil.elim, fun _ => rfl⟩
  | write path content => exact ⟨fun _ _ => List.not_mem_nil.elim, fun _ => rfl⟩
  | checkPaths paths =>
    let loading := detector.session.loadAll config logger root paths
    have hfresh : ((fresh detector.session).step config logger root (.checkPaths paths)).1.unlogged =
        (Outcome.reported ((fresh loading.session).checkFiles config logger
          loading.loaded).1).unlogged := by
      simp only [Detector.step, Detector.checkPaths, fresh, start, Session.loadAll_forget]
      rfl
    rw [hfresh]
    exact unlogged_reported_inj.trans (checkFiles_fresh_iff config logger
      { detector with session := loading.session } loading.loaded)
  | checkFiles paths =>
    have habsent : (fresh detector.session).session.absent? root paths =
        detector.session.absent? root paths := detector.session.absent?_forget root paths
    rw [Detector.step, Detector.step, checkedBy, habsent]
    cases detector.session.absent? root paths with
    | some message => exact ⟨fun _ _ => List.not_mem_nil.elim, fun _ => rfl⟩
    | none => exact unlogged_reported_inj.trans (checkFiles_fresh_iff config logger detector _)
  | checkOne path =>
    have habsent : (fresh detector.session).session.absent? root [path] =
        detector.session.absent? root [path] := detector.session.absent?_forget root [path]
    have hfind : (fresh detector.session).session.find? (filePath root path) =
        (detector.session.find? (filePath root path)).map ProjectFile.forget :=
      detector.session.find?_forget _
    rw [Detector.step, Detector.step, checkedBy, habsent, hfind]
    cases hfile : detector.session.find? (filePath root path) with
    | none =>
      refine ⟨fun _ _ => List.not_mem_nil.elim, fun _ => ?_⟩
      cases detector.session.absent? root [path] <;> rfl
    | some file =>
      rw [Session.absent?_of_find? hfile]
      have hanswer : (Outcome.found (detector.checkOne config logger file).1
            (detector.checkOne config logger file).2.1).unlogged =
          (Outcome.found ((fresh detector.session).checkOne config logger file.forget).1
            ((fresh detector.session).checkOne config logger file.forget).2.1).unlogged ↔
          (detector.checkOne config logger file).1 =
            ((fresh detector.session).checkOne config logger file.forget).1 := by
        simp only [Outcome.unlogged, Outcome.found.injEq, and_true]
      refine hanswer.trans ((checkOne_fresh_iff config logger detector).trans ?_)
      exact ⟨fun hmarks other hother => List.mem_singleton.mp hother ▸ hmarks,
        fun hmarks => hmarks file.settle List.mem_cons_self⟩

/-- The imports that count for a file that is checked are those that were settled before, and else
    those of its text. -/
theorem index_of_mem_checkedBy {config : Config} {logger : Logger} {root : List String}
    {detector : Detector} {step : Step} {file : ProjectFile}
    (hfile : file ∈ detector.checkedBy config logger root step) :
    file.index =
      (detector.session.settled? file.source.path).getD file.source.importIndex := by
  have hindex : ∀ {session : Session} {found : ProjectFile} {path : String},
      session.find? path = some found →
        found.settle.index = (session.settled? path).getD found.settle.source.importIndex := by
    intro session found path hfound
    rw [Session.settled?, hfound]
    rfl
  cases step with
  | create path content => exact (List.not_mem_nil hfile).elim
  | write path content => exact (List.not_mem_nil hfile).elim
  | checkPaths paths =>
    obtain ⟨found, hfound, hsettle⟩ := Session.mem_checked hfile
    rw [← detector.session.settled?_loadAll config logger root paths, hsettle]
    rw [hsettle] at hfound
    exact hindex hfound
  | checkFiles paths =>
    rw [checkedBy] at hfile
    split at hfile
    · exact (List.not_mem_nil hfile).elim
    · obtain ⟨found, hfound, hsettle⟩ := Session.mem_checked hfile
      rw [hsettle] at hfound ⊢
      exact hindex hfound
  | checkOne path =>
    rw [checkedBy, Option.mem_toList, Option.map_eq_some_iff] at hfile
    obtain ⟨found, hfound, rfl⟩ := hfile
    rw [ProjectFile.settle_source, Session.path_of_find? hfound]
    exact hindex hfound

theorem settled?_fresh (project : Session) (path : String) :
    (fresh project).session.settled? path = none := by
  change project.forget.settled? path = none
  rw [Session.settled?, Session.find?_forget]
  cases project.find? path <;> rfl

/-- The imports that count for a file that is checked are those of its text, or those of the text by
    which they were settled. -/
theorem index_of_mem_checkedBy_run (project : Session) (steps : List Step) (next : Step)
    {file : ProjectFile}
    (hfile : file ∈ (run config logger root (fresh project) steps).2.checkedBy config logger root
      next) :
    file.index = file.source.importIndex ∨
      ∃ before, before <+: steps ∧ ∃ old,
        FirstSettled config logger root (fresh project) file.source.path before old ∧
          file.index = old.source.importIndex := by
  have hindex := index_of_mem_checkedBy hfile
  cases hsettled : (run config logger root (fresh project) steps).2.session.settled?
      file.source.path with
  | none =>
    left
    rw [hindex, hsettled, Option.getD_none]
  | some index =>
    right
    obtain ⟨before, hbefore, old, hfirst, hsource⟩ := run_settled config logger root
      (fresh project) (settled?_fresh project file.source.path) steps hsettled
    refine ⟨before, hbefore, old, hfirst, ?_⟩
    rw [hindex, hsettled, Option.getD_some, hsource]

/-- As long as no edit changes the imports of a file that is checked, a step answers like one of a
    new detector. -/
theorem run_step_fresh_of_imports_kept (project : Session) (steps : List Step) (next : Step)
    (hkept : ∀ file ∈ (run config logger root (fresh project) steps).2.checkedBy config logger root
        next,
      ∀ before, before <+: steps → ∀ old,
        (run config logger root (fresh project) before).2.session.find? file.source.path =
          some old → old.source.importIndex = file.source.importIndex) :
    ((run config logger root (fresh project) steps).2.step config logger root next).1.unlogged =
      ((fresh (run config logger root (fresh project) steps).2.session).step config logger root
        next).1.unlogged := by
  rw [step_fresh_iff]
  intro file hfile named _ _
  obtain hcurrent | ⟨before, hbefore, old, hfirst, hindex⟩ :=
    index_of_mem_checkedBy_run config logger root project steps next hfile
  · rw [hcurrent]
  · rw [hindex, hkept file hfile before hbefore old hfirst.found]

/-- After any steps, the next step answers with the findings and the summary of a new detector for
    the project as it stands exactly when, in each file that is checked, the imports that count mark
    what could be reported as the text of the file does. Those imports are the ones of the text, or
    of the text that the file had when its imports were settled. -/
theorem run_step_fresh_iff (project : Session) (steps : List Step) (next : Step) :
    let detector := (run config logger root (fresh project) steps).2
    ((detector.step config logger root next).1.unlogged =
          ((fresh detector.session).step config logger root next).1.unlogged ↔
        ∀ file ∈ detector.checkedBy config logger root next,
          file.MarksAsWritten config.assertionFunctions) ∧
      ∀ file ∈ detector.checkedBy config logger root next,
        file.index = file.source.importIndex ∨
          ∃ before, before <+: steps ∧ ∃ old,
            FirstSettled config logger root (fresh project) file.source.path before old ∧
              file.index = old.source.importIndex :=
  ⟨step_fresh_iff config logger root _ next,
    fun _ hfile => index_of_mem_checkedBy_run config logger root project steps next hfile⟩

/-- A file is checked, and then it is edited to take its decorator from another library. -/
def editsOfImports : List Step :=
  [.create "/a.ts" "import{required as r}from'meta';class A{m(@r{a}){assert(a!=null)}}",
    .checkOne "/a.ts",
    .create "/a.ts" "import{required as r}from'other';class A{m(@r{a}){assert(a!=null)}}"]

theorem step_not_fresh_of_editsOfImports :
    let config : Config := ⟨[], [], none, ["assert"]⟩
    let logger : Logger := ⟨false, false, false⟩
    let detector := (run config logger [] (fresh Session.empty) editsOfImports).2
    (detector.step config logger [] (.checkOne "/a.ts")).1.unlogged ≠
      ((fresh detector.session).step config logger [] (.checkOne "/a.ts")).1.unlogged := by
  decide +kernel

end Detector

end NamedParams
