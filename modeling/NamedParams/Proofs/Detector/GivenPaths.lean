import Mathlib.Data.Finset.Card
import NamedParams.Proofs.Detector.CountedFunctions
import NamedParams.Proofs.Detector.ExcludedPaths

namespace NamedParams

open NamedParams.Source

theorem length_eraseDups {α : Type} [DecidableEq α] (list : List α) :
    list.eraseDups.length = list.toFinset.card := by
  rw [← List.toFinset_card_of_nodup (nodup_eraseDups list)]
  congr 1
  ext a
  rw [List.mem_toFinset, List.mem_toFinset, List.mem_eraseDups]

/-- The line for a message with a label. -/
def Logger.line (logger : Logger) (level : Level) (text : String) : Entry :=
  ⟨level.channel, paint logger.color level.style level.label ++ " " ++ text⟩

/-- A logger that is verbose and not quiet prints every message, on one line if there are no
    details. -/
theorem Logger.message_of_verbose {logger : Logger} (hverbose : logger.verbose = true)
    (hquiet : logger.quiet = false) (level : Level) (text : String) :
    logger.message level text none = [logger.line level text] := by
  simp [message, line, hverbose, hquiet]

namespace Detector

/-- What becomes of a path that is given to a check. -/
inductive Fate where
  | excluded
  | missing
  | loaded
deriving DecidableEq, Repr

/-- A path is excluded as it is given, or there is no file at it, or its file is loaded. -/
def fateOf (excluded : String → Bool) (session : Session) (root : List String) (path : String) :
    Fate :=
  if excluded path then .excluded
  else if (session.fileAt? (Path.resolve root path)).isSome then .loaded
  else .missing

/-- What is logged about a path while files are loaded. -/
def Fate.log (logger : Logger) (root : List String) (path : String) : Fate → List Entry
  | .excluded => logger.debug ("Excluded " ++ path)
  | .missing =>
    logger.message .warn
      ("Failed to load " ++ path ++ ": File not found: " ++ filePath root path) none
  | .loaded => []

/-- The line that a verbose run logs about a path that is not loaded. -/
def Fate.line? (logger : Logger) (root : List String) (path : String) : Fate → Option Entry
  | .excluded => some (logger.line .debug ("Excluded " ++ path))
  | .missing =>
    some (logger.line .warn
      ("Failed to load " ++ path ++ ": File not found: " ++ filePath root path))
  | .loaded => none

theorem Fate.log_of_verbose {logger : Logger} (hverbose : logger.verbose = true)
    (hquiet : logger.quiet = false) (root : List String) (path : String) (fate : Fate) :
    fate.log logger root path = (fate.line? logger root path).toList := by
  cases fate with
  | excluded => exact Logger.message_of_verbose hverbose hquiet _ _
  | missing => exact Logger.message_of_verbose hverbose hquiet _ _
  | loaded => rfl

end Detector

section Loading

variable {excluded : String → Bool} {logger : Logger} {root : List String} {session : Session}

open Detector

theorem Loading.Reads.log_addBy (hroot : Path.IsPlace root) {paths : List String}
    {loading : Loading} (hreads : loading.Reads excluded root session paths) (path : String) :
    (loading.addBy excluded logger root path).log =
      loading.log ++ (fateOf excluded session root path).log logger root path := by
  have hsame := hreads.kept _ (Path.isPlace_resolve hroot path)
  rw [Loading.addBy, fateOf]
  cases hexcluded : excluded path with
  | true => rfl
  | false =>
    rw [if_neg Bool.false_ne_true, if_neg Bool.false_ne_true]
    dsimp only
    cases hfile : session.fileAt? (Path.resolve root path) with
    | none =>
      rw [hfile] at hsame
      rw [Session.load_of_fileAt?_eq_none hsame]
      rfl
    | some file =>
      rw [hfile] at hsame
      obtain ⟨after, hload, -⟩ := Session.exists_load_of_fileAt? hsame
      rw [hload]
      exact (List.append_nil _).symm

/-- Each path that is not loaded is logged when its turn comes, and nothing else is. -/
theorem Session.log_loadAllBy (hroot : Path.IsPlace root) (paths : List String) :
    (session.loadAllBy excluded logger root paths).log =
      paths.flatMap fun path => (fateOf excluded session root path).log logger root path := by
  have hfold : ∀ (rest done : List String) (loading : Loading),
      loading.Reads excluded root session done →
        (rest.foldl (Loading.addBy excluded logger root) loading).log =
          loading.log ++ rest.flatMap fun path =>
            (fateOf excluded session root path).log logger root path := by
    intro rest
    induction rest with
    | nil => exact fun done loading hreads => (List.append_nil _).symm
    | cons path rest ih =>
      intro done loading hreads
      rw [List.foldl_cons, ih _ _ (hreads.addBy logger hroot path), hreads.log_addBy hroot,
        List.flatMap_cons, List.append_assoc]
  refine hfold paths [] ⟨[], [], session⟩ ⟨rfl, fun _ _ => rfl, ?_⟩
  exact fun path hpath => (List.not_mem_nil hpath).elim

end Loading

/-- What is logged about the check of a file. -/
def checkLog (config : Config) (logger : Logger) (file : ProjectFile) : List Entry :=
  checkedMessage logger file.source.path (checkFile config file).findings.length

/-- The line that a verbose run logs about the check of a file. -/
def checkLine (config : Config) (logger : Logger) (file : ProjectFile) : Entry :=
  logger.line .debug (file.source.path ++ ": " ++
    toString (checkFile config file).findings.length ++ " finding(s)")

theorem flatMap_checkLog_of_verbose {logger : Logger} (hverbose : logger.verbose = true)
    (hquiet : logger.quiet = false) (config : Config) (files : List ProjectFile) :
    files.flatMap (checkLog config logger) = files.map (checkLine config logger) := by
  rw [← List.flatMap_pure_eq_map]
  exact List.flatMap_congr fun file _ => Logger.message_of_verbose hverbose hquiet _ _

theorem tallyFiles_log (config : Config) (logger : Logger) (paths : List String) :
    ∀ (tally : Tally) (detector : Detector),
      (tallyFiles config logger paths (tally, detector)).1.log =
        tally.log ++ (detector.session.checked config paths).flatMap (checkLog config logger) := by
  induction paths with
  | nil => exact fun tally detector => (List.append_nil _).symm
  | cons path rest ih =>
    intro tally detector
    rw [tallyFiles]
    cases hexcludes : config.excludes path with
    | true =>
      rw [if_pos rfl, Session.checked_cons_of_excludes hexcludes]
      exact ih tally detector
    | false =>
      have hadds := tally.add_adds config logger detector path
      rw [if_neg Bool.false_ne_true, Session.checked_cons hexcludes, ih,
        hadds.session.checked_eq rest, List.flatMap_append, ← List.append_assoc]
      congr 1
      rw [Tally.add]
      cases hfile : detector.session.find? path with
      | none => exact (List.append_nil _).symm
      | some file =>
        rw [Option.map_some, Option.toList_some, List.flatMap_singleton, checkLog,
          checkFile_settle_findings]
        rfl

namespace Detector

section Given

variable (config : Config) (logger : Logger) {root : List String} (detector : Detector)

/-- The files that a check of paths comes to, in order, with the imports that count. -/
def filesGiven (config : Config) (root : List String) (session : Session) (paths : List String) :
    List ProjectFile :=
  session.filesAt root (paths.filter (isFree config.excludes root))

/-- Whether a path is loaded and not excluded as an absolute path. -/
def isChecked (config : Config) (session : Session) (root : List String) (path : String) : Bool :=
  decide (fateOf config.excludes session root path = .loaded) &&
    !config.excludes (filePath root path)

theorem checkPaths_eq_checkPathsBy (paths : List String) :
    detector.checkPaths config logger root paths =
      detector.checkPathsBy config.excludes config logger root paths :=
  checkPaths_excluding config logger config.exclude root detector paths

theorem loaded_loadAll (hroot : Path.IsPlace root) (session : Session) (paths : List String) :
    (session.loadAll config logger root paths).loaded =
      (paths.filter fun path =>
        decide (fateOf config.excludes session root path = .loaded)).map (filePath root) := by
  have hreads := session.loadAllBy_reads config.excludes logger hroot paths
  refine hreads.loaded.trans ?_
  congr 1
  apply List.filter_congr
  intro path _
  rw [fateOf]
  cases config.excludes path with
  | true => rfl
  | false => cases (session.fileAt? (Path.resolve root path)).isSome <;> rfl

theorem checkPaths_log (hroot : Path.IsPlace root) (paths : List String) :
    (detector.checkPaths config logger root paths).1.log =
      (paths.flatMap fun path =>
        (fateOf config.excludes detector.session root path).log logger root path) ++
        (filesGiven config root detector.session paths).flatMap (checkLog config logger) := by
  have hreads := detector.session.loadAllBy_reads config.excludes logger hroot paths
  rw [checkPaths_eq_checkPathsBy, checkPathsBy]
  dsimp only
  rw [detector.session.log_loadAllBy hroot, checkFilesBy_eq, filesGiven,
    ← checked_of_reads config hreads]
  congr 1
  exact tallyFiles_log (config.excluding []) logger _ Tally.empty _

theorem checkPaths_findings (hroot : Path.IsPlace root) (paths : List String) :
    (detector.checkPaths config logger root paths).1.findings =
      (findingsOf config (filesGiven config root detector.session paths)).mergeSort Finding.le := by
  rw [checkPaths_eq_checkPathsBy]
  exact checkPathsBy_findings _ config logger detector hroot paths

theorem checkPaths_summary (hroot : Path.IsPlace root) (paths : List String) :
    (detector.checkPaths config logger root paths).1.summary =
      let files := filesGiven config root detector.session paths
      Summary.ofFindings ((findingsOf config files).mergeSort Finding.le) files.length
        (functionCountOf config files) := by
  rw [checkPaths_eq_checkPathsBy]
  exact checkPathsBy_summary _ config logger detector hroot paths

theorem filesGiven_append (session : Session) (first second : List String) :
    filesGiven config root session (first ++ second) =
      filesGiven config root session first ++ filesGiven config root session second := by
  rw [filesGiven, List.filter_append, Session.filesAt, List.filterMap_append]
  rfl

theorem isChecked_eq (session : Session) (path : String) :
    isChecked config session root path =
      (((session.fileAt? (Path.resolve root path)).map ProjectFile.settle).isSome &&
        isFree config.excludes root path) := by
  rw [isChecked, fateOf, isFree, Option.isSome_map]
  cases config.excludes path <;> cases (session.fileAt? (Path.resolve root path)).isSome <;> simp

theorem length_filesGiven (session : Session) (paths : List String) :
    (filesGiven config root session paths).length =
      paths.countP (isChecked config session root) := by
  rw [filesGiven, Session.filesAt, List.length_filterMap_eq_countP, List.countP_filter]
  congr 1
  funext path
  exact (isChecked_eq config session path).symm

/-- A path that is not checked may be left out. -/
theorem filesGiven_remove {session : Session} {path : String}
    (hpath : isChecked config session root path = false) (before after : List String) :
    filesGiven config root session (before ++ path :: after) =
      filesGiven config root session (before ++ after) := by
  have hnone : filesGiven config root session [path] = [] := by
    rw [← List.length_eq_zero_iff, length_filesGiven, List.countP_singleton, hpath]
    rfl
  rw [← List.singleton_append, filesGiven_append, filesGiven_append, hnone, List.nil_append,
    ← filesGiven_append]

theorem finding_eq_of_mem_filesGiven (hroot : Path.IsPlace root) {session : Session}
    {paths : List String} {a b : Finding}
    (ha : a ∈ findingsOf config (filesGiven config root session paths))
    (hb : b ∈ findingsOf config (filesGiven config root session paths)) (hkey : a.key = b.key) :
    a = b := by
  -- The files are those of a session that has read all of them, whatever it has logged.
  have hreads := session.loadAllBy_reads config.excludes ⟨false, false, false⟩ hroot paths
  rw [filesGiven, ← checked_of_reads config hreads] at ha hb
  exact @finding_eq_of_key_eq (config.excluding []) _ _ _ a b ha hb hkey

theorem findingsOf_filesGiven_append (session : Session) (first second : List String) :
    findingsOf config (filesGiven config root session (first ++ second)) =
      findingsOf config (filesGiven config root session first) ++
        findingsOf config (filesGiven config root session second) := by
  rw [filesGiven_append, findingsOf, List.flatMap_append]
  rfl

theorem checkPaths_findings_append (hroot : Path.IsPlace root) (first second : List String) :
    (detector.checkPaths config logger root (first ++ second)).1.findings =
      (detector.checkPaths config logger root first).1.findings.merge
        (detector.checkPaths config logger root second).1.findings Finding.le := by
  simp only [checkPaths_findings config logger detector hroot]
  rw [findingsOf_filesGiven_append]
  apply Finding.mergeSort_append
  intro a ha b hb
  rw [← findingsOf_filesGiven_append] at ha hb
  exact finding_eq_of_mem_filesGiven config hroot ha hb

/-- Files with findings are among those that are checked. -/
theorem card_filePath_le (files : List ProjectFile) :
    ((findingsOf config files).map Finding.filePath).toFinset.card ≤ files.length := by
  rw [← List.length_map (fun file : ProjectFile => file.source.path)]
  refine (Finset.card_le_card ?_).trans (List.toFinset_card_le _)
  intro path hpath
  rw [List.mem_toFinset, List.mem_map] at hpath ⊢
  obtain ⟨finding, hfinding, rfl⟩ := hpath
  obtain ⟨file, hfile, hfinding⟩ := List.mem_flatMap.mp hfinding
  exact ⟨file, hfile, (checkFile_filePath hfinding).symm⟩

theorem checkPaths_filesWithFindings (hroot : Path.IsPlace root) (paths : List String) :
    let report := (detector.checkPaths config logger root paths).1
    report.summary.filesWithFindings = (report.findings.map Finding.filePath).toFinset.card ∧
      report.summary.filesWithFindings ≤ report.summary.filesAnalyzed ∧
      (report.summary.filesWithFindings = 0 ↔ report.summary.total = 0) := by
  intro report
  have hfindings := checkPaths_findings config logger detector hroot paths
  have hsummary := checkPaths_summary config logger detector hroot paths
  have hcard : report.summary.filesWithFindings =
      (report.findings.map Finding.filePath).toFinset.card := by
    rw [hsummary, hfindings]
    exact length_eraseDups _
  refine ⟨hcard, ?_, ?_⟩
  · have hperm := (List.mergeSort_perm (findingsOf config
      (filesGiven config root detector.session paths)) Finding.le).map Finding.filePath
    rw [hcard, hfindings, List.toFinset_eq_of_perm _ _ hperm, hsummary]
    exact card_filePath_le config _
  · rw [hcard, Finset.card_eq_zero, List.toFinset_eq_empty_iff, List.map_eq_nil_iff,
      ← List.length_eq_zero_iff, hsummary, hfindings]
    rfl

/-- A check of paths drops those that are excluded as they are given and those without a file, and a
    verbose run logs one line for each, in order, before the lines about the files that it checks.
    It checks what is left and is not excluded by its absolute path either, as often as it is given.
    A path that is not checked might as well not have been given. The findings of two lists of paths
    are those of each, merged, and the numbers in the summary add up. The files with findings are
    counted once each, which is at most as often as they are checked, and there are none exactly
    when there are no findings. -/
theorem checkPaths_conserves (hroot : Path.IsPlace root) :
    let report := fun paths => (detector.checkPaths config logger root paths).1
    let fate := fateOf config.excludes detector.session root
    (∀ paths,
      (detector.session.loadAll config logger root paths).loaded =
          (paths.filter fun path => decide (fate path = .loaded)).map (filePath root) ∧
        (logger.verbose = true → logger.quiet = false → (report paths).log =
          (paths.filterMap fun path => (fate path).line? logger root path) ++
            (filesGiven config root detector.session paths).map (checkLine config logger)) ∧
        (report paths).summary.filesAnalyzed =
          paths.countP (fun path =>
            decide (fate path = .loaded) && !config.excludes (filePath root path)) ∧
        (report paths).summary.total = (report paths).findings.length ∧
        (report paths).summary.filesWithFindings =
          ((report paths).findings.map Finding.filePath).toFinset.card ∧
        (report paths).summary.filesWithFindings ≤ (report paths).summary.filesAnalyzed ∧
        ((report paths).summary.filesWithFindings = 0 ↔ (report paths).summary.total = 0)) ∧
      (∀ before path after,
        fate path ≠ .loaded ∨ config.excludes (filePath root path) = true →
          (report (before ++ path :: after)).findings = (report (before ++ after)).findings ∧
            (report (before ++ path :: after)).summary = (report (before ++ after)).summary) ∧
      ∀ first second,
        (report (first ++ second)).findings =
            (report first).findings.merge (report second).findings Finding.le ∧
          (report (first ++ second)).summary.total =
            (report first).summary.total + (report second).summary.total ∧
          (report (first ++ second)).summary.filesAnalyzed =
            (report first).summary.filesAnalyzed + (report second).summary.filesAnalyzed ∧
          (report (first ++ second)).summary.functionsAnalyzed =
            (report first).summary.functionsAnalyzed +
              (report second).summary.functionsAnalyzed := by
  intro report fate
  have hfindings := checkPaths_findings config logger detector hroot
  have hsummary := checkPaths_summary config logger detector hroot
  have hanalyzed : ∀ paths, (report paths).summary.filesAnalyzed =
      paths.countP (isChecked config detector.session root) := by
    intro paths
    rw [hsummary]
    exact length_filesGiven config detector.session paths
  have htotal : ∀ paths, (report paths).summary.total = (report paths).findings.length := by
    intro paths
    rw [hsummary, hfindings]
    rfl
  refine ⟨fun paths => ⟨loaded_loadAll config logger hroot _ paths, ?_, hanalyzed paths,
    htotal paths, checkPaths_filesWithFindings config logger detector hroot paths⟩, ?_, ?_⟩
  · intro hverbose hquiet
    rw [checkPaths_log config logger detector hroot, flatMap_checkLog_of_verbose hverbose hquiet,
      List.filterMap_eq_flatMap_toList]
    simp only [Fate.log_of_verbose hverbose hquiet]
    rfl
  · intro before path after hdropped
    have hpath : isChecked config detector.session root path = false := by
      rw [isChecked, Bool.and_eq_false_iff, decide_eq_false_iff_not, Bool.not_eq_false']
      exact hdropped
    rw [hfindings, hfindings, hsummary, hsummary, filesGiven_remove config hpath]
    exact ⟨rfl, rfl⟩
  · intro first second
    have hmerge := checkPaths_findings_append config logger detector hroot first second
    refine ⟨hmerge, ?_, ?_, ?_⟩
    · rw [htotal, htotal, htotal, hmerge, List.length_merge]
    · rw [hanalyzed, hanalyzed, hanalyzed, List.countP_append]
    · rw [hsummary, hsummary, hsummary, filesGiven_append]
      dsimp only [Summary.ofFindings]
      rw [functionCountOf, List.map_append, List.sum_append]
      rfl

end Given

/-- Of the two files on disk, one is given twice. The other one is excluded, and a third one is
    missing. -/
theorem checkPaths_conserves_of_twoFiles :
    let config : Config := ⟨[], ["b.ts"], none, ["assert"]⟩
    let logger : Logger := ⟨true, false, false⟩
    let report := fun paths => (twoFiles.checkPaths config logger ["p"] paths).1
    Path.IsPlace ["p"] ∧ logger.verbose = true ∧ logger.quiet = false ∧
      (report ["a.ts", "b.ts", "c.ts", "./a.ts"]).log =
        [⟨.out, "… Debug: Excluded b.ts"⟩,
          ⟨.err, "⚠ Warning: Failed to load c.ts: File not found: /p/c.ts"⟩,
          ⟨.out, "… Debug: /p/a.ts: 1 finding(s)"⟩, ⟨.out, "… Debug: /p/a.ts: 1 finding(s)"⟩] ∧
      fateOf config.excludes twoFiles.session ["p"] "c.ts" ≠ .loaded ∧
      (report ["a.ts", "b.ts", "c.ts", "./a.ts"]).findings =
        (report ["a.ts", "b.ts", "./a.ts"]).findings ∧
      (report ["a.ts", "b.ts", "c.ts", "./a.ts"]).summary.filesAnalyzed = 2 := by
  intro config logger report
  have hroot : Path.IsPlace ["p"] := by decide
  have hmissing : fateOf config.excludes twoFiles.session ["p"] "c.ts" ≠ .loaded := by
    decide +kernel
  obtain ⟨hpaths, hremove, -⟩ := checkPaths_conserves config logger twoFiles hroot
  obtain ⟨-, hlog, hanalyzed, -⟩ := hpaths ["a.ts", "b.ts", "c.ts", "./a.ts"]
  obtain ⟨hfindings, -⟩ := hremove ["a.ts", "b.ts"] "c.ts" ["./a.ts"] (.inl hmissing)
  rw [List.cons_append, List.cons_append, List.nil_append, List.cons_append, List.cons_append,
    List.nil_append] at hfindings
  refine ⟨hroot, rfl, rfl, (hlog rfl rfl).trans (by decide +kernel), hmissing, hfindings,
    ?_⟩
  rw [hanalyzed]
  decide +kernel

end Detector

end NamedParams
