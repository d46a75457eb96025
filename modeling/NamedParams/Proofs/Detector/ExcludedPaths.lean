import Mathlib.Data.List.Flatten
import NamedParams.Proofs.Detector.SettledImports
import NamedParams.Proofs.Detector.SortedFindings
import NamedParams.Proofs.Files.Places
import NamedParams.Proofs.Sorting

namespace NamedParams

open NamedParams.Source

/-- Whether one of some patterns hits a path. -/
def hitByAny (hits : String → String → Bool) (patterns : List String) (path : String) : Bool :=
  patterns.any (hits · path)

theorem hitByAny_append (hits : String → String → Bool) (patterns more : List String)
    (path : String) : hitByAny hits (patterns ++ more) path =
      (hitByAny hits patterns path || hitByAny hits more path) :=
  List.any_append

/-- The configuration with other exclusions. -/
def Config.excluding (config : Config) (patterns : List String) : Config :=
  { config with exclude := patterns }

theorem Config.excludes_excluding (config : Config) (patterns : List String) :
    (config.excluding patterns).excludes = hitByAny Glob.matchesPath patterns := rfl

section ExcludedBy

variable (excluded : String → Bool) (config : Config) (logger : Logger)

/-- Checks files one after the other, other than those that are excluded, whatever decides about
    that. -/
def tallyFilesBy : List String → Tally × Detector → Tally × Detector
  | [], state => state
  | path :: rest, (tally, detector) =>
    if excluded path then tallyFilesBy rest (tally, detector)
    else tallyFilesBy rest (tally.add config logger detector path)

/-- Checks files of the session, whatever excludes some of them. -/
def Detector.checkFilesBy (detector : Detector) (paths : List String) : CheckReport × Detector :=
  let (tally, detector) :=
    tallyFilesBy excluded config logger paths (Tally.empty, { detector with functionsCounted := 0 })
  let findings := tally.findings.mergeSort Finding.le
  ({ findings
     summary := Summary.ofFindings findings tally.filesAnalyzed detector.functionsCounted
     log := tally.log }, detector)

/-- Reads the file at a path, unless the path is excluded, whatever decides about that. -/
def Loading.addBy (root : List String) (loading : Loading) (path : String) : Loading :=
  if excluded path then
    { loading with log := loading.log ++ logger.debug ("Excluded " ++ path) }
  else
    let place := Path.resolve root path
    match loading.session.load place with
    | some session =>
      { loading with loaded := loading.loaded ++ [Path.absolute place], session }
    | none =>
      let message := "Failed to load " ++ path ++ ": File not found: " ++ Path.absolute place
      { loading with log := loading.log ++ logger.message .warn message none }

/-- Reads the files at some paths, whatever excludes some of those. -/
def Session.loadAllBy (root : List String) (session : Session) (paths : List String) : Loading :=
  paths.foldl (Loading.addBy excluded logger root) ⟨[], [], session⟩

/-- Reads and checks the files at some paths, whatever excludes some of those. -/
def Detector.checkPathsBy (root : List String) (detector : Detector) (paths : List String) :
    CheckReport × Detector :=
  let loading := detector.session.loadAllBy excluded logger root paths
  let (report, detector) :=
    { detector with session := loading.session }.checkFilesBy excluded config logger loading.loaded
  ({ report with log := loading.log ++ report.log }, detector)

/-- To exclude paths is to give only the others. -/
theorem tallyFilesBy_eq (paths : List String) : ∀ state : Tally × Detector,
    tallyFilesBy excluded config logger paths state =
      tallyFiles (config.excluding []) logger (paths.filter (!excluded ·)) state := by
  induction paths with
  | nil => exact fun _ => rfl
  | cons path rest ih =>
    intro ⟨tally, detector⟩
    rw [tallyFilesBy]
    cases hexcluded : excluded path with
    | true =>
      rw [if_pos rfl, List.filter_cons_of_neg (by simp [hexcluded]), ih]
    | false =>
      have hnothing : (config.excluding []).excludes path = false := rfl
      rw [if_neg Bool.false_ne_true, List.filter_cons_of_pos (by simp [hexcluded]), tallyFiles,
        hnothing, if_neg Bool.false_ne_true, ih]
      rfl

theorem Detector.checkFilesBy_eq (detector : Detector) (paths : List String) :
    detector.checkFilesBy excluded config logger paths =
      detector.checkFiles (config.excluding []) logger (paths.filter (!excluded ·)) := by
  rw [checkFilesBy, checkFiles, tallyFilesBy_eq]

end ExcludedBy

section Patterns

variable (config : Config) (logger : Logger) (patterns : List String)

/-- What the detector itself excludes. -/
theorem tallyFiles_excluding (paths : List String) : ∀ state : Tally × Detector,
    tallyFiles (config.excluding patterns) logger paths state =
      tallyFilesBy (hitByAny Glob.matchesPath patterns) config logger paths state := by
  induction paths with
  | nil => exact fun _ => rfl
  | cons path rest ih =>
    intro ⟨tally, detector⟩
    rw [tallyFiles, tallyFilesBy, Config.excludes_excluding, ih, ih]
    rfl

theorem Detector.checkFiles_excluding (detector : Detector) (paths : List String) :
    detector.checkFiles (config.excluding patterns) logger paths =
      detector.checkFilesBy (hitByAny Glob.matchesPath patterns) config logger paths := by
  rw [checkFiles, checkFilesBy, tallyFiles_excluding]

theorem Detector.checkPaths_excluding (root : List String) (detector : Detector)
    (paths : List String) :
    detector.checkPaths (config.excluding patterns) logger root paths =
      detector.checkPathsBy (hitByAny Glob.matchesPath patterns) config logger root paths := by
  have hloading : detector.session.loadAll (config.excluding patterns) logger root paths =
      detector.session.loadAllBy (hitByAny Glob.matchesPath patterns) logger root paths := rfl
  rw [checkPaths, checkPathsBy, hloading]
  dsimp only
  rw [checkFiles_excluding]

end Patterns

namespace Session

/-- The file at a place: that of the session, or else that on disk. -/
def fileAt? (session : Session) (place : List String) : Option ProjectFile :=
  (session.find? (Path.absolute place)).or
    ((session.disk.read? place).map fun content =>
      ⟨SourceFile.parse (Path.absolute place) content, none⟩)

variable {session : Session} {place : List String}

theorem load_of_fileAt?_eq_none (hnone : session.fileAt? place = none) :
    session.load place = none := by
  rw [fileAt?, Option.or_eq_none_iff, Option.map_eq_none_iff] at hnone
  rw [load, hnone.1, hnone.2]
  rfl

/-- Reading a file puts it into the session, and leaves the others alone. -/
theorem exists_load_of_fileAt? {file : ProjectFile} (hfile : session.fileAt? place = some file) :
    ∃ after, session.load place = some after ∧ after.disk = session.disk ∧
      ∀ path, after.find? path =
        if Path.absolute place = path then some file else session.find? path := by
  rw [fileAt?] at hfile
  rw [load]
  cases hold : session.find? (Path.absolute place) with
  | some old =>
    rw [hold, Option.some_or] at hfile
    refine ⟨session, rfl, rfl, fun path => ?_⟩
    split
    · rename_i hpath
      rw [← hpath, hold, hfile]
    · rfl
  | none =>
    rw [hold, Option.none_or, Option.map_eq_some_iff] at hfile
    obtain ⟨content, hcontent, rfl⟩ := hfile
    refine ⟨session.create (Path.absolute place) content, by simp [hcontent], ?_, fun path => ?_⟩
    · rw [create, hold]
    · rw [find?_create, hold]
      rfl

/-- The files of the session with some absolute paths, with the imports that count. -/
def filesOf (session : Session) (paths : List String) : List ProjectFile :=
  paths.filterMap fun path => (session.find? path).map ProjectFile.settle

/-- The files at some paths, with the imports that count. -/
def filesAt (session : Session) (root paths : List String) : List ProjectFile :=
  paths.filterMap fun path =>
    (session.fileAt? (Path.resolve root path)).map ProjectFile.settle

end Session

/-- What holds once some paths have been gone through: those that are not excluded and have a file
    are loaded. Each place has the file that it had at first, and it is that file that a check comes
    upon. -/
structure Loading.Reads (excluded : String → Bool) (root : List String) (session : Session)
    (paths : List String) (loading : Loading) : Prop where
  loaded : loading.loaded =
    (paths.filter fun path =>
      !excluded path && (session.fileAt? (Path.resolve root path)).isSome).map
        (Detector.filePath root)
  kept (place : List String) (hplace : Path.IsPlace place) :
    loading.session.fileAt? place = session.fileAt? place
  found (path : String) (hpath : path ∈ paths) (hincluded : excluded path = false) :
    loading.session.find? (Detector.filePath root path) =
      session.fileAt? (Path.resolve root path)

section Loading

variable {excluded : String → Bool} {root : List String} {session : Session}

/-- A path may be passed over if it is excluded, or if there is no file at it, whatever is logged
    about it. -/
theorem Loading.Reads.skip {paths : List String} {loading : Loading}
    (hreads : loading.Reads excluded root session paths) {path : String}
    (hpath : excluded path = true ∨ session.fileAt? (Path.resolve root path) = none ∧
      loading.session.find? (Detector.filePath root path) = none) (log : List Entry) :
    Loading.Reads excluded root session (paths ++ [path]) { loading with log } := by
  have hdropped : (!excluded path &&
      (session.fileAt? (Path.resolve root path)).isSome) = false := by
    obtain hexcluded | ⟨hnone, _⟩ := hpath
    · simp [hexcluded]
    · simp [hnone]
  refine ⟨?_, hreads.kept, ?_⟩
  · rw [List.filter_append, List.filter_singleton, hdropped]
    simpa using hreads.loaded
  · intro other hother hincluded
    obtain hother | hother := List.mem_append.mp hother
    · exact hreads.found other hother hincluded
    · obtain rfl := List.mem_singleton.mp hother
      obtain hexcluded | ⟨hnone, hfind⟩ := hpath
      · simp [hexcluded] at hincluded
      · rw [hnone, hfind]

/-- A file that is read is the one that was at its place at first, also if it has been read
    before. -/
theorem Loading.Reads.read (hroot : Path.IsPlace root) {paths : List String} {loading : Loading}
    (hreads : loading.Reads excluded root session paths) {path : String} {file : ProjectFile}
    (hincluded : excluded path = false)
    (hfile : session.fileAt? (Path.resolve root path) = some file) {after : Session}
    (hdisk : after.disk = loading.session.disk)
    (hfind : ∀ other, after.find? other =
      if Detector.filePath root path = other then some file else loading.session.find? other) :
    Loading.Reads excluded root session (paths ++ [path])
      { loading with
        loaded := loading.loaded ++ [Detector.filePath root path], session := after } := by
  have hplace : ∀ other, Path.IsPlace (Path.resolve root other) := Path.isPlace_resolve hroot
  refine ⟨?_, ?_, ?_⟩
  · rw [List.filter_append, List.filter_singleton, hincluded, hfile, List.map_append,
      hreads.loaded]
    rfl
  · intro other hother
    rw [← hreads.kept other hother, Session.fileAt?, Session.fileAt?, hfind, hdisk]
    split
    · rename_i hpath
      obtain rfl := Path.absolute_injective (hplace path) hother hpath
      rw [Option.some_or, ← hfile]
      exact (hreads.kept _ hother).symm
    · rfl
  · intro other hother hincluded
    rw [hfind]
    -- Other paths may lead to this file as well.
    split
    · rename_i hpath
      rw [← Path.absolute_injective (hplace path) (hplace other) hpath, hfile]
    · rename_i hpath
      obtain hother | hother := List.mem_append.mp hother
      · exact hreads.found other hother hincluded
      · obtain rfl := List.mem_singleton.mp hother
        exact absurd rfl hpath

theorem Loading.Reads.addBy (logger : Logger) (hroot : Path.IsPlace root) {paths : List String}
    {loading : Loading} (hreads : loading.Reads excluded root session paths) (path : String) :
    (loading.addBy excluded logger root path).Reads excluded root session (paths ++ [path]) := by
  have hsame := hreads.kept _ (Path.isPlace_resolve hroot path)
  rw [Loading.addBy]
  cases hexcluded : excluded path with
  | true =>
    rw [if_pos rfl]
    exact hreads.skip (.inl hexcluded) _
  | false =>
    rw [if_neg Bool.false_ne_true]
    dsimp only
    cases hfile : session.fileAt? (Path.resolve root path) with
    | none =>
      rw [hfile] at hsame
      rw [Session.load_of_fileAt?_eq_none hsame]
      exact hreads.skip (.inr ⟨hfile, (Option.or_eq_none_iff.mp hsame).1⟩) _
    | some file =>
      rw [hfile] at hsame
      obtain ⟨after, hload, hdisk, hfind⟩ := Session.exists_load_of_fileAt? hsame
      rw [hload]
      exact hreads.read hroot hexcluded hfile hdisk hfind

theorem Session.loadAllBy_reads (excluded : String → Bool) (logger : Logger)
    (hroot : Path.IsPlace root) (session : Session) (paths : List String) :
    (session.loadAllBy excluded logger root paths).Reads excluded root session paths := by
  have hfold : ∀ (rest done : List String) (loading : Loading),
      loading.Reads excluded root session done →
        (rest.foldl (Loading.addBy excluded logger root) loading).Reads excluded root session
          (done ++ rest) := by
    intro rest
    induction rest with
    | nil =>
      intro done loading hreads
      rwa [List.append_nil]
    | cons path rest ih =>
      intro done loading hreads
      have hstep := ih _ _ (hreads.addBy logger hroot path)
      rwa [List.append_assoc, List.singleton_append] at hstep
  refine hfold paths [] ⟨[], [], session⟩ ⟨rfl, fun _ _ => rfl, ?_⟩
  exact fun path hpath => (List.not_mem_nil hpath).elim

end Loading

namespace Detector

/-- Whether a path is excluded neither as it is given nor as an absolute path. -/
def isFree (excluded : String → Bool) (root : List String) (path : String) : Bool :=
  !excluded path && !excluded (filePath root path)

section Report

variable (excluded : String → Bool) (config : Config) (logger : Logger) {root : List String}
  (detector : Detector)

theorem checked_excluding_nil (session : Session) (paths : List String) :
    session.checked (config.excluding []) paths = session.filesOf paths := by
  have hall : paths.filter (fun path => !(config.excluding []).excludes path) = paths :=
    List.filter_eq_self.mpr fun _ _ => rfl
  rw [Session.checked, hall, Session.filesOf]

/-- After some paths have been read, those are checked that are free and have a file. -/
theorem checked_of_reads {excluded : String → Bool} {session : Session} {paths : List String}
    {loading : Loading} (hreads : loading.Reads excluded root session paths) :
    loading.session.checked (config.excluding []) (loading.loaded.filter (!excluded ·)) =
      session.filesAt root (paths.filter (isFree excluded root)) := by
  rw [checked_excluding_nil, Session.filesOf, hreads.loaded, List.filter_map, List.filterMap_map,
    List.filter_filter, List.filterMap_filter, Session.filesAt, List.filterMap_filter]
  apply List.filterMap_congr
  intro path hpath
  cases hexcluded : excluded path with
  | true => simp [isFree, hexcluded]
  | false =>
    have hfound := hreads.found path hpath hexcluded
    simp only [Function.comp_apply, isFree, hexcluded, hfound]
    cases session.fileAt? (Path.resolve root path) <;> simp

theorem checkPathsBy_findings (hroot : Path.IsPlace root) (paths : List String) :
    (detector.checkPathsBy excluded config logger root paths).1.findings =
      (findingsOf config (detector.session.filesAt root
        (paths.filter (isFree excluded root)))).mergeSort Finding.le := by
  have hreads := detector.session.loadAllBy_reads excluded logger hroot paths
  rw [checkPathsBy]
  dsimp only
  rw [checkFilesBy_eq, checkFiles_findings, checked_of_reads config hreads]
  rfl

theorem checkPathsBy_summary (hroot : Path.IsPlace root) (paths : List String) :
    (detector.checkPathsBy excluded config logger root paths).1.summary =
      let files := detector.session.filesAt root (paths.filter (isFree excluded root))
      Summary.ofFindings ((findingsOf config files).mergeSort Finding.le) files.length
        (functionCountOf config files) := by
  have hreads := detector.session.loadAllBy_reads excluded logger hroot paths
  rw [checkPathsBy]
  dsimp only
  rw [checkFilesBy_eq, checkFiles_summary, checkFiles_findings, checked_of_reads config hreads]
  rfl

theorem checkFilesBy_findings (paths : List String) :
    (detector.checkFilesBy excluded config logger paths).1.findings =
      (findingsOf config (detector.session.filesOf (paths.filter (!excluded ·)))).mergeSort
        Finding.le := by
  rw [checkFilesBy_eq, checkFiles_findings, checked_excluding_nil]
  rfl

end Report

section Filtering

variable (hits : String → String → Bool) (patterns more : List String) (config : Config)
  (logger : Logger) {root : List String} (detector : Detector) (paths : List String)

theorem isFree_append (path : String) :
    isFree (hitByAny hits (patterns ++ more)) root path =
      (isFree (hitByAny hits patterns) root path && isFree (hitByAny hits more) root path) := by
  simp only [isFree, hitByAny_append, Bool.not_or, Bool.and_assoc, Bool.and_left_comm]

theorem filter_isFree_append :
    paths.filter (isFree (hitByAny hits (patterns ++ more)) root) =
      (paths.filter (isFree (hitByAny hits more) root)).filter
        (isFree (hitByAny hits patterns) root) := by
  rw [List.filter_filter]
  congr 1
  funext path
  exact isFree_append hits patterns more path

/-- The findings about a file all have its path, so they are left out with the file. -/
theorem filter_checkFile_findings (excluded : String → Bool) (file : ProjectFile) :
    (checkFile config file).findings.filter (!excluded ·.filePath) =
      if excluded file.source.path then [] else (checkFile config file).findings := by
  cases hexcluded : excluded file.source.path with
  | true =>
    rw [if_pos rfl, List.filter_eq_nil_iff]
    intro finding hfinding
    simp [checkFile_filePath hfinding, hexcluded]
  | false =>
    rw [if_neg Bool.false_ne_true, List.filter_eq_self]
    intro finding hfinding
    simp [checkFile_filePath hfinding, hexcluded]

theorem filter_findingsOf (excluded : String → Bool) (session : Session) :
    (findingsOf config (session.filesOf paths)).filter (!excluded ·.filePath) =
      findingsOf config (session.filesOf (paths.filter (!excluded ·))) := by
  rw [Session.filesOf, Session.filesOf, List.filterMap_filter, findingsOf, List.filter_flatMap,
    findingsOf]
  induction paths with
  | nil => rfl
  | cons path rest ih =>
    rw [List.filterMap_cons, List.filterMap_cons]
    cases hfile : session.find? path with
    | none => simpa using ih
    | some file =>
      have hpath : file.source.path = path := Session.path_of_find? hfile
      cases hexcluded : excluded path with
      | true => simpa [filter_checkFile_findings, hpath, hexcluded] using ih
      | false => simpa [filter_checkFile_findings, hpath, hexcluded] using ih

/-- To exclude more paths is to leave them out beforehand, whatever it is for a pattern to hit a
    path. A check of paths with some patterns more gives the findings and the summary of the check
    without them of those paths that they hit neither as given nor as absolute paths, however many
    paths have no file or lead to the same one. A check of files of the session with some patterns
    more finds what the check without them finds in files whose path they do not hit. So patterns
    never add a finding and never change one or the order. The detector excludes in this way, by
    the patterns of its configuration. The paths may start from any directory, and the detector may
    have checked anything before. -/
theorem checks_exclude_by_filtering (hroot : Path.IsPlace root) :
    let pathsReport := fun patterns paths =>
      (detector.checkPathsBy (hitByAny hits patterns) config logger root paths).1
    let filesReport := fun patterns paths =>
      (detector.checkFilesBy (hitByAny hits patterns) config logger paths).1
    ((pathsReport (patterns ++ more) paths).findings =
          (pathsReport patterns (paths.filter (isFree (hitByAny hits more) root))).findings ∧
        (pathsReport (patterns ++ more) paths).summary =
          (pathsReport patterns (paths.filter (isFree (hitByAny hits more) root))).summary) ∧
      (filesReport (patterns ++ more) paths).findings =
        (filesReport patterns paths).findings.filter (!hitByAny hits more ·.filePath) ∧
      (pathsReport (patterns ++ more) paths).findings.Sublist
        (pathsReport patterns paths).findings ∧
      detector.checkPaths (config.excluding patterns) logger root paths =
        detector.checkPathsBy (hitByAny Glob.matchesPath patterns) config logger root paths ∧
      detector.checkFiles (config.excluding patterns) logger paths =
        detector.checkFilesBy (hitByAny Glob.matchesPath patterns) config logger paths := by
  intro pathsReport filesReport
  have hfindings : ∀ patterns paths, (pathsReport patterns paths).findings =
      (findingsOf config (detector.session.filesAt root
        (paths.filter (isFree (hitByAny hits patterns) root)))).mergeSort Finding.le :=
    fun patterns => checkPathsBy_findings _ config logger detector hroot
  refine ⟨⟨?_, ?_⟩, ?_, ?_, checkPaths_excluding config logger patterns root detector paths,
    checkFiles_excluding config logger patterns detector paths⟩
  · rw [hfindings, hfindings, filter_isFree_append]
  · have hsummary := fun patterns paths =>
      checkPathsBy_summary (hitByAny hits patterns) config logger detector hroot paths
    rw [hsummary, hsummary, filter_isFree_append]
  · have hchecked := fun patterns =>
      checkFilesBy_findings (hitByAny hits patterns) config logger detector paths
    have hfilter : paths.filter (!hitByAny hits (patterns ++ more) ·) =
        (paths.filter (!hitByAny hits patterns ·)).filter (!hitByAny hits more ·) := by
      rw [List.filter_filter]
      congr 1
      funext path
      rw [hitByAny_append, Bool.not_or, Bool.and_comm]
    rw [hchecked, hchecked, filter_mergeSort Finding.le_trans Finding.le_total, filter_findingsOf,
      hfilter]
  · rw [hfindings, hfindings, filter_isFree_append]
    apply mergeSort_sublist Finding.le_trans Finding.le_total
    exact ((List.filter_sublist.filter _).filterMap _).flatMap _

end Filtering

/-- A project of two files on disk. -/
def twoFiles : Detector :=
  .start ⟨[], ⟨[(["p", "a.ts"], "function f({a}){assert(a!=null)}"),
    (["p", "b.ts"], "function f({b}){assert(b!=null)}")], []⟩⟩

theorem checks_exclude_by_filtering_of_twoFiles :
    let config : Config := ⟨[], [], none, ["assert"]⟩
    let paths := ["a.ts", "./a.ts", "b.ts", "c.ts"]
    let report := fun patterns paths => (twoFiles.checkPathsBy
      (hitByAny (fun pattern path => pattern = path) patterns) config ⟨false, false, false⟩ ["p"]
      paths).1
    (report ["./a.ts"] paths).findings.length = 2 ∧
      paths.filter (isFree (hitByAny (fun pattern path => pattern = path) ["/p/a.ts"]) ["p"]) =
        ["b.ts", "c.ts"] ∧
      (report ["./a.ts", "/p/a.ts"] paths).findings =
        (report ["./a.ts"] ["b.ts", "c.ts"]).findings ∧
      (report ["./a.ts", "/p/a.ts"] paths).summary =
        (report ["./a.ts"] ["b.ts", "c.ts"]).summary := by
  intro config paths report
  have hroot : Path.IsPlace ["p"] := by decide
  have hfree : paths.filter
      (isFree (hitByAny (fun pattern path => pattern = path) ["/p/a.ts"]) ["p"]) =
        ["b.ts", "c.ts"] := by decide +kernel
  obtain ⟨hfiltering, -⟩ := checks_exclude_by_filtering (fun pattern path => pattern = path)
    ["./a.ts"] ["/p/a.ts"] config ⟨false, false, false⟩ twoFiles paths hroot
  rw [hfree] at hfiltering
  refine ⟨?_, hfree, hfiltering⟩
  rw [checkPathsBy_findings _ config _ twoFiles hroot, List.length_mergeSort]
  decide +kernel

end Detector

end NamedParams
