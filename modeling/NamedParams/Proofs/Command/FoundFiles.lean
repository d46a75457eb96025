import NamedParams.Command.Check
import NamedParams.Proofs.Detector.SettledImports
import NamedParams.Proofs.Files.Targets

namespace NamedParams

open NamedParams.Glob

/-- Whether a path is the absolute path of a file that can be read. -/
def FileTree.Holds (tree : FileTree) (path : String) : Prop :=
  ∃ place, Path.IsPlace place ∧ (tree.read? place).isSome = true ∧ Path.absolute place = path

section Loading

theorem Session.create_disk (session : Session) (path content : String) :
    (session.create path content).disk = session.disk := by
  rw [create]
  cases session.find? path <;> rfl

/-- After a file has been read, it is there, as are all that were there before. -/
theorem Session.exists_load {session : Session} {place : List String}
    (hread : (session.disk.read? place).isSome = true) :
    ∃ after, session.load place = some after ∧ after.disk = session.disk ∧
      ∀ path, (after.find? path).isSome = true ↔
        Path.absolute place = path ∨ (session.find? path).isSome = true := by
  rw [load]
  cases hfile : session.find? (Path.absolute place) with
  | some file =>
    refine ⟨session, rfl, rfl, fun path => (or_iff_right_of_imp ?_).symm⟩
    rintro rfl
    rw [hfile]
    rfl
  | none =>
    obtain ⟨content, hcontent⟩ := Option.isSome_iff_exists.mp hread
    refine ⟨session.create (Path.absolute place) content, ?_, create_disk _ _ _, fun path => ?_⟩
    · rw [hcontent]
      rfl
    · rw [find?_create]
      by_cases hpath : Path.absolute place = path
      · simp [hpath]
      · simp [hpath]

variable (config : Config) (logger : Logger) (root : List String)

/-- Reading the file at a path that is not excluded. -/
theorem Loading.add_of_holds (loading : Loading) {path : String}
    (hholds : loading.session.disk.Holds path) (hincluded : config.excludes path = false) :
    (loading.add config logger root path).loaded = loading.loaded ++ [path] ∧
      (loading.add config logger root path).session.disk = loading.session.disk ∧
      ∀ other, ((loading.add config logger root path).session.find? other).isSome = true ↔
        path = other ∨ (loading.session.find? other).isSome = true := by
  obtain ⟨place, hplace, hread, rfl⟩ := hholds
  obtain ⟨after, hload, hdisk, hfind⟩ := Session.exists_load hread
  rw [add, if_neg (by simp [hincluded]), Path.resolve_absolute hplace]
  simp only [hload]
  exact ⟨trivial, hdisk, hfind⟩

/-- Of files that can all be read, those are read that are not excluded. -/
theorem Loading.foldl_add_of_holds (paths : List String) : ∀ loading : Loading,
    (∀ path ∈ paths, loading.session.disk.Holds path) →
    (∀ path ∈ loading.loaded, (loading.session.find? path).isSome = true) →
    let after := paths.foldl (fun loading path => loading.add config logger root path) loading
    after.loaded = loading.loaded ++ paths.filter (!config.excludes ·) ∧
      ∀ path ∈ after.loaded, (after.session.find? path).isSome = true := by
  induction paths with
  | nil =>
    intro loading _ hloaded
    exact ⟨(List.append_nil _).symm, hloaded⟩
  | cons path rest ih =>
    intro loading hpaths hloaded
    obtain ⟨hpath, hrest⟩ := List.forall_mem_cons.mp hpaths
    rw [List.foldl_cons]
    cases hexcludes : config.excludes path with
    | true =>
      have hsame : (loading.add config logger root path).session = loading.session := by
        rw [Loading.add, if_pos hexcludes]
      have hloadedSame : (loading.add config logger root path).loaded = loading.loaded := by
        rw [Loading.add, if_pos hexcludes]
      rw [List.filter_cons_of_neg (by simp [hexcludes]), ← hloadedSame]
      exact ih _ (by rwa [hsame]) (by rwa [hsame, hloadedSame])
    | false =>
      obtain ⟨hadded, hdisk, hfind⟩ := loading.add_of_holds config logger root hpath hexcludes
      obtain ⟨hall, hfound⟩ := ih (loading.add config logger root path) (by rwa [hdisk]) (by
        intro other hother
        rw [hadded] at hother
        obtain hother | hother := List.mem_append.mp hother
        · exact (hfind other).mpr (.inr (hloaded other hother))
        · exact (hfind other).mpr (.inl (List.mem_singleton.mp hother).symm))
      refine ⟨?_, hfound⟩
      rw [hall, hadded, List.filter_cons_of_pos (by simp [hexcludes]), List.append_assoc]
      rfl

theorem Session.length_checked {session : Session} {paths : List String}
    (hpaths : ∀ path ∈ paths, (session.find? path).isSome = true) :
    (session.checked config paths).length = (paths.filter (!config.excludes ·)).length := by
  induction paths with
  | nil => rfl
  | cons path rest ih =>
    obtain ⟨hpath, hrest⟩ := List.forall_mem_cons.mp hpaths
    cases hexcludes : config.excludes path with
    | true =>
      rw [checked_cons_of_excludes hexcludes, List.filter_cons_of_neg (by simp [hexcludes]),
        ih hrest]
    | false =>
      obtain ⟨file, hfile⟩ := Option.isSome_iff_exists.mp hpath
      rw [checked_cons hexcludes, List.filter_cons_of_pos (by simp [hexcludes]), hfile,
        List.length_append, ih hrest, List.length_cons, Nat.add_comm]
      rfl

/-- A check of files that can all be read is one of those that are not excluded. -/
theorem checkPaths_filesAnalyzed {tree : FileTree} {paths : List String}
    (hpaths : ∀ path ∈ paths, tree.Holds path) :
    (checkPaths config logger root ⟨[], tree⟩ paths).1.summary.filesAnalyzed =
      (paths.filter (!config.excludes ·)).length := by
  let loading := Session.loadAll config logger root ⟨[], tree⟩ paths
  obtain ⟨hloaded, hfind⟩ : loading.loaded = paths.filter (!config.excludes ·) ∧
      ∀ path ∈ loading.loaded, (loading.session.find? path).isSome = true :=
    Loading.foldl_add_of_holds config logger root paths ⟨[], [], ⟨[], tree⟩⟩ hpaths
      (List.forall_mem_nil _)
  calc (checkPaths config logger root ⟨[], tree⟩ paths).1.summary.filesAnalyzed
    _ = (loading.session.checked config loading.loaded).length :=
      congrArg Summary.filesAnalyzed
        (Detector.checkFiles_summary config logger ⟨loading.session, 0⟩ loading.loaded)
    _ = (loading.loaded.filter (!config.excludes ·)).length := Session.length_checked config hfind
    _ = (paths.filter (!config.excludes ·)).length := by
      rw [hloaded, List.filter_filter]
      simp only [Bool.and_self]

end Loading

section Finding

variable {tree : FileTree} {root directory targets files : List String} {config : Config}

/-- What is to be checked can be read. -/
theorem holds_of_mem_filesToCheck (htree : tree.IsProper)
    (hfiles : filesToCheck tree root targets config directory = .ok files) :
    ∀ file ∈ files, tree.Holds file := by
  have hholds {start patterns exclude : List String} {found : List (List String)}
      (hfound : searchFiles tree root start patterns exclude = .ok found) {place : List String}
      (hplace : place ∈ found) : tree.Holds (Path.absolute place) := by
    have hread := isSome_read?_of_mem_searchFiles hfound hplace
    exact ⟨place, htree.isPlace hread, hread, rfl⟩
  intro file hfile
  by_cases htargets : targets = []
  · subst htargets
    obtain ⟨found, hfound, hfiles⟩ := exists_found_of_filesToCheck_nil hfiles
    obtain ⟨place, hplace, rfl⟩ := (hfiles file).mp hfile
    exact hholds hfound hplace
  · obtain ⟨target, -, meant, hmeant, hfile⟩ := (mem_filesToCheck_iff htargets hfiles file).mp hfile
    obtain ⟨hkind, hsame⟩ | ⟨-, found, hfound, hmeant⟩ := targetFiles_cases hmeant
    · have hread := isSome_read?_of_kindOf hkind
      exact ⟨_, htree.isPlace hread, hread, (hsame file hfile).symm⟩
    · obtain ⟨place, hplace, rfl⟩ := hmeant file hfile
      exact hholds hfound hplace

/-- The directories below which files are searched for. -/
def searchStarts (directory targets : List String) : List (List String) :=
  if targets = [] then [directory] else targets.map (Path.resolve directory)

/-- A file that a search finds is excluded by its absolute path only because of where the search
    starts: in a directory with the name of one that is excluded, or below it. -/
theorem exists_start_of_mem_filesToCheck (htree : tree.IsProper) {exclusions : List Anywhere}
    (hanywhere : config.ExcludesAnywhere exclusions tree root)
    (hinclude : targets = [] → ∀ pattern ∈ config.include, IsInward pattern)
    (htargets : ∀ target ∈ targets, tree.kindOf (Path.resolve directory target) = .ok .directory)
    (hfiles : filesToCheck tree root targets config directory = .ok files) :
    ∀ file ∈ files, ∃ start ∈ searchStarts directory targets, config.excludes file = true ↔
      ∃ exclusion ∈ exclusions, exclusion.LiesOver start := by
  intro file hfile
  by_cases hnone : targets = []
  · subst hnone
    obtain ⟨found, hfound, hfiles⟩ := exists_found_of_filesToCheck_nil hfiles
    obtain ⟨place, hplace, rfl⟩ := (hfiles file).mp hfile
    have hread := isSome_read?_of_mem_searchFiles hfound hplace
    obtain ⟨trail, opened, hleads, hopened, hfree, rfl⟩ := (mem_searchFiles_iff hfound _).mp hplace
    obtain ⟨names, hdown⟩ := hleads.goesDown htree (hinclude rfl)
    exact ⟨directory, List.mem_singleton_self directory,
      hanywhere.excludes_iff hdown (htree.isPlace hread)
        (hanywhere.not_covers hopened hdown hfree)⟩
  · obtain ⟨target, htarget, meant, hmeant, hfile⟩ :=
      (mem_filesToCheck_iff hnone hfiles file).mp hfile
    obtain ⟨trail, names, opened, hdown, -, hopened, hfree, hplace, rfl⟩ :=
      exists_trail_of_directory htree (htargets target htarget) hmeant hfile
    refine ⟨Path.resolve directory target, ?_, hanywhere.excludes_iff hdown hplace
      (hanywhere.not_covers hopened hdown hfree)⟩
    rw [searchStarts, if_neg hnone]
    exact List.mem_map_of_mem htarget

end Finding

section Checking

/-- Whether a command comes to its end. -/
def CommandRun.IsCompleted (run : CommandRun) : Prop :=
  ∃ status, run.ending = .completed status

instance (run : CommandRun) : Decidable run.IsCompleted :=
  match hending : run.ending with
  | .completed status => .isTrue ⟨status, hending⟩
  | .stopped _ => .isFalse fun ⟨_, hcompleted⟩ => by cases hending.symm.trans hcompleted
  | .broken _ => .isFalse fun ⟨_, hcompleted⟩ => by cases hending.symm.trans hcompleted

/-- The configuration that a check goes by, with what the command line replaces. -/
def CheckOptions.config (options : CheckOptions) (environment : Environment)
    (root : List String) : Config :=
  environment.config.config.override root (Path.absolute environment.directory)
    options.tsconfig options.assertions

/-- The report on some files that a check shows. -/
def CheckOptions.report (options : CheckOptions) (environment : Environment) (tree : FileTree)
    (root files : List String) : CheckReport :=
  (checkPaths (options.config environment root) environment.logger root ⟨[], tree⟩ files).1

variable {tree : FileTree} {root : List String} {time : String} {options : CheckOptions}
  {environment : Environment}

theorem exists_report_of_isCompleted
    (hcompleted : (runCheck tree root time options environment).IsCompleted) :
    ∃ files log, filesToCheck tree root options.paths (options.config environment root)
        environment.directory = .ok files ∧
      runCheck tree root time options environment = showResult options environment
        ((options.report environment tree root files).result (options.config environment root) time)
        log := by
  obtain ⟨status, hending⟩ := hcompleted
  revert hending
  unfold runCheck
  dsimp only
  split
  · exact fun hending => by cases hending
  · exact fun hending => by cases hending
  · rename_i files hsome hfiles
    split
    · exact fun hending => by cases hending
    · exact fun _ => ⟨files, _, hfiles, rfl⟩

/-- All files that are to be checked can be read, and a check analyzes those among them that are not
    excluded by their absolute paths. If exclusions match at any depth, and only directories are
    searched, that depends on where those lie: with none of them in a directory that an exclusion
    names, all files are analyzed, and with all of them in such directories, none is. -/
theorem runCheck_filesAnalyzed (htree : tree.IsProper)
    (hcompleted : (runCheck tree root time options environment).IsCompleted) :
    let config := options.config environment root
    let starts := searchStarts environment.directory options.paths
    ∃ files log,
      filesToCheck tree root options.paths config environment.directory = .ok files ∧
      let report := options.report environment tree root files
      runCheck tree root time options environment =
        showResult options environment (report.result config time) log ∧
      (∀ file ∈ files, tree.Holds file) ∧
      report.summary.filesAnalyzed + (files.filter config.excludes).length = files.length ∧
      ∀ exclusions, config.ExcludesAnywhere exclusions tree root →
        (options.paths = [] → ∀ pattern ∈ config.include, IsInward pattern) →
        (∀ target ∈ options.paths,
          tree.kindOf (Path.resolve environment.directory target) = .ok .directory) →
        ((∀ start ∈ starts, ∀ exclusion ∈ exclusions, ¬ exclusion.LiesOver start) →
          report.summary.filesAnalyzed = files.length) ∧
        ((∀ start ∈ starts, ∃ exclusion ∈ exclusions, exclusion.LiesOver start) →
          report.summary.filesAnalyzed = 0) := by
  intro config starts
  obtain ⟨files, log, hfiles, hrun⟩ := exists_report_of_isCompleted hcompleted
  have hholds := holds_of_mem_filesToCheck htree hfiles
  have hanalyzed : (options.report environment tree root files).summary.filesAnalyzed =
      (files.filter (!config.excludes ·)).length :=
    checkPaths_filesAnalyzed config environment.logger root hholds
  refine ⟨files, log, hfiles, hrun, hholds, ?_, ?_⟩
  · rw [hanalyzed, Nat.add_comm]
    exact (List.length_eq_length_filter_add config.excludes).symm
  · intro exclusions hanywhere hinclude htargets
    have hstart := exists_start_of_mem_filesToCheck htree hanywhere hinclude htargets hfiles
    rw [hanalyzed]
    constructor
    · intro hnone
      rw [List.filter_eq_self.mpr]
      intro file hfile
      obtain ⟨start, hmem, hexcludes⟩ := hstart file hfile
      rw [Bool.not_eq_true', ← Bool.not_eq_true, hexcludes]
      rintro ⟨exclusion, hexclusion, hlies⟩
      exact hnone start hmem exclusion hexclusion hlies
    · intro hall
      rw [List.length_eq_zero_iff, List.filter_eq_nil_iff]
      intro file hfile
      obtain ⟨start, hmem, hexcludes⟩ := hstart file hfile
      simpa using hexcludes.mpr (hall start hmem)

/-- A directory for an application in a project, and one for build results. -/
def project : FileTree :=
  ⟨[(["p", "app", "src", "a.ts"], ""), (["p", "build", "src", "a.ts"], "")], []⟩

/-- A check in a directory, by the default configuration. -/
def checkIn (directory : List String) : Environment :=
  { config := ⟨Config.default, none⟩
    directory
    programLogger := ⟨false, false, false⟩
    logger := ⟨false, false, false⟩ }

theorem runCheck_filesAnalyzed_of_application :
    ∃ files, filesToCheck project ["p"] [] Config.default ["p", "app"] = .ok files ∧
      files = ["/p/app/src/a.ts"] ∧
      ((default : CheckOptions).report (checkIn ["p", "app"]) project ["p"]
        files).summary.filesAnalyzed = files.length := by
  have hanywhere : Config.default.ExcludesAnywhere defaultExclusions project ["p"] :=
    ⟨exclude_default, by decide +kernel⟩
  have hcompleted : (runCheck project ["p"] "" default (checkIn ["p", "app"])).IsCompleted := by
    decide +kernel
  have hfound : filesToCheck project ["p"] [] Config.default ["p", "app"] =
      .ok ["/p/app/src/a.ts"] := by decide +kernel
  obtain ⟨files, log, hfiles, -, -, -, hanalyzed⟩ :=
    runCheck_filesAnalyzed (by decide) hcompleted
  refine ⟨files, hfiles, Except.ok.inj (hfiles.symm.trans hfound), ?_⟩
  exact (hanalyzed _ hanywhere (by decide) (by decide)).1 (by decide)

/-- In a directory for build results, the same check finds a file that it does not analyze. -/
theorem file_found_not_analyzed :
    (runCheck project ["p"] "" default (checkIn ["p", "build"])).IsCompleted ∧
      filesToCheck project ["p"] [] Config.default ["p", "build"] = .ok ["/p/build/src/a.ts"] ∧
      project.Holds "/p/build/src/a.ts" ∧
      ((default : CheckOptions).report (checkIn ["p", "build"]) project ["p"]
        ["/p/build/src/a.ts"]).summary.filesAnalyzed = 0 := by
  refine ⟨by decide +kernel, by decide +kernel, ?_, by decide +kernel⟩
  exact ⟨["p", "build", "src", "a.ts"], by decide, by decide, by decide⟩

end Checking

end NamedParams
