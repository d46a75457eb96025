import Mathlib.Algebra.GroupWithZero.Nat
import Mathlib.Data.List.Nodup
import NamedParams.Detector
import NamedParams.Proofs.Lookup

namespace NamedParams

namespace ProjectFile

/-- The file once its imports are settled. -/
def settle (file : ProjectFile) : ProjectFile :=
  ⟨file.source, some file.index⟩

@[simp] theorem settle_source (file : ProjectFile) : file.settle.source = file.source := rfl

@[simp] theorem settle_settle (file : ProjectFile) : file.settle.settle = file.settle := rfl

end ProjectFile

section checkFile

variable (config : Config) (file : ProjectFile)

/-- A check leaves a file alone, or settles its imports. -/
theorem checkFile_file :
    (checkFile config file).file = file ∨ (checkFile config file).file = file.settle := by
  rw [checkFile]
  dsimp only
  split
  · exact .inr rfl
  · exact .inl rfl

theorem checkFile_source : (checkFile config file).file.source = file.source := by
  obtain hfile | hfile := checkFile_file config file
  · rw [hfile]
  · rw [hfile, ProjectFile.settle_source]

theorem checkFile_settle_findings :
    (checkFile config file.settle).findings = (checkFile config file).findings := rfl

theorem checkFile_settle_functionCount :
    (checkFile config file.settle).functionCount = (checkFile config file).functionCount := rfl

end checkFile

namespace Session

theorem path_of_find? {session : Session} {path : String} {file : ProjectFile}
    (hfile : session.find? path = some file) : file.source.path = path := by
  simpa using List.find?_some hfile

/-- After an update, a file is found where there was one with its path. -/
theorem find?_update (session : Session) (file : ProjectFile) (path : String) :
    (session.update file).find? path =
      if file.source.path = path then (session.find? path).map fun _ => file
      else session.find? path :=
  find?_map_replace (fun old : ProjectFile => old.source.path) file session.files path

/-- One session comes after another when no text has changed on the way, but imports may have been
    settled. -/
structure Settles (before after : Session) : Prop where
  disk : after.disk = before.disk
  files (path : String) : after.find? path = before.find? path ∨
    after.find? path = (before.find? path).map ProjectFile.settle

theorem Settles.refl (session : Session) : session.Settles session :=
  ⟨rfl, fun _ => .inl rfl⟩

theorem Settles.trans {first second third : Session} (hfirst : first.Settles second)
    (hsecond : second.Settles third) : first.Settles third := by
  refine ⟨hsecond.disk.trans hfirst.disk, fun path => ?_⟩
  obtain hthird | hthird := hsecond.files path
  · rw [hthird]
    exact hfirst.files path
  · obtain hpath | hpath := hfirst.files path
    · exact .inr (hthird.trans (by rw [hpath]))
    · refine .inr (hthird.trans ?_)
      simp only [hpath, Option.map_map, Function.comp_def, ProjectFile.settle_settle]

/-- What a check of one of its files does to a session. -/
theorem settles_update {session : Session} {path : String} {file : ProjectFile} (config : Config)
    (hfile : session.find? path = some file) :
    session.Settles (session.update (checkFile config file).file) := by
  refine ⟨rfl, fun other => ?_⟩
  have hpath : (checkFile config file).file.source.path = path := by
    rw [checkFile_source, path_of_find? hfile]
  rw [find?_update, hpath]
  by_cases hother : path = other
  · subst hother
    rw [if_pos rfl, hfile, Option.map_some, Option.map_some]
    obtain hchecked | hchecked := checkFile_file config file
    · exact .inl (by rw [hchecked])
    · exact .inr (by rw [hchecked])
  · exact .inl (if_neg hother)

/-- The files that are checked when some paths are given, with the imports that count. -/
def checked (config : Config) (session : Session) (paths : List String) : List ProjectFile :=
  (paths.filter fun path => !config.excludes path).filterMap fun path =>
    (session.find? path).map ProjectFile.settle

variable {config : Config} {session : Session}

theorem mem_checked {paths : List String} {file : ProjectFile}
    (hfile : file ∈ session.checked config paths) :
    ∃ old, session.find? file.source.path = some old ∧ file = old.settle := by
  obtain ⟨path, _, hpath⟩ := List.mem_filterMap.mp hfile
  obtain ⟨old, hold, rfl⟩ := Option.map_eq_some_iff.mp hpath
  refine ⟨old, ?_, rfl⟩
  rw [ProjectFile.settle_source, path_of_find? hold, hold]

/-- A path leads to one file only. -/
theorem eq_of_mem_checked {paths others : List String} {a b : ProjectFile}
    (ha : a ∈ session.checked config paths) (hb : b ∈ session.checked config others)
    (hpath : a.source.path = b.source.path) : a = b := by
  obtain ⟨old, hold, ha⟩ := mem_checked ha
  obtain ⟨other, hother, hb⟩ := mem_checked hb
  rw [hpath, hother] at hold
  rw [ha, hb, Option.some.inj hold]

theorem checked_paths_nodup {paths : List String} (hpaths : paths.Nodup) :
    ((session.checked config paths).map fun file => file.source.path).Nodup := by
  rw [checked, List.map_filterMap]
  refine List.Nodup.filterMap ?_ (hpaths.filter _)
  intro a b found ha hb
  rw [Option.mem_def, Option.map_map, Option.map_eq_some_iff] at ha hb
  obtain ⟨old, hold, ha⟩ := ha
  obtain ⟨other, hother, hb⟩ := hb
  have hfirst := path_of_find? hold
  have hsecond := path_of_find? hother
  rw [← hfirst, ← hsecond]
  exact ha.trans hb.symm

theorem Settles.checked_eq {after : Session} (hsettles : session.Settles after)
    (paths : List String) : after.checked config paths = session.checked config paths := by
  rw [checked, checked]
  congr 1
  funext path
  obtain hpath | hpath := hsettles.files path
  · rw [hpath]
  · simp only [hpath, Option.map_map, Function.comp_def, ProjectFile.settle_settle]

theorem checked_cons_of_excludes {path : String} {paths : List String}
    (hexcluded : config.excludes path = true) :
    session.checked config (path :: paths) = session.checked config paths := by
  rw [checked, List.filter_cons_of_neg (by simp [hexcluded])]
  rfl

theorem checked_cons {path : String} {paths : List String}
    (hincluded : config.excludes path = false) :
    session.checked config (path :: paths) =
      ((session.find? path).map ProjectFile.settle).toList ++ session.checked config paths := by
  rw [checked, List.filter_cons_of_pos (by simp [hincluded]), List.filterMap_cons]
  cases session.find? path <;> rfl

end Session

/-- The findings about some files, in the order of the files. -/
def findingsOf (config : Config) (files : List ProjectFile) : List Finding :=
  files.flatMap fun file => (checkFile config file).findings

/-- How many functions some files have. -/
def functionCountOf (config : Config) (files : List ProjectFile) : Nat :=
  (files.map fun file => (checkFile config file).functionCount).sum

/-- What the check of some files adds to a tally and a detector. -/
structure Tally.Adds (config : Config) (files : List ProjectFile) (before after : Tally × Detector) :
    Prop where
  findings : after.1.findings = before.1.findings ++ findingsOf config files
  filesAnalyzed : after.1.filesAnalyzed = before.1.filesAnalyzed + files.length
  functionsCounted : after.2.functionsCounted =
    before.2.functionsCounted + functionCountOf config files
  session : before.2.session.Settles after.2.session

namespace Tally

variable {config : Config} {files others : List ProjectFile}
  {first second third : Tally × Detector}

theorem Adds.nil (config : Config) (state : Tally × Detector) : Adds config [] state state :=
  ⟨(List.append_nil _).symm, rfl, rfl, .refl _⟩

theorem Adds.append (hfirst : Adds config files first second)
    (hsecond : Adds config others second third) : Adds config (files ++ others) first third := by
  refine ⟨?_, ?_, ?_, hfirst.session.trans hsecond.session⟩
  · rw [hsecond.findings, hfirst.findings, findingsOf, findingsOf, findingsOf,
      List.flatMap_append, List.append_assoc]
  · rw [hsecond.filesAnalyzed, hfirst.filesAnalyzed, List.length_append, Nat.add_assoc]
  · rw [hsecond.functionsCounted, hfirst.functionsCounted, functionCountOf, functionCountOf,
      functionCountOf, List.map_append, List.sum_append, Nat.add_assoc]

theorem add_adds (config : Config) (logger : Logger) (tally : Tally) (detector : Detector)
    (path : String) :
    Adds config ((detector.session.find? path).map ProjectFile.settle).toList (tally, detector)
      (tally.add config logger detector path) := by
  rw [add]
  cases hfile : detector.session.find? path with
  | none => exact .nil config (tally, detector)
  | some file =>
    refine ⟨?_, rfl, ?_, Session.settles_update config hfile⟩
    · simp [Detector.checkOne, findingsOf, checkFile_settle_findings]
    · simp [Detector.checkOne, functionCountOf, checkFile_settle_functionCount]

end Tally

/-- The files are checked one after the other, each with the imports that it had at first. -/
theorem tallyFiles_adds (config : Config) (logger : Logger) (paths : List String) :
    ∀ (tally : Tally) (detector : Detector),
      Tally.Adds config (detector.session.checked config paths) (tally, detector)
        (tallyFiles config logger paths (tally, detector)) := by
  induction paths with
  | nil => exact fun tally detector => .nil config (tally, detector)
  | cons path rest ih =>
    intro tally detector
    rw [tallyFiles]
    cases hexcludes : config.excludes path with
    | true =>
      rw [if_pos rfl, Session.checked_cons_of_excludes hexcludes]
      exact ih tally detector
    | false =>
      rw [if_neg Bool.false_ne_true, Session.checked_cons hexcludes]
      have hadds := tally.add_adds config logger detector path
      -- The first check may settle imports, but those are the imports that count in any case.
      rw [← hadds.session.checked_eq rest]
      exact hadds.append (ih _ _)

namespace Detector

variable (config : Config) (logger : Logger) (detector : Detector) (paths : List String)

theorem checkFiles_findings :
    (detector.checkFiles config logger paths).1.findings =
      (findingsOf config (detector.session.checked config paths)).mergeSort Finding.le := by
  have hadds := tallyFiles_adds config logger paths Tally.empty
    { detector with functionsCounted := 0 }
  rw [checkFiles]
  dsimp only
  rw [hadds.findings]
  rfl

theorem checkFiles_summary :
    (detector.checkFiles config logger paths).1.summary =
      Summary.ofFindings (detector.checkFiles config logger paths).1.findings
        (detector.session.checked config paths).length
        (functionCountOf config (detector.session.checked config paths)) := by
  have hadds := tallyFiles_adds config logger paths Tally.empty
    { detector with functionsCounted := 0 }
  rw [checkFiles]
  dsimp only
  rw [hadds.filesAnalyzed, hadds.functionsCounted, Tally.empty, Nat.zero_add, Nat.zero_add]

theorem checkFiles_settles :
    detector.session.Settles (detector.checkFiles config logger paths).2.session :=
  (tallyFiles_adds config logger paths Tally.empty { detector with functionsCounted := 0 }).session

end Detector

end NamedParams
