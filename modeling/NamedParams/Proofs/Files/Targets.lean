import NamedParams.Proofs.Files.Exclusions

namespace NamedParams

open NamedParams.Glob

section Targets

variable {tree : FileTree} {root directory : List String} {config : Config}

theorem mem_sortPaths {paths : List String} {path : String} :
    path ∈ sortPaths paths ↔ path ∈ paths :=
  List.mem_mergeSort

/-- Without targets, the files are those that a search for the included patterns finds. -/
theorem exists_found_of_filesToCheck_nil {files : List String}
    (hfiles : filesToCheck tree root [] config directory = .ok files) :
    ∃ found, searchFiles tree root directory config.include config.exclude = .ok found ∧
      ∀ file, file ∈ files ↔ ∃ place ∈ found, Path.absolute place = file := by
  rw [filesToCheck] at hfiles
  obtain ⟨found, hfound, hfiles⟩ := bind_eq_ok_iff.mp hfiles
  obtain rfl := Except.ok.inj hfiles
  exact ⟨found, hfound, fun file => by rw [mem_sortPaths, List.mem_map]⟩

/-- With targets, the files are those that one of the targets stands for. -/
theorem mem_filesToCheck_iff {targets files : List String} (htargets : targets ≠ [])
    (hfiles : filesToCheck tree root targets config directory = .ok files) (file : String) :
    file ∈ files ↔ ∃ target ∈ targets, ∃ meant,
      targetFiles tree root config (Path.resolve directory target) = .ok meant ∧ file ∈ meant := by
  rw [filesToCheck, if_neg (by simpa using htargets)] at hfiles
  obtain ⟨lists, hlists, hfiles⟩ := bind_eq_ok_iff.mp hfiles
  obtain rfl := Except.ok.inj hfiles
  rw [mem_sortPaths, List.mem_eraseDups, mem_flatten_of_mapM hlists]

/-- A target is a file itself, or it is a directory and stands for what a search below it finds. -/
theorem targetFiles_cases {place : List String} {meant : List String}
    (hmeant : targetFiles tree root config place = .ok meant) :
    (tree.kindOf place = .ok .file ∧ ∀ file ∈ meant, file = Path.absolute place) ∨
      (tree.kindOf place = .ok .directory ∧ ∃ found,
        searchFiles tree root place sourcePatterns config.exclude = .ok found ∧
        ∀ file ∈ meant, ∃ below ∈ found, Path.absolute below = file) := by
  rw [targetFiles] at hmeant
  split at hmeant
  · cases hmeant
  · rename_i hkind
    obtain rfl := Except.ok.inj hmeant
    exact .inl ⟨hkind, fun file hfile => List.mem_singleton.mp (List.mem_of_mem_filter hfile)⟩
  · rename_i hkind
    obtain ⟨found, hfound, hmeant⟩ := bind_eq_ok_iff.mp hmeant
    obtain rfl := Except.ok.inj hmeant
    refine .inr ⟨hkind, found, hfound, fun file hfile => ?_⟩
    exact List.mem_map.mp (List.mem_of_mem_filter hfile)

/-- What a target that is a directory stands for, a search comes upon below it without meeting an
    exclusion. -/
theorem exists_trail_of_directory (htree : tree.IsProper) {start meant : List String}
    (hkind : tree.kindOf start = .ok .directory)
    (hmeant : targetFiles tree root config start = .ok meant) {file : String}
    (hfile : file ∈ meant) :
    ∃ (trail : Trail) (names opened : List String), trail.GoesDown start names ∧
      trail.above = directoriesAbove "" names ∧
      config.exclude.mapM (openDirectory tree root) = .ok opened ∧
      (∀ exclusion ∈ opened, ¬ trail.Meets exclusion) ∧
      Path.IsPlace trail.place ∧ Path.absolute trail.place = file := by
  obtain ⟨hfileKind, -⟩ | ⟨-, found, hfound, hmeant⟩ := targetFiles_cases hmeant
  · cases hkind.symm.trans hfileKind
  · obtain ⟨place, hmem, rfl⟩ := hmeant _ hfile
    have hplace := htree.isPlace (isSome_read?_of_mem_searchFiles hfound hmem)
    obtain ⟨trail, opened, hleads, hopened, hfree, rfl⟩ := (mem_searchFiles_iff hfound _).mp hmem
    obtain ⟨names, hdown, habove⟩ := hleads.above_source htree
    exact ⟨trail, names, opened, hdown, habove, hopened, hfree, hplace, rfl⟩

end Targets

/-- Whether the exclusions match at any depth, and stand for what they say: none of them is the
    path of a directory. -/
structure Config.ExcludesAnywhere (config : Config) (exclusions : List Anywhere) (tree : FileTree)
    (root : List String) : Prop where
  patterns : config.exclude = exclusions.map Anywhere.pattern
  opened : ∀ pattern ∈ config.exclude, openDirectory tree root pattern = .ok pattern

namespace Config.ExcludesAnywhere

variable {config : Config} {exclusions : List Anywhere} {tree : FileTree}
  {root start names : List String} {trail : Trail}

theorem mapM_openDirectory (hanywhere : config.ExcludesAnywhere exclusions tree root)
    {opened : List String} (hopened : config.exclude.mapM (openDirectory tree root) = .ok opened) :
    opened = exclusions.map Anywhere.pattern := by
  rw [← hanywhere.patterns]
  exact eq_of_mapM_eq_ok hanywhere.opened hopened

/-- A way to a file that meets no exclusion has none that says something about the names on it. -/
theorem not_covers (hanywhere : config.ExcludesAnywhere exclusions tree root)
    {opened : List String} (hopened : config.exclude.mapM (openDirectory tree root) = .ok opened)
    (hdown : trail.GoesDown start names) (hfree : ∀ exclusion ∈ opened, ¬ trail.Meets exclusion) :
    ∀ exclusion ∈ exclusions, ¬ exclusion.Covers names := by
  intro exclusion hexclusion hcovers
  rw [hanywhere.mapM_openDirectory hopened] at hfree
  exact hfree _ (List.mem_map_of_mem hexclusion) ((hdown.meets_iff exclusion).mpr hcovers)

/-- For a file that a search finds, it depends on the directory of the search alone whether its
    absolute path is excluded. -/
theorem excludes_iff (hanywhere : config.ExcludesAnywhere exclusions tree root)
    (hdown : trail.GoesDown start names) (hplace : Path.IsPlace trail.place)
    (hfree : ∀ exclusion ∈ exclusions, ¬ exclusion.Covers names) :
    config.excludes (Path.absolute trail.place) = true ↔
      ∃ exclusion ∈ exclusions, exclusion.LiesOver start := by
  have hne : trail.place ≠ [] := by simp [hdown.place, hdown.ne_nil]
  rw [Config.excludes_absolute_iff hanywhere.patterns hplace hne, hdown.place]
  refine exists_congr fun exclusion => and_congr_right fun hexclusion => ?_
  exact Anywhere.coversFile_append_iff hdown.ne_nil (hfree exclusion hexclusion)

end Config.ExcludesAnywhere

end NamedParams
