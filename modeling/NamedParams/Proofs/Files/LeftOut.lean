import NamedParams.Proofs.Files.Targets

namespace NamedParams

open NamedParams.Glob

/-- An exclusion that keeps a search from a file keeps another search from it as well that knows
    the file by the same path and enters no fewer directories. -/
theorem Trail.Meets.mono {trail other : Trail} {exclusion : String}
    (hmeets : trail.Meets exclusion) (hplace : other.place = trail.place)
    (hpath : other.path = trail.path) (habove : trail.above ⊆ other.above) :
    other.Meets exclusion := by
  obtain ⟨alternative, halternative, hmeets⟩ := hmeets
  refine ⟨alternative, halternative, ?_⟩
  obtain ⟨hlimits, above, hmem, hmatches⟩ | hmatches := hmeets
  · exact .inl ⟨hlimits, above, habove hmem, hmatches⟩
  · exact .inr (by rwa [hplace, hpath])

section Reaching

variable {tree : FileTree} {root directory : List String} {config : Config} {target : String}

/-- What is below a target that has files is below a directory. -/
theorem exists_trail_of_target (htree : tree.IsProper) {files : List String}
    (hfiles : filesToCheck tree root [target] config directory = .ok files)
    {place : List String} (hplace : Path.IsPlace place)
    (hbelow : FileTree.isBelow (Path.resolve directory target) place = true)
    (hfile : Path.absolute place ∈ files) :
    ∃ (trail : Trail) (names opened : List String),
      trail.GoesDown (Path.resolve directory target) names ∧
      trail.above = directoriesAbove "" names ∧
      config.exclude.mapM (openDirectory tree root) = .ok opened ∧
      (∀ exclusion ∈ opened, ¬ trail.Meets exclusion) ∧ trail.place = place := by
  rw [mem_filesToCheck_iff (by simp) hfiles] at hfile
  obtain ⟨_, htarget, meant, hmeant, hfile⟩ := hfile
  rw [List.mem_singleton.mp htarget] at hmeant
  obtain ⟨hkind, hsame⟩ | ⟨hkind, -⟩ := targetFiles_cases hmeant
  · have hsame := Path.absolute_injective hplace (htree.isPlace (isSome_read?_of_kindOf hkind))
      (hsame _ hfile)
    rw [hsame, FileTree.isBelow, Bool.and_eq_true, decide_eq_true_iff] at hbelow
    exact absurd hbelow.2 (Nat.lt_irrefl _)
  · obtain ⟨trail, names, opened, hdown, habove, hopened, hfree, htrail, heq⟩ :=
      exists_trail_of_directory htree hkind hmeant hfile
    exact ⟨trail, names, opened, hdown, habove, hopened, hfree,
      Path.absolute_injective htrail hplace heq⟩

/-- If exclusions match at any depth, or the target is the directory of the search itself, then a
    file below the target that they leave out of the search for the included patterns is not
    checked for the target either. -/
theorem unchecked_of_left_out (htree : tree.IsProper)
    (hinclude : ∀ pattern ∈ config.include, IsInward pattern)
    (hexclude : Path.resolve directory target = directory ∨
      ∃ exclusions, config.ExcludesAnywhere exclusions tree root)
    {all found files : List String}
    (hall : filesToCheck tree root [] { config with exclude := [] } directory = .ok all)
    (hfound : filesToCheck tree root [] config directory = .ok found)
    (hfiles : filesToCheck tree root [target] config directory = .ok files)
    {file : String} (hfile : file ∈ all) (hleft : file ∉ found)
    (hbelow : FileTree.isBelow (Path.resolve directory target) (Path.resolve [] file) = true) :
    file ∉ files ∨ config.excludes file = true := by
  obtain ⟨allPlaces, hallPlaces, hall⟩ := exists_found_of_filesToCheck_nil hall
  obtain ⟨foundPlaces, hfoundPlaces, hfound⟩ := exists_found_of_filesToCheck_nil hfound
  obtain ⟨place, hmem, rfl⟩ := (hall file).mp hfile
  have hplace : Path.IsPlace place :=
    htree.isPlace (isSome_read?_of_mem_searchFiles hallPlaces hmem)
  have hmissing : place ∉ foundPlaces := fun hmem => hleft ((hfound _).mpr ⟨place, hmem, rfl⟩)
  obtain ⟨trail, opened, exclusion, hleads, hopened, hexclusion, hmeets, rfl⟩ :=
    exists_meets_of_left_out hallPlaces hfoundPlaces hmem hmissing
  obtain ⟨names, hdown⟩ := hleads.goesDown htree hinclude
  rw [Path.resolve_absolute hplace] at hbelow
  by_cases hchecked : Path.absolute trail.place ∈ files
  · obtain ⟨other, others, otherOpened, hother, habove, hotherOpened, hfree, hsame⟩ :=
      exists_trail_of_target htree hfiles hplace hbelow hchecked
    obtain rfl : opened = otherOpened := Except.ok.inj (hopened.symm.trans hotherOpened)
    obtain hdirectory | ⟨exclusions, hanywhere⟩ := hexclude
    · -- Both searches know the file by the same path.
      rw [hdirectory] at hother
      obtain rfl : others = names :=
        List.append_cancel_left (hother.place.symm.trans (hsame.trans hdown.place))
      have hmeets := hmeets.mono hsame (hother.path.trans hdown.path.symm) (habove ▸ hdown.above)
      exact absurd hmeets (hfree exclusion hexclusion)
    · -- What an exclusion says about the names below the one directory, it says about those
      -- below the target, or about the way to the target, which the absolute path shows.
      have hfree := hanywhere.not_covers hopened hother hfree
      rw [hanywhere.mapM_openDirectory hopened] at hexclusion
      obtain ⟨anywhere, hmem, rfl⟩ := List.mem_map.mp hexclusion
      have hcovers := ((hdown.meets_iff anywhere).mp hmeets).append_left directory
      rw [← hdown.place, ← hsame, hother.place] at hcovers
      have hlies := Anywhere.liesOver_of_covers_append hcovers hother.ne_nil
        (hfree anywhere hmem)
      rw [← hsame] at hplace ⊢
      exact .inr ((hanywhere.excludes_iff hother hplace hfree).mpr ⟨anywhere, hmem, hlies⟩)
  · exact .inl hchecked

/-- A file in a directory for build results, which is a directory of sources to the target. -/
def distributed : FileTree := ⟨[(["p", "src", "dist", "a.ts"], "")], []⟩

theorem unchecked_of_left_out_of_distributed :
    filesToCheck distributed ["p"] ["src/dist"] Config.default ["p"] = .ok ["/p/src/dist/a.ts"] ∧
      Config.default.excludes "/p/src/dist/a.ts" = true := by
  have hexclude : Config.default.ExcludesAnywhere defaultExclusions distributed ["p"] :=
    ⟨exclude_default, by decide +kernel⟩
  have hfiles : filesToCheck distributed ["p"] ["src/dist"] Config.default ["p"] =
      .ok ["/p/src/dist/a.ts"] := by decide +kernel
  have hall : filesToCheck distributed ["p"] [] { Config.default with exclude := [] } ["p"] =
      .ok ["/p/src/dist/a.ts"] := by decide +kernel
  have hfound : filesToCheck distributed ["p"] [] Config.default ["p"] = .ok [] := by
    decide +kernel
  have hunchecked := unchecked_of_left_out (by decide) (by decide) (.inr ⟨_, hexclude⟩) hall hfound
    hfiles List.mem_cons_self List.not_mem_nil (by decide)
  exact ⟨hfiles, hunchecked.resolve_left (by simp)⟩

/-- Exclusions that name a directory by its path from the directory of the search. -/
def generated : Config := { Config.default with exclude := ["src/gen/**"] }

def generatedSources : FileTree := ⟨[(["p", "src", "gen", "a.ts"], "")], []⟩

/-- Such exclusions leave a file out of the search for the included patterns, but the file is
    checked when the target is a directory on the way to it. -/
theorem checked_though_left_out :
    filesToCheck generatedSources ["p"] [] { generated with exclude := [] } ["p"] =
        .ok ["/p/src/gen/a.ts"] ∧
      filesToCheck generatedSources ["p"] [] generated ["p"] = .ok [] ∧
      filesToCheck generatedSources ["p"] ["src"] generated ["p"] = .ok ["/p/src/gen/a.ts"] ∧
      generated.excludes "/p/src/gen/a.ts" = false ∧
      (checkPaths generated ⟨false, false, false⟩ ["p"] ⟨[], generatedSources⟩
        ["/p/src/gen/a.ts"]).1.summary.filesAnalyzed = 1 := by
  decide +kernel

end Reaching

end NamedParams
