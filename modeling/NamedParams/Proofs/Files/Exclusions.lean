import NamedParams.Detector
import NamedParams.Proofs.Files.Inward
import NamedParams.Proofs.Glob.Anywhere

namespace NamedParams

open NamedParams.Glob

namespace Glob.Anywhere

/-- Whether a pattern matches whatever is below a directory, because of where that lies. -/
def LiesOver : Anywhere → List String → Prop
  | under name _ _, directory => name ∈ directory
  | ending _ _ _, _ => False

instance : (exclusion : Anywhere) → (directory : List String) →
    Decidable (exclusion.LiesOver directory)
  | under name _ _, directory => inferInstanceAs (Decidable (name ∈ directory))
  | ending _ _ _, _ => inferInstanceAs (Decidable False)

variable {exclusion : Anywhere} {directory names : List String}

theorem Covers.append_left (hcovers : exclusion.Covers names) (directory : List String) :
    exclusion.Covers (directory ++ names) := by
  cases exclusion with
  | under name => exact List.mem_append_right _ hcovers
  | ending text =>
    obtain ⟨last, hlast, hsuffix⟩ := hcovers
    exact ⟨last, List.mem_getLast?_append_of_mem_getLast? hlast, hsuffix⟩

/-- What a pattern says about a file, it says because of where the directory of a search lies, or
    because of what lies below it. -/
theorem coversFile_append_iff (hne : names ≠ []) (hfree : ¬ exclusion.Covers names) :
    exclusion.CoversFile (directory ++ names) ↔ exclusion.LiesOver directory := by
  cases exclusion with
  | under name =>
    rw [CoversFile, List.dropLast_append_of_ne_nil hne, List.mem_append, LiesOver, or_iff_left]
    exact fun hname => hfree (List.dropLast_subset _ hname)
  | ending text =>
    rw [CoversFile, LiesOver, iff_false, List.getLast?_append_of_ne_nil _ hne]
    exact hfree

theorem liesOver_of_covers_append (hcovers : exclusion.Covers (directory ++ names))
    (hne : names ≠ []) (hfree : ¬ exclusion.Covers names) : exclusion.LiesOver directory := by
  cases exclusion with
  | under name => exact (List.mem_append.mp hcovers).resolve_right hfree
  | ending text =>
    rw [Covers, List.getLast?_append_of_ne_nil _ hne] at hcovers
    exact hfree hcovers

theorem not_limitsDepth_ending {text : String} (hne : text ≠ "") (hplain : IsPlain text.toList) :
    limitsDepth ("**/*" ++ text).toList = false := by
  have hchars : text.toList ≠ [] := by simpa using hne
  have hlast : ("**/*" ++ text).toList.getLast? ≠ some '*' := by
    rw [String.toList_append, List.getLast?_append_of_ne_nil _ hchars]
    exact fun hlast => hplain.not_mem (by decide) (List.mem_of_getLast? hlast)
  have hstars : ['/', '*', '*'].isSuffixOf ("**/*" ++ text).toList = false := by
    rw [← Bool.not_eq_true, List.isSuffixOf_iff_suffix]
    rintro ⟨before, hsplit⟩
    rw [← hsplit, List.getLast?_append_of_ne_nil _ (by simp)] at hlast
    exact hlast rfl
  have hname : Path.fileName ("**/*" ++ text) = String.ofList ('*' :: text.toList) := by
    rw [Path.fileName, Path.namesOf, Path.split, splitOn_ending hplain]
    simp
  rw [limitsDepth, hstars, Bool.false_or, String.ofList_toList, hname]
  simp [isStatic]

theorem searchAlternatives_pattern (exclusion : Anywhere) :
    searchAlternatives exclusion.pattern = [exclusion.pattern.toList] := by
  refine searchAlternatives_eq_singleton exclusion.not_brace_mem_pattern ?_
  cases exclusion with
  | under name hname _ =>
    rw [pattern, splitOn_under hname]
    simpa using hname.nonempty
  | ending text _ hplain =>
    rw [pattern, splitOn_ending hplain]
    simp

theorem exists_pattern_eq (exclusion : Anywhere) :
    ∃ rest, exclusion.pattern.toList = '*' :: rest := by
  cases exclusion with
  | under name => exact ⟨_, toList_under name⟩
  | ending text => exact ⟨_, toList_ending text⟩

end Glob.Anywhere

namespace Trail

variable {trail : Trail} {directory names : List String}

theorem meets_pattern_iff (trail : Trail) (exclusion : Anywhere) :
    trail.Meets exclusion.pattern ↔
      (limitsDepth exclusion.pattern.toList = true ∧ ∃ above ∈ trail.above,
        (SearchPattern.read false exclusion.pattern.toList).matchesPath above = true) ∨
      (SearchPattern.read true exclusion.pattern.toList).matchesPath trail.path = true := by
  obtain ⟨rest, hstars⟩ := exclusion.exists_pattern_eq
  have hmark : Exclusions.withoutMark exclusion.pattern.toList = exclusion.pattern.toList := by
    rw [hstars]
    rfl
  have hhead : (exclusion.pattern.toList.head? == some '/') = false := by
    rw [hstars]
    rfl
  rw [Meets, exclusion.searchAlternatives_pattern]
  simp only [List.mem_singleton, exists_eq_left, MeetsAlternative, hmark, hhead,
    Bool.false_eq_true, if_false]

/-- On the way down to a file, a search meets just those exclusions for anywhere that say
    something about the names on the way. -/
theorem GoesDown.meets_iff (hdown : trail.GoesDown directory names) (exclusion : Anywhere) :
    trail.Meets exclusion.pattern ↔ exclusion.Covers names := by
  have hpath := exclusion.matchesPath_iff_covers hdown.isPlace hdown.ne_nil
  rw [meets_pattern_iff, hdown.path, hpath, or_iff_right_of_imp]
  rintro ⟨hlimits, above, habove, hmatches⟩
  obtain ⟨part, rest, -, -, rfl, rfl⟩ := mem_directoriesAbove.mp (hdown.above habove)
  have hplace : Path.IsPlace part := fun name hname =>
    hdown.isPlace name (List.mem_append_left _ hname)
  rw [String.empty_append] at hmatches
  have hcovers := exclusion.covers_of_matchesPath false [] hmatches
  rw [Path.resolve_intercalate hplace, List.nil_append] at hcovers
  cases exclusion with
  | under name => exact List.mem_append_left _ hcovers
  | ending text hne hplain =>
    rw [Anywhere.pattern, Anywhere.not_limitsDepth_ending hne hplain] at hlimits
    cases hlimits

end Trail

theorem Config.excludes_absolute_iff {config : Config} {exclusions : List Anywhere}
    (hexclude : config.exclude = exclusions.map Anywhere.pattern) {place : List String}
    (hplace : Path.IsPlace place) (hne : place ≠ []) :
    config.excludes (Path.absolute place) = true ↔
      ∃ exclusion ∈ exclusions, exclusion.CoversFile place := by
  rw [excludes, hexclude, List.any_map, List.any_eq_true]
  simp only [Function.comp_apply, Anywhere.matchesPath_absolute_iff _ hplace hne]

/-- The exclusions of the default configuration. -/
def defaultExclusions : List Anywhere :=
  [.under "node_modules" (by decide) (by decide),
    .under "dist" (by decide) (by decide),
    .under "build" (by decide) (by decide),
    .ending ".d.ts" (by decide) (by decide)]

theorem exclude_default : Config.default.exclude = defaultExclusions.map Anywhere.pattern := by
  decide +kernel

end NamedParams
