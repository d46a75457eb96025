import NamedParams.FileSearch
import NamedParams.Proofs.Files.Places
import NamedParams.Proofs.Outcomes

namespace NamedParams

open NamedParams.Glob

/-- How a search comes upon a file: its place, the path by which it knows the file, and those of
    the directories that it enters on the way. -/
structure Trail where
  place : List String
  path : String
  above : List String

/-- Whether exclusions keep a search from a file, or from a directory on the way to it. -/
def Exclusions.stop (exclusions : Exclusions) (trail : Trail) : Bool :=
  trail.above.any (fun above => exclusions.directories.any (·.matchesPath above)) ||
    exclusions.excludes trail.path (Path.absolute trail.place)

/-- Whether an exclusion without braces keeps a search from a file: it matches a directory on the
    way, or the file, of which a pattern that starts at the root sees the absolute path. -/
def Trail.MeetsAlternative (trail : Trail) (alternative : List Char) : Prop :=
  (limitsDepth alternative = true ∧
    ∃ above ∈ trail.above, (SearchPattern.read false alternative).matchesPath above = true) ∨
  (SearchPattern.read true alternative).matchesPath
    (if alternative.head? == some '/' then Path.absolute trail.place else trail.path) = true

/-- Whether an exclusion keeps a search from a file. -/
def Trail.Meets (trail : Trail) (exclusion : String) : Prop :=
  ∃ alternative ∈ searchAlternatives exclusion,
    trail.MeetsAlternative (Exclusions.withoutMark alternative)

theorem Exclusions.stop_iff (patterns : List String) (trail : Trail) :
    (ofPatterns patterns).stop trail = true ↔ ∃ exclusion ∈ patterns, trail.Meets exclusion := by
  have halternatives : (∃ exclusion ∈ patterns, trail.Meets exclusion) ↔
      ∃ alternative ∈ (patterns.flatMap searchAlternatives).map withoutMark,
        trail.MeetsAlternative alternative := by
    simp only [Trail.Meets, List.mem_map, List.mem_flatMap]
    constructor
    · rintro ⟨exclusion, hexclusion, alternative, halternative, hmeets⟩
      exact ⟨_, ⟨alternative, ⟨exclusion, hexclusion, halternative⟩, rfl⟩, hmeets⟩
    · rintro ⟨_, ⟨alternative, ⟨exclusion, hexclusion, halternative⟩, rfl⟩, hmeets⟩
      exact ⟨exclusion, hexclusion, alternative, halternative, hmeets⟩
  rw [halternatives, stop, excludes, ofPatterns]
  generalize (patterns.flatMap searchAlternatives).map withoutMark = alternatives
  simp only [List.partition_eq_filter_filter, List.any_map, List.any_filter, Bool.or_eq_true,
    List.any_eq_true, Bool.and_eq_true, Function.comp_apply, Bool.not_eq_true']
  constructor
  · rintro (⟨above, habove, alternative, halternative, hlimits, hmatches⟩ |
      ⟨alternative, halternative, hhead, hmatches⟩ | ⟨alternative, halternative, hhead, hmatches⟩)
    · exact ⟨alternative, halternative, .inl ⟨hlimits, above, habove, hmatches⟩⟩
    · exact ⟨alternative, halternative, .inr (by rwa [hhead, if_neg Bool.false_ne_true])⟩
    · exact ⟨alternative, halternative, .inr (by rwa [hhead, if_pos rfl])⟩
  · rintro ⟨alternative, halternative, ⟨hlimits, above, habove, hmatches⟩ | hmatches⟩
    · exact .inl ⟨above, habove, alternative, halternative, hlimits, hmatches⟩
    · split at hmatches
      · exact .inr (.inr ⟨alternative, halternative, ‹_›, hmatches⟩)
      · exact .inr (.inl ⟨alternative, halternative, eq_false_of_ne_true ‹_›, hmatches⟩)

namespace SearchTask

/-- What stands before the names of a file in the path by which a walk knows it. -/
def front (task : SearchTask) : String :=
  if task.base = "." then "" else if task.base = "/" then "/" else task.base ++ "/"

/-- The names of a file below the directory where a walk starts. -/
def namesTo (task : SearchTask) (directory place : List String) : List String :=
  place.drop (Path.resolve directory task.base).length

def trailTo (task : SearchTask) (directory place : List String) : Trail :=
  { place
    path := withoutPoint (task.front ++ "/".intercalate (task.namesTo directory place))
    above := (directoriesAbove task.front (task.namesTo directory place)).map withoutPoint }

/-- The ways to the files that a walk wants. -/
def trails (task : SearchTask) (tree : FileTree) (directory : List String) : List Trail :=
  ((tree.filesBelow (Path.resolve directory task.base)).map (task.trailTo directory)).filter
    fun trail => (task.wanted.map (SearchPattern.read false)).any (·.matchesPath trail.path)

theorem mem_run_iff (task : SearchTask) (tree : FileTree) (directory : List String)
    (exclusions : Exclusions) (place : List String) :
    place ∈ task.run tree directory exclusions ↔
      ∃ trail ∈ task.trails tree directory, exclusions.stop trail = false ∧
        trail.place = place := by
  have hparts : exclusions.stop (task.trailTo directory place) =
      ((directoriesAbove task.front (task.namesTo directory place)).any (fun above =>
        exclusions.directories.any (·.matchesPath (withoutPoint above))) ||
        exclusions.excludes (task.trailTo directory place).path (Path.absolute place)) := by
    rw [Exclusions.stop, trailTo, List.any_map]
    rfl
  have hrun : place ∈ task.run tree directory exclusions ↔
      place ∈ tree.filesBelow (Path.resolve directory task.base) ∧
        (task.wanted.map (SearchPattern.read false)).any
          (·.matchesPath (task.trailTo directory place).path) = true ∧
        exclusions.stop (task.trailTo directory place) = false := by
    rw [hparts, run]
    dsimp only
    rw [List.mem_filter, ← List.not_any_eq_all_not, Bool.and_eq_true, Bool.and_eq_true,
      Bool.not_eq_true', Bool.not_eq_true', Bool.or_eq_false_iff]
    exact ⟨fun ⟨hbelow, ⟨habove, hwanted⟩, hexcluded⟩ => ⟨hbelow, hwanted, habove, hexcluded⟩,
      fun ⟨hbelow, hwanted, habove, hexcluded⟩ => ⟨hbelow, ⟨habove, hwanted⟩, hexcluded⟩⟩
  rw [hrun]
  constructor
  · rintro ⟨hbelow, hwanted, hstop⟩
    exact ⟨_, List.mem_filter.mpr ⟨List.mem_map_of_mem hbelow, hwanted⟩, hstop, rfl⟩
  · rintro ⟨trail, htrail, hstop, rfl⟩
    obtain ⟨htrail, hwanted⟩ := List.mem_filter.mp htrail
    obtain ⟨place, hbelow, rfl⟩ := List.mem_map.mp htrail
    exact ⟨hbelow, hwanted, hstop⟩

end SearchTask

/-- The ways to the files that patterns without signs name. -/
def staticTrails (tree : FileTree) (directory : List String) (patterns : List (List Char)) :
    List Trail :=
  let wanted := patterns.map (SearchPattern.read false)
  ((patterns.map String.ofList).map fun pattern =>
    ⟨Path.resolve directory pattern, withoutPoint pattern, []⟩).filter fun trail : Trail =>
      (tree.read? trail.place).isSome && wanted.any (·.matchesPath trail.path)

theorem mem_staticFiles_iff (tree : FileTree) (directory : List String)
    (patterns : List (List Char)) (exclusions : Exclusions) (place : List String) :
    place ∈ staticFiles tree directory patterns exclusions ↔
      ∃ trail ∈ staticTrails tree directory patterns, exclusions.stop trail = false ∧
        trail.place = place := by
  rw [staticFiles]
  dsimp only
  rw [List.mem_filterMap]
  constructor
  · rintro ⟨pattern, hpattern, hfile⟩
    split at hfile
    · rename_i hcondition
      rw [Bool.and_eq_true, Bool.not_eq_true'] at hcondition
      refine ⟨⟨Path.resolve directory pattern, withoutPoint pattern, []⟩, ?_, ?_, ?_⟩
      · exact List.mem_filter.mpr ⟨List.mem_map_of_mem hpattern, hcondition.1⟩
      · exact hcondition.2
      · exact Option.some.inj hfile
    · cases hfile
  · rintro ⟨trail, htrail, hstop, rfl⟩
    obtain ⟨htrail, hwanted⟩ := List.mem_filter.mp htrail
    obtain ⟨pattern, hpattern, rfl⟩ := List.mem_map.mp htrail
    refine ⟨pattern, hpattern, if_pos ?_⟩
    rw [Bool.and_eq_true, Bool.not_eq_true']
    exact ⟨hwanted, hstop⟩

/-- The ways to the files that a pattern matches. -/
def patternTrails (tree : FileTree) (directory : List String) (pattern : String) : List Trail :=
  let (still, moving) := (searchAlternatives pattern).partition isStatic
  staticTrails tree directory still ++ (searchTasks moving).flatMap (·.trails tree directory)

/-- What is excluded does not change by which ways a search comes upon files, but keeps it from
    some of them. -/
theorem mem_searchPattern_iff (tree : FileTree) (directory : List String) (pattern : String)
    (exclude : List String) (place : List String) :
    place ∈ searchPattern tree directory pattern exclude ↔
      ∃ trail ∈ patternTrails tree directory pattern,
        (Exclusions.ofPatterns exclude).stop trail = false ∧ trail.place = place := by
  rw [searchPattern, patternTrails]
  dsimp only
  rw [List.mem_append, List.mem_flatMap, mem_staticFiles_iff]
  simp only [SearchTask.mem_run_iff, List.mem_append, List.mem_flatMap]
  constructor
  · rintro (⟨trail, htrail, hstop⟩ | ⟨task, htask, trail, htrail, hstop⟩)
    · exact ⟨trail, .inl htrail, hstop⟩
    · exact ⟨trail, .inr ⟨task, htask, htrail⟩, hstop⟩
  · rintro ⟨trail, htrail | ⟨task, htask, htrail⟩, hstop⟩
    · exact .inl ⟨trail, htrail, hstop⟩
    · exact .inr ⟨task, htask, trail, htrail, hstop⟩

theorem isSome_read?_iff {tree : FileTree} {place : List String} :
    (tree.read? place).isSome = true ↔ place ∈ tree.files.map Prod.fst := by
  rw [FileTree.read?, List.lookup_isSome_iff, List.mem_map]
  exact exists_congr fun file => and_congr_right' (beq_iff_eq.trans eq_comm)

/-- A search comes upon nothing but files. -/
theorem isSome_read?_of_mem_patternTrails {tree : FileTree} {directory : List String}
    {pattern : String} {trail : Trail} (htrail : trail ∈ patternTrails tree directory pattern) :
    (tree.read? trail.place).isSome = true := by
  obtain htrail | htrail := List.mem_append.mp htrail
  · exact ((Bool.and_eq_true _ _).mp (List.mem_filter.mp htrail).2).1
  · obtain ⟨task, -, htrail⟩ := List.mem_flatMap.mp htrail
    obtain ⟨place, hplace, rfl⟩ := List.mem_map.mp (List.mem_filter.mp htrail).1
    exact isSome_read?_iff.mpr (List.mem_filter.mp hplace).1

theorem searchRequests_eq (exclude patterns : List String) :
    searchRequests exclude patterns = (searchRequests [] patterns).map fun request =>
      { request with exclude := exclude ++ request.exclude } := by
  induction patterns with
  | nil => rfl
  | cons pattern rest ih =>
    rw [searchRequests, searchRequests]
    split
    · exact ih
    · rw [List.map_cons, ih]
      rfl

/-- Whether some patterns lead a search to a file, before anything else than they themselves
    exclude is left out. -/
def Leads (tree : FileTree) (root directory : List String) (patterns : List String)
    (trail : Trail) : Prop :=
  ∃ request ∈ searchRequests [] patterns.eraseDups, ∃ pattern later,
    openDirectory tree directory request.pattern = .ok pattern ∧
    request.exclude.mapM (openDirectory tree root) = .ok later ∧
    trail ∈ patternTrails tree directory pattern ∧ ∀ exclusion ∈ later, ¬ trail.Meets exclusion

/-- A search finds those files to which its patterns lead without meeting an exclusion. -/
theorem mem_searchFiles_iff {tree : FileTree} {root directory patterns exclude : List String}
    {found : List (List String)}
    (hfound : searchFiles tree root directory patterns exclude = .ok found)
    (place : List String) :
    place ∈ found ↔ ∃ trail opened, Leads tree root directory patterns trail ∧
      exclude.mapM (openDirectory tree root) = .ok opened ∧
      (∀ exclusion ∈ opened, ¬ trail.Meets exclusion) ∧ trail.place = place := by
  rw [searchFiles] at hfound
  split at hfound
  · cases hfound
  · obtain ⟨lists, hlists, hfound⟩ := bind_eq_ok_iff.mp hfound
    obtain rfl : lists.flatten.eraseDups = found := Except.ok.inj hfound
    rw [List.mem_eraseDups, mem_flatten_of_mapM hlists, searchRequests_eq]
    simp only [List.mem_map, bind_eq_ok_iff]
    constructor
    · rintro ⟨_, ⟨request, hrequest, rfl⟩, _, ⟨pattern, hpattern, opened, hopened, hfiles⟩, hplace⟩
      obtain ⟨first, later, hfirst, hlater, rfl⟩ := mapM_append_eq_ok_iff.mp hopened
      rw [← Except.ok.inj hfiles, mem_searchPattern_iff] at hplace
      obtain ⟨trail, htrail, hstop, rfl⟩ := hplace
      have hmeets (exclusion : String) (hexclusion : exclusion ∈ first ++ later) :
          ¬ trail.Meets exclusion := fun hmeets =>
        ne_true_of_eq_false hstop ((Exclusions.stop_iff _ _).mpr ⟨exclusion, hexclusion, hmeets⟩)
      exact ⟨trail, first, ⟨request, hrequest, pattern, later, hpattern, hlater, htrail,
        fun exclusion hexclusion => hmeets exclusion (List.mem_append_right _ hexclusion)⟩, hfirst,
        fun exclusion hexclusion => hmeets exclusion (List.mem_append_left _ hexclusion), rfl⟩
    · rintro ⟨trail, first, ⟨request, hrequest, pattern, later, hpattern, hlater, htrail, hown⟩,
        hfirst, hfree, rfl⟩
      refine ⟨_, ⟨request, hrequest, rfl⟩, _, ⟨pattern, hpattern, first ++ later,
        mapM_append_eq_ok_iff.mpr ⟨first, later, hfirst, hlater, rfl⟩, rfl⟩, ?_⟩
      refine (mem_searchPattern_iff _ _ _ _ _).mpr ⟨trail, htrail, ?_, rfl⟩
      rw [← Bool.not_eq_true, Exclusions.stop_iff]
      rintro ⟨exclusion, hexclusion, hmeets⟩
      obtain hexclusion | hexclusion := List.mem_append.mp hexclusion
      · exact hfree exclusion hexclusion hmeets
      · exact hown exclusion hexclusion hmeets

theorem mem_of_mem_searchRequests {exclude patterns : List String} {request : SearchRequest}
    (hrequest : request ∈ searchRequests exclude patterns) : request.pattern ∈ patterns := by
  induction patterns with
  | nil => cases hrequest
  | cons pattern rest ih =>
    rw [searchRequests] at hrequest
    split at hrequest
    · exact List.mem_cons_of_mem _ (ih hrequest)
    · obtain rfl | hrequest := List.mem_cons.mp hrequest
      · exact List.mem_cons_self
      · exact List.mem_cons_of_mem _ (ih hrequest)

theorem Leads.exists_pattern {tree : FileTree} {root directory patterns : List String}
    {trail : Trail} (hleads : Leads tree root directory patterns trail) :
    ∃ pattern ∈ patterns, ∃ opened, openDirectory tree directory pattern = .ok opened ∧
      trail ∈ patternTrails tree directory opened := by
  obtain ⟨request, hrequest, opened, _, hopened, -, htrail, -⟩ := hleads
  exact ⟨_, List.mem_eraseDups.mp (mem_of_mem_searchRequests hrequest), opened, hopened, htrail⟩

/-- Only files are found. -/
theorem isSome_read?_of_mem_searchFiles {tree : FileTree}
    {root directory patterns exclude : List String} {found : List (List String)}
    (hfound : searchFiles tree root directory patterns exclude = .ok found)
    {place : List String} (hplace : place ∈ found) : (tree.read? place).isSome = true := by
  obtain ⟨trail, -, hleads, -, -, rfl⟩ := (mem_searchFiles_iff hfound place).mp hplace
  obtain ⟨_, -, _, -, htrail⟩ := hleads.exists_pattern
  exact isSome_read?_of_mem_patternTrails htrail

/-- A file that the exclusions of a search leave out is one to which its patterns lead, but only
    past one of the exclusions. -/
theorem exists_meets_of_left_out {tree : FileTree} {root directory patterns exclude : List String}
    {all found : List (List String)}
    (hall : searchFiles tree root directory patterns [] = .ok all)
    (hfound : searchFiles tree root directory patterns exclude = .ok found)
    {place : List String} (hplace : place ∈ all) (hleft : place ∉ found) :
    ∃ trail opened exclusion, Leads tree root directory patterns trail ∧
      exclude.mapM (openDirectory tree root) = .ok opened ∧ exclusion ∈ opened ∧
      trail.Meets exclusion ∧ trail.place = place := by
  obtain ⟨trail, -, hleads, -, -, rfl⟩ := (mem_searchFiles_iff hall place).mp hplace
  obtain ⟨opened, hopened⟩ : ∃ opened, exclude.mapM (openDirectory tree root) = .ok opened := by
    obtain ⟨request, hrequest, -⟩ := hleads
    rw [searchFiles] at hfound
    split at hfound
    · cases hfound
    · obtain ⟨lists, hlists, -⟩ := bind_eq_ok_iff.mp hfound
      rw [searchRequests_eq] at hlists
      obtain ⟨files, hfiles⟩ :=
        exists_ok_of_mem_of_mapM hlists (List.mem_map_of_mem hrequest)
      obtain ⟨_, -, hfiles⟩ := bind_eq_ok_iff.mp hfiles
      obtain ⟨_, hopened, -⟩ := bind_eq_ok_iff.mp hfiles
      obtain ⟨opened, _, hopened, -⟩ := mapM_append_eq_ok_iff.mp hopened
      exact ⟨opened, hopened⟩
  by_cases hmeets : ∃ exclusion ∈ opened, trail.Meets exclusion
  · obtain ⟨exclusion, hexclusion, hmeets⟩ := hmeets
    exact ⟨trail, opened, exclusion, hleads, hopened, hexclusion, hmeets, rfl⟩
  · have hfree (exclusion : String) (hexclusion : exclusion ∈ opened) :
        ¬ trail.Meets exclusion := fun hmeet => hmeets ⟨exclusion, hexclusion, hmeet⟩
    exact absurd ((mem_searchFiles_iff hfound _).mpr
      ⟨trail, opened, hleads, hopened, hfree, rfl⟩) hleft

end NamedParams
