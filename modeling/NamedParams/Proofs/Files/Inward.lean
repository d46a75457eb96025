import NamedParams.Proofs.Files.Kinds
import NamedParams.Proofs.Files.Search
import NamedParams.Proofs.Glob.PlainText

namespace NamedParams

open NamedParams.Glob

/-- A pattern that leads down from the directory of a search, and that stands for itself alone. -/
structure IsInward (pattern : String) : Prop where
  isPlace : Path.IsPlace (Path.split pattern)
  noBrace : '\x7b' ∉ pattern.toList
  noBackslash : '\\' ∉ pattern.toList
  noMark : isNegative pattern = false

instance (pattern : String) : Decidable (IsInward pattern) :=
  decidable_of_iff (Path.IsPlace (Path.split pattern) ∧ '\x7b' ∉ pattern.toList ∧
      '\\' ∉ pattern.toList ∧ isNegative pattern = false)
    ⟨fun ⟨hplace, hbrace, hbackslash, hmark⟩ => ⟨hplace, hbrace, hbackslash, hmark⟩,
      fun hinward => ⟨hinward.isPlace, hinward.noBrace, hinward.noBackslash, hinward.noMark⟩⟩

namespace IsInward

variable {pattern : String}

theorem splitOn (hinward : IsInward pattern) :
    ∀ segment ∈ pattern.toList.splitOn '/', segment ≠ [] := by
  have hsplit : (Path.split pattern).map String.toList = pattern.toList.splitOn '/' := by
    simp [Path.split]
  rw [← hsplit]
  exact hinward.isPlace.toList_ne_nil

theorem searchAlternatives (hinward : IsInward pattern) :
    searchAlternatives pattern = [pattern.toList] :=
  searchAlternatives_eq_singleton hinward.noBrace hinward.splitOn

end IsInward

section Bases

theorem intercalate_ne_empty {place : List String} (hplace : Path.IsPlace place)
    (hne : place ≠ []) : "/".intercalate place ≠ "" := by
  intro hempty
  have hsplit := Path.split_intercalate hplace hne
  rw [hempty] at hsplit
  exact (hplace "" (hsplit ▸ List.mem_singleton_self "")).nonempty rfl

theorem parent_intercalate {above : List String} {last : String}
    (hplace : Path.IsPlace (above ++ [last])) :
    Path.parent ("/".intercalate (above ++ [last])) =
      if above = [] then "." else "/".intercalate above := by
  have hlast := hplace last (List.mem_append_right _ List.mem_cons_self)
  have hnames : Path.namesOf ("/".intercalate (above ++ [last])) = above ++ [last] := by
    rw [Path.namesOf, Path.split_intercalate hplace (by simp), List.reverse_append,
      List.reverse_singleton, List.singleton_append, List.dropWhile_cons_of_neg]
    · simp
    · simpa using hlast.nonempty
  rw [Path.parent, hnames]
  cases above with
  | nil => rfl
  | cons first rest =>
    obtain ⟨next, others, hrest⟩ := List.exists_cons_of_ne_nil (List.concat_ne_nil last rest)
    have hne : "/".intercalate (first :: rest) ≠ "" :=
      intercalate_ne_empty (fun name hname => hplace name (List.mem_append_left _ hname)) (by simp)
    rw [List.cons_append, hrest]
    dsimp only
    rw [← hrest, ← List.cons_append, List.dropLast_concat, if_neg hne, if_neg (by simp)]

/-- The closest directory without signs above a path that leads down. -/
theorem plainParent_cases (fuel : Nat) : ∀ {above : List String} {last : String},
    Path.IsPlace (above ++ [last]) →
    plainParent (fuel + 1) ("/".intercalate (above ++ [last])) = "." ∨
      ∃ base, base ≠ [] ∧ base <+: above ∧
        plainParent (fuel + 1) ("/".intercalate (above ++ [last])) = "/".intercalate base := by
  induction fuel with
  | zero =>
    intro above last hplace
    rw [plainParent, parent_intercalate hplace]
    by_cases habove : above = []
    · subst habove
      exact .inl rfl
    · simp only [if_neg habove, plainParent, ite_self]
      exact .inr ⟨above, habove, List.prefix_rfl, rfl⟩
  | succ fuel ih =>
    intro above last hplace
    rw [plainParent, parent_intercalate hplace]
    by_cases habove : above = []
    · subst habove
      exact .inl rfl
    · simp only [if_neg habove]
      split
      · obtain ⟨above, next, rfl⟩ := above.eq_nil_or_concat'.resolve_left habove
        obtain hpoint | ⟨base, hne, hbase, heq⟩ :=
          ih fun name hname => hplace name (List.mem_append_left _ hname)
        · exact .inl hpoint
        · exact .inr ⟨base, hne, hbase.trans (List.prefix_append _ _), heq⟩
      · exact .inr ⟨above, habove, List.prefix_rfl, rfl⟩

theorem unescape_eq_self {text : List Char} (htext : '\\' ∉ text) : unescape text = text := by
  induction text with
  | nil => simp [unescape]
  | cons c rest ih =>
    rw [List.mem_cons, not_or] at htext
    rw [unescape, ih htext.2]
    exact fun _ _ hc _ => htext.1 hc.symm

theorem isName_append_letter {name : String} (hname : Path.IsName name) :
    Path.IsName (name ++ "a") := by
  have hlast (text : String) (htext : name ++ "a" = text) : text.toList.getLast? = some 'a' := by
    simp [← htext]
  refine ⟨fun htext => ?_, fun htext => ?_, fun htext => ?_, ?_⟩
  · exact absurd (hlast _ htext) (by decide)
  · exact absurd (hlast _ htext) (by decide)
  · exact absurd (hlast _ htext) (by decide)
  · simpa using hname.noSlash

theorem intercalate_concat_append (above : List String) (last more : String) :
    "/".intercalate (above ++ [last]) ++ more = "/".intercalate (above ++ [last ++ more]) := by
  by_cases habove : above = []
  · simp [habove]
  · rw [String.intercalate_append_of_ne_nil habove (by simp),
      String.intercalate_append_of_ne_nil habove (by simp)]
    simp [String.append_assoc]

/-- The directory above everything that an inward pattern can match is that of the search, or
    lies below it. -/
theorem IsInward.baseDirectory_cases {pattern : String} (hinward : IsInward pattern) :
    baseDirectory pattern.toList = "." ∨ ∃ base, base ≠ [] ∧ Path.IsPlace base ∧
      baseDirectory pattern.toList = "/".intercalate base := by
  have hne : Path.split pattern ≠ [] := by simp [Path.split, List.splitOn_ne_nil]
  obtain ⟨above, last, hsplit⟩ := (Path.split pattern).eq_nil_or_concat'.resolve_left hne
  have hplace := hinward.isPlace
  rw [hsplit] at hplace
  have hlast := hplace last (List.mem_append_right _ List.mem_cons_self)
  have hlonger : Path.IsPlace (above ++ [last ++ "a"]) := by
    refine Path.IsPlace.append (fun name hname => hplace name (List.mem_append_left _ hname)) ?_
    intro name hname
    obtain rfl := List.mem_singleton.mp hname
    exact isName_append_letter hlast
  have hpattern : String.ofList (pattern.toList ++ ['a']) =
      "/".intercalate (above ++ [last ++ "a"]) := by
    have hwhole : pattern ++ "a" = "/".intercalate (above ++ [last ++ "a"]) := by
      rw [← Path.intercalate_split pattern, hsplit, intercalate_concat_append]
    rw [← hwhole, ← String.toList_inj]
    simp
  rw [baseDirectory, hpattern]
  obtain hpoint | ⟨base, hbase, hsub, heq⟩ := plainParent_cases pattern.toList.length hlonger
  · rw [hpoint, unescape_eq_self (by decide)]
    exact .inl rfl
  · refine .inr ⟨base, hbase, fun name hname => hplace name ?_, ?_⟩
    · exact List.mem_append_left _ (hsub.subset hname)
    · rw [heq, unescape_eq_self, String.ofList_toList]
      intro hbackslash
      obtain hslash | ⟨name, hname, hmem⟩ := Path.mem_intercalate hbackslash
      · exact absurd hslash (by decide)
      · have hname : name ∈ Path.split pattern :=
          hsplit ▸ List.mem_append_left _ (hsub.subset hname)
        refine hinward.noBackslash ?_
        rw [← Path.intercalate_split pattern]
        exact Path.mem_intercalate_of_mem hname hmem

end Bases

section Opening

/-- A pattern stays what it is, or stands for everything below. -/
theorem openDirectory_cases {tree : FileTree} {directory : List String} {pattern opened : String}
    (hopened : openDirectory tree directory pattern = .ok opened) :
    opened = pattern ∨ opened = Path.join pattern "**" := by
  rw [openDirectory] at hopened
  dsimp only at hopened
  generalize tree.kindOf _ = kind at hopened
  match kind with
  | .ok .directory => exact .inr (Except.ok.inj hopened).symm
  | .ok .file =>
    dsimp only at hopened
    split_ifs at hopened
    all_goals exact .inl (Except.ok.inj hopened).symm
  | .error .missing => exact .inl (Except.ok.inj hopened).symm
  | .error .notDirectory => cases hopened

theorem foldl_descendRelative {place : List String} (hplace : Path.IsPlace place)
    (done : List String) : place.foldl Path.descendRelative done = done ++ place := by
  induction place generalizing done with
  | nil => simp
  | cons name rest ih =>
    have hname := hplace name List.mem_cons_self
    have hstep : Path.descendRelative done name = done ++ [name] := by
      rw [Path.descendRelative, if_neg (by simp [hname.nonempty, hname.notPoint]),
        if_neg hname.notPoints]
    rw [List.foldl_cons, hstep, ih fun other hother => hplace other (List.mem_cons_of_mem _ hother),
      List.append_assoc, List.singleton_append]

namespace IsInward

variable {pattern : String}

theorem split_ne_nil (pattern : String) : Path.split pattern ≠ [] := by
  simp [Path.split, List.splitOn_ne_nil]

theorem append_stars_eq (pattern : String) :
    pattern ++ "/**" = "/".intercalate (Path.split pattern ++ ["**"]) := by
  rw [String.intercalate_append_of_ne_nil (split_ne_nil pattern) (by simp),
    Path.intercalate_split, String.intercalate_singleton, String.append_assoc]
  rfl

theorem isPlace_append_stars (hinward : IsInward pattern) :
    Path.IsPlace (Path.split pattern ++ ["**"]) :=
  hinward.isPlace.append fun name hname => by
    rw [List.mem_singleton.mp hname]
    decide

theorem ne_empty (hinward : IsInward pattern) : pattern ≠ "" := by
  rintro rfl
  exact (hinward.isPlace "" (List.mem_singleton_self "")).nonempty rfl

theorem join_stars (hinward : IsInward pattern) : Path.join pattern "**" = pattern ++ "/**" := by
  have hsplit := Path.split_intercalate hinward.isPlace_append_stars (by simp)
  have hrelative := Path.isAbsolute_intercalate hinward.isPlace_append_stars
  rw [← append_stars_eq] at hsplit hrelative
  have hlast : (pattern ++ "/**").toList.getLast? = some '*' := by
    simp
  have hjoined : pattern ++ "/" ++ "**" = pattern ++ "/**" := String.append_assoc
  rw [Path.join, if_neg hinward.ne_empty, if_neg (by decide), hjoined, Path.normalize, hrelative,
    hsplit, foldl_descendRelative hinward.isPlace_append_stars, hlast]
  rw [if_neg Bool.false_ne_true, List.nil_append, append_stars_eq]
  cases hnames : Path.split pattern ++ ["**"] with
  | nil => simp at hnames
  | cons first rest => exact String.append_empty

theorem append_stars (hinward : IsInward pattern) : IsInward (pattern ++ "/**") := by
  have hsplit := Path.split_intercalate hinward.isPlace_append_stars (by simp)
  rw [← append_stars_eq] at hsplit
  refine ⟨hsplit ▸ hinward.isPlace_append_stars, ?_, ?_, ?_⟩
  · simpa using hinward.noBrace
  · simpa using hinward.noBackslash
  · have hmark := hinward.noMark
    obtain ⟨c, rest, hchars⟩ :=
      List.exists_cons_of_ne_nil (fun hnil => hinward.ne_empty (String.toList_eq_nil_iff.mp hnil))
    rw [isNegative, hchars] at hmark
    rw [isNegative, String.toList_append, hchars]
    exact hmark

theorem openDirectory {tree : FileTree} {directory : List String} {opened : String}
    (hinward : IsInward pattern) (hopened : openDirectory tree directory pattern = .ok opened) :
    IsInward opened := by
  obtain rfl | rfl := openDirectory_cases hopened
  · exact hinward
  · rw [hinward.join_stars]
    exact hinward.append_stars

end IsInward

end Opening

section Leading

/-- The walks of a search start at the directory of the search or at one above some patterns. -/
theorem base_of_mem_searchTasks {patterns : List (List Char)} {task : SearchTask}
    (htask : task ∈ searchTasks patterns) :
    task.base = "." ∨ ∃ pattern ∈ patterns, task.base = baseDirectory pattern := by
  have hgrouped (some : List (List Char)) (hsome : some ⊆ patterns)
      (htask : task ∈ (some.map baseDirectory).eraseDups.map fun base =>
        ⟨base, some.filter fun pattern => baseDirectory pattern = base⟩) :
      ∃ pattern ∈ patterns, task.base = baseDirectory pattern := by
    obtain ⟨base, hbase, rfl⟩ := List.mem_map.mp htask
    obtain ⟨pattern, hpattern, rfl⟩ := List.mem_map.mp (List.mem_eraseDups.mp hbase)
    exact ⟨pattern, hsome hpattern, rfl⟩
  rw [searchTasks] at htask
  dsimp only at htask
  rw [List.partition_eq_filter_filter] at htask
  obtain htask | htask := List.mem_append.mp htask
  · exact .inr (hgrouped _ (List.filter_subset_self _) htask)
  · split at htask
    · rw [List.mem_singleton.mp htask]
      exact .inl rfl
    · exact .inr (hgrouped _ (List.filter_subset_self _) htask)

/-- A way to a file that leads down from the directory of the search, along some names. -/
structure Trail.GoesDown (trail : Trail) (directory names : List String) : Prop where
  isPlace : Path.IsPlace names
  ne_nil : names ≠ []
  place : trail.place = directory ++ names
  path : trail.path = "/".intercalate names
  above : trail.above ⊆ directoriesAbove "" names

theorem withoutPoint_intercalate {place : List String} (hplace : Path.IsPlace place) :
    withoutPoint ("/".intercalate place) = "/".intercalate place := by
  rw [withoutPoint]
  split
  · rename_i rest hchars
    by_cases hne : place = []
    · simp [hne] at hchars
    · obtain ⟨name, others, rfl⟩ := List.exists_cons_of_ne_nil hne
      have hsplit := Path.splitOn_intercalate hplace hne
      rw [hchars, ← List.singleton_append, List.splitOn_append_cons_self_of_not_mem (by decide),
        List.map_cons] at hsplit
      have hpoint : name = "." := String.toList_injective (List.head_eq_of_cons_eq hsplit).symm
      exact absurd hpoint (hplace name List.mem_cons_self).notPoint
  · rfl

/-- Every file of a tree can be reached by names. -/
def FileTree.IsProper (tree : FileTree) : Prop :=
  ∀ file ∈ tree.files, Path.IsPlace file.1

instance (tree : FileTree) : Decidable tree.IsProper :=
  inferInstanceAs (Decidable (∀ file ∈ tree.files, Path.IsPlace file.1))

theorem FileTree.IsProper.isPlace {tree : FileTree} (htree : tree.IsProper)
    {place : List String} (hread : (tree.read? place).isSome = true) : Path.IsPlace place := by
  obtain ⟨file, hfile, rfl⟩ := List.mem_map.mp (isSome_read?_iff.mp hread)
  exact htree file hfile

theorem FileTree.IsProper.exists_names {tree : FileTree} (htree : tree.IsProper)
    {start place : List String} (hplace : place ∈ tree.filesBelow start) :
    ∃ names, place = start ++ names ∧ names ≠ [] ∧ Path.IsPlace names := by
  obtain ⟨hfile, hbelow⟩ := List.mem_filter.mp hplace
  obtain ⟨file, hmem, rfl⟩ := List.mem_map.mp hfile
  obtain ⟨names, hne, hnames⟩ := isBelow_iff.mp hbelow
  refine ⟨names, hnames, hne, fun name hname => ?_⟩
  exact htree file hmem name (hnames ▸ List.mem_append_right _ hname)

theorem mem_directoriesAbove {front path : String} {names : List String} :
    path ∈ directoriesAbove front names ↔ ∃ above below, above ≠ [] ∧ below ≠ [] ∧
      names = above ++ below ∧ path = front ++ "/".intercalate above := by
  rw [directoriesAbove, List.mem_map]
  constructor
  · rintro ⟨i, hi, rfl⟩
    rw [List.mem_range] at hi
    refine ⟨names.take (i + 1), names.drop (i + 1), ?_, ?_, (List.take_append_drop _ _).symm, rfl⟩
    · rw [Ne, List.take_eq_nil_iff]
      rintro (hzero | rfl)
      · omega
      · simp at hi
    · rw [Ne, List.drop_eq_nil_iff]
      omega
  · rintro ⟨above, below, habove, hbelow, rfl, rfl⟩
    have hsome := List.length_pos_iff.mpr habove
    have hmore := List.length_pos_iff.mpr hbelow
    refine ⟨above.length - 1, ?_, ?_⟩
    · rw [List.mem_range, List.length_append]
      omega
    · rw [Nat.sub_add_cancel hsome, List.take_left]

theorem withoutPoint_directoriesAbove {names : List String} (hnames : Path.IsPlace names) :
    (directoriesAbove "" names).map withoutPoint = directoriesAbove "" names := by
  have hsame : ∀ path ∈ directoriesAbove "" names, withoutPoint path = path := by
    intro path hmem
    obtain ⟨above, below, -, -, rfl, rfl⟩ := mem_directoriesAbove.mp hmem
    rw [String.empty_append]
    exact withoutPoint_intercalate fun name hname => hnames name (List.mem_append_left _ hname)
  rw [List.map_congr_left hsame, List.map_id']

namespace SearchTask

variable {task : SearchTask} {tree : FileTree} {directory : List String} {trail : Trail}

theorem exists_of_mem_trails (htree : tree.IsProper) (htrail : trail ∈ task.trails tree directory) :
    ∃ names, names ≠ [] ∧ Path.IsPlace names ∧
      trail.place = Path.resolve directory task.base ++ names ∧
      trail.path = withoutPoint (task.front ++ "/".intercalate names) ∧
      trail.above = (directoriesAbove task.front names).map withoutPoint := by
  obtain ⟨place, hplace, rfl⟩ := List.mem_map.mp (List.mem_of_mem_filter htrail)
  obtain ⟨names, rfl, hne, hnames⟩ := htree.exists_names hplace
  have hdrop : task.namesTo directory (Path.resolve directory task.base ++ names) = names :=
    List.drop_left
  refine ⟨names, hne, hnames, rfl, ?_, ?_⟩
  · rw [trailTo, hdrop]
  · rw [trailTo, hdrop]

theorem goesDown_of_point (hbase : task.base = ".") (htree : tree.IsProper)
    (htrail : trail ∈ task.trails tree directory) :
    ∃ names, trail.GoesDown directory names ∧ trail.above = directoriesAbove "" names := by
  obtain ⟨names, hne, hnames, hplace, hpath, habove⟩ := exists_of_mem_trails htree htrail
  have hfront : task.front = "" := if_pos hbase
  have hstart : Path.resolve directory task.base = directory := by
    rw [hbase]
    rfl
  rw [hstart] at hplace
  rw [hfront, String.empty_append, withoutPoint_intercalate hnames] at hpath
  have hdirectories : trail.above = directoriesAbove "" names := by
    rw [habove, hfront, withoutPoint_directoriesAbove hnames]
  exact ⟨names, ⟨hnames, hne, hplace, hpath, fun path hmem => hdirectories ▸ hmem⟩, hdirectories⟩

theorem goesDown_of_base {base : List String} (hbase : task.base = "/".intercalate base)
    (hne : base ≠ []) (hisPlace : Path.IsPlace base) (htree : tree.IsProper)
    (htrail : trail ∈ task.trails tree directory) :
    ∃ names, trail.GoesDown directory names := by
  obtain ⟨names, hsome, hnames, hplace, hpath, habove⟩ := exists_of_mem_trails htree htrail
  have hpoint : "/".intercalate base ≠ "." := by
    intro hpoint
    have hsplit := Path.split_intercalate hisPlace hne
    rw [hpoint] at hsplit
    exact (hisPlace "." (hsplit ▸ List.mem_singleton_self ".")).notPoint rfl
  have hslash : "/".intercalate base ≠ "/" := by
    intro hslash
    have hrelative := Path.isAbsolute_intercalate hisPlace
    rw [hslash] at hrelative
    exact absurd hrelative (by decide)
  have hfront : task.front = "/".intercalate base ++ "/" := by
    rw [front, hbase, if_neg hpoint, if_neg hslash]
  have hjoin (more : List String) (hmore : more ≠ []) :
      task.front ++ "/".intercalate more = "/".intercalate (base ++ more) := by
    rw [hfront, String.intercalate_append_of_ne_nil hne hmore]
  have hwhole : Path.IsPlace (base ++ names) := hisPlace.append hnames
  refine ⟨base ++ names, ⟨hwhole, by simp [hne], ?_, ?_, ?_⟩⟩
  · rw [hplace, hbase, Path.resolve_intercalate hisPlace, List.append_assoc]
  · rw [hpath, hjoin names hsome, withoutPoint_intercalate hwhole]
  · intro path hmem
    rw [habove] at hmem
    obtain ⟨walked, hwalked, rfl⟩ := List.mem_map.mp hmem
    obtain ⟨above, below, hpart, hmore, rfl, rfl⟩ := mem_directoriesAbove.mp hwalked
    rw [← List.append_assoc] at hwhole ⊢
    rw [hjoin above hpart, withoutPoint_intercalate fun name hname =>
      hwhole name (List.mem_append_left _ hname)]
    exact mem_directoriesAbove.mpr
      ⟨base ++ above, below, by simp [hne], hmore, rfl, String.empty_append.symm⟩

end SearchTask

section Patterns

variable {tree : FileTree} {root directory : List String} {pattern : String} {trail : Trail}

/-- A pattern that leads down leads to files by the names below the directory of the search. -/
theorem IsInward.goesDown (hinward : IsInward pattern) (htree : tree.IsProper)
    (htrail : trail ∈ patternTrails tree directory pattern) :
    ∃ names, trail.GoesDown directory names := by
  rw [patternTrails, hinward.searchAlternatives, List.partition_eq_filter_filter] at htrail
  obtain htrail | htrail := List.mem_append.mp htrail
  · obtain ⟨name, hname, rfl⟩ := List.mem_map.mp (List.mem_of_mem_filter htrail)
    obtain ⟨text, htext, rfl⟩ := List.mem_map.mp hname
    obtain rfl := List.mem_singleton.mp (List.mem_of_mem_filter htext)
    have hwhole : String.ofList pattern.toList = "/".intercalate (Path.split pattern) := by
      rw [String.ofList_toList, Path.intercalate_split]
    have hplace := hinward.isPlace
    have hne := IsInward.split_ne_nil pattern
    refine ⟨Path.split pattern, ⟨hplace, hne, ?_, ?_, List.nil_subset _⟩⟩
    · rw [hwhole, Path.resolve_intercalate hplace]
    · rw [hwhole, withoutPoint_intercalate hplace]
  · obtain ⟨task, htask, htrail⟩ := List.mem_flatMap.mp htrail
    obtain hbase | ⟨text, htext, hbase⟩ := base_of_mem_searchTasks htask
    · obtain ⟨names, hdown, -⟩ := task.goesDown_of_point hbase htree htrail
      exact ⟨names, hdown⟩
    · obtain rfl := List.mem_singleton.mp (List.mem_of_mem_filter htext)
      obtain hpoint | ⟨base, hne, hplace, heq⟩ := hinward.baseDirectory_cases
      · obtain ⟨names, hdown, -⟩ := task.goesDown_of_point (hbase.trans hpoint) htree htrail
        exact ⟨names, hdown⟩
      · exact task.goesDown_of_base (hbase.trans heq) hne hplace htree htrail

/-- A pattern that starts with signs leads through all directories below that of the search. -/
theorem IsInward.above_of_base (hinward : IsInward pattern) (htree : tree.IsProper)
    (hmoving : isStatic pattern.toList = false) (hbase : baseDirectory pattern.toList = ".")
    (htrail : trail ∈ patternTrails tree directory pattern) :
    ∃ names, trail.GoesDown directory names ∧ trail.above = directoriesAbove "" names := by
  rw [patternTrails, hinward.searchAlternatives, List.partition_eq_filter_filter] at htrail
  obtain htrail | htrail := List.mem_append.mp htrail
  · rw [List.filter_cons_of_neg (by simp [hmoving])] at htrail
    cases htrail
  · obtain ⟨task, htask, htrail⟩ := List.mem_flatMap.mp htrail
    refine task.goesDown_of_point ?_ htree htrail
    obtain hpoint | ⟨text, htext, hpoint⟩ := base_of_mem_searchTasks htask
    · exact hpoint
    · obtain rfl := List.mem_singleton.mp (List.mem_of_mem_filter htext)
      exact hpoint.trans hbase

theorem Leads.goesDown {patterns : List String} (htree : tree.IsProper)
    (hinward : ∀ pattern ∈ patterns, IsInward pattern)
    (hleads : Leads tree root directory patterns trail) :
    ∃ names, trail.GoesDown directory names := by
  obtain ⟨pattern, hpattern, opened, hopened, htrail⟩ := hleads.exists_pattern
  exact ((hinward pattern hpattern).openDirectory hopened).goesDown htree htrail

theorem sourcePatterns_inward : ∀ pattern ∈ sourcePatterns, IsInward pattern := by
  decide

/-- The patterns for all source files lead through all directories below that of the search. -/
theorem Leads.above_source (htree : tree.IsProper)
    (hleads : Leads tree root directory sourcePatterns trail) :
    ∃ names, trail.GoesDown directory names ∧ trail.above = directoriesAbove "" names := by
  obtain ⟨pattern, hpattern, opened, hopened, htrail⟩ := hleads.exists_pattern
  have hinward := sourcePatterns_inward pattern hpattern
  have hreading : ∀ pattern ∈ sourcePatterns, ∀ opened ∈ [pattern, pattern ++ "/**"],
      isStatic opened.toList = false ∧ baseDirectory opened.toList = "." := by
    decide +kernel
  have hcases : opened ∈ [pattern, pattern ++ "/**"] := by
    obtain rfl | rfl := openDirectory_cases hopened
    · exact List.mem_cons_self
    · rw [hinward.join_stars]
      exact List.mem_cons_of_mem _ List.mem_cons_self
  obtain ⟨hmoving, hbase⟩ := hreading pattern hpattern opened hcases
  exact (hinward.openDirectory hopened).above_of_base htree hmoving hbase htrail

end Patterns

end Leading

end NamedParams
