import NamedParams.Proofs.Files.TargetLists

namespace NamedParams

open NamedParams.Glob NamedParams.Text

/-- Whether a name is shown. The others start with a point. -/
def Path.IsShown (name : String) : Prop :=
  name.toList.head? ≠ some '.'

section Matching

theorem head?_encode (text : List Char) : (encode text).head? = some point ↔ text.head? = some '.' := by
  cases text with
  | nil => simp [encode]
  | cons c rest =>
    have hpoint : point = 46 := rfl
    have hchar : c = '.' ↔ c.toNat = 46 := (Char.toNat_inj (c := c) (d := '.')).symm
    rw [encode_cons, codeUnits, List.head?_cons, Option.some.injEq, hchar, hpoint]
    split
    · simp
    · have hlarge : 46 < c.toNat := by omega
      simp
      omega

theorem runAll_visible (pieces : List Piece) (segment : List Char) :
    runAll (.visible :: pieces) List.isEmpty (encode segment) = true ↔
      segment.head? ≠ some '.' ∧ runAll pieces List.isEmpty (encode segment) = true := by
  rw [runAll, Piece.run, Bool.and_eq_true, bne_iff_ne, Ne, head?_encode]

/-- The pattern for an ending matches the paths that end so, and whose names are shown. -/
theorem matchesPath_ending_iff {text : String} (hplain : IsPlain text.toList)
    {above : List String} {file : String} (hplace : Path.IsPlace (above ++ [file])) :
    (SearchPattern.read false ("**/*" ++ text).toList).matchesPath
        ("/".intercalate (above ++ [file])) = true ↔
      (∀ name ∈ above ++ [file], Path.IsShown name) ∧ unitKey text <:+ unitKey file := by
  have hfile := hplace file (List.mem_append_right _ List.mem_cons_self)
  have hsome : encode file.toList ≠ [] := fun hnil => hfile.nonempty (unitKey_injective hnil)
  have hpass : (∀ segment ∈ above.map String.toList, passable false segment = true) ↔
      ∀ name ∈ above, Path.IsShown name := by
    simp [passable, Path.IsShown]
  have hlast : runAll (.visible :: .nonEmpty :: .many :: literals false text.toList) List.isEmpty
      (encode file.toList) = true ↔ Path.IsShown file ∧ unitKey text <:+ unitKey file := by
    rw [runAll_visible, runAll_nonEmpty_many]
    simp only [hsome, ne_eq, not_false_eq_true, true_and, Path.IsShown, unitKey]
  rw [Anywhere.read_ending false hplain, Anywhere.matchesPath_mk,
    Path.splitOn_intercalate hplace (by simp), if_neg Bool.false_ne_true, fits_last,
    List.map_append, List.map_singleton]
  constructor
  · rintro ⟨before, last, hsplit, hbefore, hruns⟩
    obtain rfl := List.append_inj_left' hsplit rfl
    obtain rfl : file.toList = last := List.singleton_inj.mp (List.append_inj_right' hsplit rfl)
    obtain ⟨hshown, hsuffix⟩ := hlast.mp hruns
    exact ⟨List.forall_mem_append.mpr ⟨hpass.mp hbefore, List.forall_mem_singleton.mpr hshown⟩,
      hsuffix⟩
  · rintro ⟨hshown, hsuffix⟩
    obtain ⟨habove, hfile⟩ := List.forall_mem_append.mp hshown
    exact ⟨_, _, rfl, hpass.mpr habove,
      hlast.mpr ⟨List.forall_mem_singleton.mp hfile, hsuffix⟩⟩

end Matching

/-- The way down from a directory along some names. -/
def Trail.down (directory names : List String) : Trail :=
  ⟨directory ++ names, "/".intercalate names, directoriesAbove "" names⟩

section Searching

variable {tree : FileTree} {root directory : List String}

theorem Path.resolve_point (directory : List String) : Path.resolve directory "." = directory := rfl

theorem SearchTask.trailTo_point (wanted : List (List Char)) {names : List String}
    (hnames : Path.IsPlace names) :
    (SearchTask.mk "." wanted).trailTo directory (directory ++ names) =
      Trail.down directory names := by
  have hto : (SearchTask.mk "." wanted).namesTo directory (directory ++ names) = names := by
    rw [namesTo, Path.resolve_point]
    exact List.drop_left
  have hfront : (SearchTask.mk "." wanted).front = "" := rfl
  rw [trailTo, hto, hfront, String.empty_append, withoutPoint_intercalate hnames,
    withoutPoint_directoriesAbove hnames, Trail.down]

/-- A walk that starts at the directory of a search leads down to all files below that are wanted. -/
theorem SearchTask.mem_trails_point_iff (htree : tree.IsProper) (wanted : List (List Char))
    (trail : Trail) :
    trail ∈ (SearchTask.mk "." wanted).trails tree directory ↔
      ∃ names, names ≠ [] ∧ Path.IsPlace names ∧ (tree.read? (directory ++ names)).isSome = true ∧
        (wanted.map (SearchPattern.read false)).any (·.matchesPath ("/".intercalate names)) =
          true ∧ trail = Trail.down directory names := by
  rw [trails, List.mem_filter, List.mem_map]
  dsimp only
  rw [Path.resolve_point]
  constructor
  · rintro ⟨⟨place, hplace, rfl⟩, hwanted⟩
    obtain ⟨names, rfl, hne, hnames⟩ := htree.exists_names hplace
    rw [trailTo_point wanted hnames] at hwanted ⊢
    exact ⟨names, hne, hnames, isSome_read?_iff.mpr (List.mem_filter.mp hplace).1, hwanted, rfl⟩
  · rintro ⟨names, hne, hnames, hread, hwanted, rfl⟩
    refine ⟨⟨directory ++ names, List.mem_filter.mpr ⟨isSome_read?_iff.mp hread, ?_⟩,
      trailTo_point wanted hnames⟩, hwanted⟩
    exact FileTree.isBelow_iff.mpr ⟨names, hne, rfl⟩

/-- The endings of the names of source files. -/
def sourceEndings : List String := [".ts", ".tsx", ".mts", ".cts"]

theorem sourcePatterns_eq : sourcePatterns = sourceEndings.map ("**/*" ++ ·) := by
  decide

theorem isPlain_of_mem_sourceEndings : ∀ ending ∈ sourceEndings, IsPlain ending.toList := by
  decide

theorem searchTasks_of_point {pattern : List Char} (hbase : baseDirectory pattern = ".")
    (hinside : (['.', '.'].isPrefixOf pattern || "./..".toList.isPrefixOf pattern) = false) :
    searchTasks [pattern] = [⟨".", [pattern]⟩] := by
  rw [searchTasks]
  dsimp only
  rw [List.partition_eq_filter_filter, List.filter_cons_of_neg (by rw [hinside]; decide),
    List.filter_cons_of_pos (by rw [Function.comp_apply, hinside]; rfl)]
  dsimp only
  rw [List.filter_nil, List.filter_nil, if_pos (by simp [hbase])]
  rfl

theorem patternTrails_ending {ending : String} (hending : ending ∈ sourceEndings) :
    patternTrails tree directory ("**/*" ++ ending) =
      (SearchTask.mk "." [("**/*" ++ ending).toList]).trails tree directory := by
  have hreading : ∀ ending ∈ sourceEndings, isStatic ("**/*" ++ ending).toList = false ∧
      baseDirectory ("**/*" ++ ending).toList = "." ∧
      (['.', '.'].isPrefixOf ("**/*" ++ ending).toList ||
        "./..".toList.isPrefixOf ("**/*" ++ ending).toList) = false ∧
      IsInward ("**/*" ++ ending) := by
    decide +kernel
  obtain ⟨hmoving, hbase, hinside, hinward⟩ := hreading ending hending
  rw [patternTrails, hinward.searchAlternatives, List.partition_eq_filter_filter,
    List.filter_cons_of_neg (by rw [hmoving]; decide),
    List.filter_cons_of_pos (by rw [Function.comp_apply, hmoving]; rfl)]
  dsimp only
  rw [List.filter_nil, List.filter_nil, searchTasks_of_point hbase hinside, List.flatMap_singleton]
  rfl

/-- A search for an ending leads to the files below its directory that have it, down the names on the
    way if they are all shown. -/
theorem mem_patternTrails_ending_iff (htree : tree.IsProper) {ending : String}
    (hending : ending ∈ sourceEndings) (trail : Trail) :
    trail ∈ patternTrails tree directory ("**/*" ++ ending) ↔
      ∃ above file, Path.IsPlace (above ++ [file]) ∧
        (tree.read? (directory ++ (above ++ [file]))).isSome = true ∧
        (∀ name ∈ above ++ [file], Path.IsShown name) ∧ unitKey ending <:+ unitKey file ∧
        trail = Trail.down directory (above ++ [file]) := by
  have hplain := isPlain_of_mem_sourceEndings ending hending
  rw [patternTrails_ending hending, SearchTask.mem_trails_point_iff htree]
  simp only [List.map_singleton, List.any_cons, List.any_nil, Bool.or_false]
  constructor
  · rintro ⟨names, hne, hnames, hread, hmatches, rfl⟩
    obtain ⟨above, file, rfl⟩ := names.eq_nil_or_concat'.resolve_left hne
    obtain ⟨hshown, hsuffix⟩ := (matchesPath_ending_iff hplain hnames).mp hmatches
    exact ⟨above, file, hnames, hread, hshown, hsuffix, rfl⟩
  · rintro ⟨above, file, hnames, hread, hshown, hsuffix, rfl⟩
    exact ⟨above ++ [file], by simp, hnames, hread,
      (matchesPath_ending_iff hplain hnames).mpr ⟨hshown, hsuffix⟩, rfl⟩

end Searching

section Opening

variable {tree : FileTree} {root directory : List String} {pattern : String}

/-- A pattern that leads down is looked up as if it was a path: where it leads to a directory, it
    stands for everything below, and the way there must not run through a file. -/
theorem IsInward.openDirectory_eq (hinward : IsInward pattern)
    (hdirectory : Path.IsPlace directory) :
    NamedParams.openDirectory tree directory pattern =
      match tree.kindOf (directory ++ Path.split pattern) with
      | .ok .directory => .ok (pattern ++ "/**")
      | .error .notDirectory => .error (AccessError.notDirectory.message "stat"
          (Path.absolute (directory ++ Path.split pattern)))
      | _ => .ok pattern := by
  have hne := IsInward.split_ne_nil pattern
  have hwhole := Path.intercalate_split pattern
  have hplace : Path.IsPlace (directory ++ Path.split pattern) :=
    hdirectory.append hinward.isPlace
  have hrelative : Path.isAbsolute pattern = false := by
    have hnames := Path.isAbsolute_intercalate hinward.isPlace
    rwa [hwhole] at hnames
  have hjoin : Path.join (Path.absolute directory) pattern =
      Path.absolute (directory ++ Path.split pattern) := by
    have hnames := Path.join_absolute hdirectory hinward.isPlace hne
    rwa [hwhole] at hnames
  have hmark (rest : List Char) : pattern.toList = '!' :: rest → False := by
    intro hchars
    have hnegative := hinward.noMark
    rw [isNegative, hchars] at hnegative
    cases hnegative
  have hlast : ((Path.absolute (directory ++ Path.split pattern)).toList.getLast? ==
      some '/') = false := by
    obtain ⟨c, hchars, hslash⟩ := Path.exists_getLast?_absolute hplace (by simp [hne])
    rw [hchars]
    simpa using hslash
  -- That there is no mark in front is taken from the context.
  simp only [NamedParams.openDirectory]
  rw [if_neg (by simp [hrelative]), hjoin, Path.resolve_absolute hplace, hinward.join_stars, hlast]
  rcases tree.kindOf (directory ++ Path.split pattern) with error | kind
  · cases error <;> rfl
  · cases kind <;> rfl

theorem openDirectory_error {message : String}
    (hfails : openDirectory tree directory pattern = .error message) :
    ∃ path, message = AccessError.notDirectory.message "stat" path := by
  rw [openDirectory] at hfails
  dsimp only at hfails
  generalize tree.kindOf _ = kind at hfails
  cases kind with
  | ok kind =>
    cases kind with
    | directory => cases hfails
    | file =>
      dsimp only at hfails
      split_ifs at hfails
      all_goals exact ⟨_, (Except.error.inj hfails).symm⟩
  | error error =>
    cases error with
    | missing => cases hfails
    | notDirectory => exact ⟨_, (Except.error.inj hfails).symm⟩

/-- A way from a directory runs through a file at its first name, if it has only one more. -/
theorem FileTree.IsDisk.kindOf_eq_notDirectory_iff (hdisk : tree.IsDisk)
    (hkind : tree.kindOf directory = .ok .directory) (name last : String) :
    tree.kindOf (directory ++ [name, last]) = .error .notDirectory ↔
      tree.kindOf (directory ++ [name]) = .ok .file := by
  obtain ⟨habove, hread, -⟩ := FileTree.kindOf_eq_directory_iff.mp hkind
  have hplace : directory ++ [name, last] = directory ++ [name] ++ [last] := by simp
  rw [FileTree.kindOf_eq_notDirectory_iff, hdisk.kindOf_eq_file_iff, isSome_read?_iff, hplace]
  simp only [FileTree.isBelow_concat_iff, List.prefix_concat_iff, List.mem_map]
  refine exists_congr fun file => and_congr_right fun hfile => or_iff_left ?_
  intro hbegins
  obtain ⟨names, rfl⟩ := hbegins
  by_cases hnames : names = []
  · rw [hnames, List.append_nil, ← Option.not_isSome_iff_eq_none] at hread
    exact hread (isSome_read?_iff.mpr (List.mem_map_of_mem hfile))
  · have hbelow := habove file hfile
    rw [FileTree.isBelow_iff.mpr ⟨names, hnames, rfl⟩] at hbelow
    cases hbelow

end Opening

/-- Whether no directory below a directory has a star in its name. -/
def FileTree.HasNoStarsBelow (tree : FileTree) (directory : List String) : Prop :=
  ∀ above name, tree.kindOf (directory ++ (above ++ [name])) = .ok .directory → '*' ∉ name.toList

/-- What a path of a directory consists of, are names of listed files and directories. -/
theorem FileTree.hasNoStarsBelow_of_names {tree : FileTree} (directory : List String)
    (hnames : ∀ place ∈ tree.files.map Prod.fst ++ tree.directories, ∀ name ∈ place,
      '*' ∉ name.toList) : tree.HasNoStarsBelow directory := by
  intro above name hkind
  obtain ⟨-, -, hdirectory⟩ := FileTree.kindOf_eq_directory_iff.mp hkind
  have hmem {place : List String} (hbegins : directory ++ (above ++ [name]) <+: place) :
      name ∈ place := hbegins.subset (by simp)
  rw [FileTree.isDirectory, Bool.or_eq_true, Bool.or_eq_true, List.any_eq_true,
    List.any_eq_true] at hdirectory
  obtain (hempty | ⟨place, hplace, hbegins⟩) | ⟨file, hfile, hbelow⟩ := hdirectory
  · simp at hempty
  · exact hnames place (List.mem_append_right _ hplace) name
      (hmem (List.isPrefixOf_iff_prefix.mp hbegins))
  · obtain ⟨more, -, heq⟩ := FileTree.isBelow_iff.mp hbelow
    exact hnames file.1 (List.mem_append_left _ (List.mem_map_of_mem hfile)) name
      (hmem ⟨more, heq.symm⟩)

section Directory

variable {tree : FileTree} {root directory : List String} {config : Config}

/-- The patterns for source files can be searched for unless there is a file of two stars, and they
    then stand for themselves. -/
theorem openDirectory_source_iff (hdisk : tree.IsDisk) (hdirectory : Path.IsPlace directory)
    (hkind : tree.kindOf directory = .ok .directory) (hstars : tree.HasNoStarsBelow directory)
    {pattern : String} (hpattern : pattern ∈ sourcePatterns) (opened : String) :
    openDirectory tree directory pattern = .ok opened ↔
      opened = pattern ∧ tree.kindOf (directory ++ ["**"]) ≠ .ok .file := by
  have hnames : ∀ pattern ∈ sourcePatterns,
      Path.split pattern = ["**", (Path.split pattern).getLastD ""] ∧
        '*' ∈ ((Path.split pattern).getLastD "").toList := by
    decide
  obtain ⟨hsplit, hstar⟩ := hnames pattern hpattern
  have hblocked := hdisk.kindOf_eq_notDirectory_iff hkind "**" ((Path.split pattern).getLastD "")
  rw [← hsplit] at hblocked
  rw [(sourcePatterns_inward pattern hpattern).openDirectory_eq hdirectory, Ne, ← hblocked]
  match hplace : tree.kindOf (directory ++ Path.split pattern) with
  | .ok .directory =>
    -- The pattern would be the path of a directory with stars in its name.
    rw [hsplit] at hplace
    exact absurd hstar (hstars ["**"] _ hplace)
  | .ok .file | .error .missing => simp [eq_comm]
  | .error .notDirectory => simp

/-- What a pattern to search for finds, if it and its exclusions can be looked up. -/
def SearchRequest.run (request : SearchRequest) (tree : FileTree) (root directory : List String) :
    Except String (List (List String)) := do
  let pattern ← openDirectory tree directory request.pattern
  let exclude ← request.exclude.mapM (openDirectory tree root)
  return searchPattern tree directory pattern exclude

theorem SearchRequest.exists_run_iff (request : SearchRequest) :
    (∃ found, request.run tree root directory = .ok found) ↔
      (∃ opened, openDirectory tree directory request.pattern = .ok opened) ∧
        ∀ exclusion ∈ request.exclude, ∃ opened, openDirectory tree root exclusion = .ok opened := by
  rw [← exists_mapM_eq_ok_iff]
  constructor
  · rintro ⟨found, hfound⟩
    obtain ⟨opened, hopened, hfound⟩ := bind_eq_ok_iff.mp hfound
    obtain ⟨others, hothers, -⟩ := bind_eq_ok_iff.mp hfound
    exact ⟨⟨opened, hopened⟩, others, hothers⟩
  · rintro ⟨⟨opened, hopened⟩, others, hothers⟩
    exact ⟨_, bind_eq_ok_iff.mpr ⟨opened, hopened, bind_eq_ok_iff.mpr ⟨others, hothers, rfl⟩⟩⟩

/-- All that a pattern can fail with is a path that runs through a file. -/
theorem SearchRequest.run_error {request : SearchRequest} {message : String}
    (hfails : request.run tree root directory = .error message) :
    ∃ path, message = AccessError.notDirectory.message "stat" path := by
  obtain hfails | ⟨_, -, hfails⟩ := bind_eq_error_iff.mp hfails
  · exact openDirectory_error hfails
  · obtain hfails | ⟨_, -, hfails⟩ := bind_eq_error_iff.mp hfails
    · obtain ⟨exclusion, -, hfails⟩ := exists_of_mapM_eq_error hfails
      exact openDirectory_error hfails
    · cases hfails

theorem searchFiles_of_directory (hkind : tree.kindOf directory = .ok .directory)
    (patterns exclude : List String) :
    searchFiles tree root directory patterns exclude =
      (searchRequests exclude patterns.eraseDups).mapM (·.run tree root directory) >>=
        fun found => .ok found.flatten.eraseDups := by
  rw [searchFiles, hkind]
  rfl

theorem searchRequests_source (exclude : List String) :
    searchRequests exclude sourcePatterns.eraseDups =
      sourcePatterns.map fun pattern => ⟨pattern, exclude⟩ := by
  have hrequests : searchRequests [] sourcePatterns.eraseDups =
      sourcePatterns.map fun pattern => ⟨pattern, []⟩ := rfl
  rw [searchRequests_eq, hrequests, List.map_map]
  simp

/-- A search for all source files comes to its end if all patterns can be looked up. -/
theorem exists_searchFiles_source_iff (hkind : tree.kindOf directory = .ok .directory)
    (exclude : List String) :
    (∃ found, searchFiles tree root directory sourcePatterns exclude = .ok found) ↔
      (∀ pattern ∈ sourcePatterns, ∃ opened, openDirectory tree directory pattern = .ok opened) ∧
        ∀ exclusion ∈ exclude, ∃ opened, openDirectory tree root exclusion = .ok opened := by
  have hrequests : (∃ found, searchFiles tree root directory sourcePatterns exclude = .ok found) ↔
      ∀ request ∈ sourcePatterns.map fun pattern => SearchRequest.mk pattern exclude,
        ∃ found, request.run tree root directory = .ok found := by
    rw [searchFiles_of_directory hkind, searchRequests_source, ← exists_mapM_eq_ok_iff]
    constructor
    · rintro ⟨found, hfound⟩
      obtain ⟨lists, hlists, -⟩ := bind_eq_ok_iff.mp hfound
      exact ⟨lists, hlists⟩
    · rintro ⟨lists, hlists⟩
      exact ⟨_, bind_eq_ok_iff.mpr ⟨lists, hlists, rfl⟩⟩
  simp only [hrequests, SearchRequest.exists_run_iff, List.forall_mem_map]
  constructor
  · intro hall
    exact ⟨fun pattern hpattern => (hall pattern hpattern).1, (hall _ List.mem_cons_self).2⟩
  · rintro ⟨hpatterns, hexclude⟩ pattern hpattern
    exact ⟨hpatterns pattern hpattern, hexclude⟩

theorem searchFiles_error (hkind : tree.kindOf directory = .ok .directory)
    {patterns exclude : List String} {message : String}
    (hfails : searchFiles tree root directory patterns exclude = .error message) :
    ∃ path, message = AccessError.notDirectory.message "stat" path := by
  rw [searchFiles_of_directory hkind] at hfails
  obtain hfails | ⟨_, -, hfails⟩ := bind_eq_error_iff.mp hfails
  · obtain ⟨request, -, hfails⟩ := exists_of_mapM_eq_error hfails
    exact SearchRequest.run_error hfails
  · cases hfails

/-- A directory as the only target stands for the source files that a search below it finds. -/
theorem filesToCheck_of_directory {target : String}
    (hkind : tree.kindOf (Path.resolve directory target) = .ok .directory) :
    filesToCheck tree root [target] config directory =
      searchFiles tree root (Path.resolve directory target) sourcePatterns config.exclude >>=
        fun found => .ok (sortPaths ((found.map Path.absolute).filter isTypeScriptPath).eraseDups) := by
  rw [filesToCheck, if_neg (by simp), List.mapM_cons, List.mapM_nil, targetFiles, hkind]
  dsimp only
  cases searchFiles tree root (Path.resolve directory target) sourcePatterns config.exclude with
  | error message => rfl
  | ok found => simp [bind, Except.bind, pure, Except.pure]

/-- What leads a search to source files, if all patterns stand for themselves. -/
theorem leads_source_iff
    (hopen : ∀ pattern ∈ sourcePatterns, ∀ opened,
      openDirectory tree directory pattern = .ok opened ↔ opened = pattern) (trail : Trail) :
    Leads tree root directory sourcePatterns trail ↔
      ∃ ending ∈ sourceEndings, trail ∈ patternTrails tree directory ("**/*" ++ ending) := by
  have hrequests := searchRequests_source []
  rw [Leads, hrequests]
  constructor
  · rintro ⟨request, hrequest, opened, later, hopened, -, htrail, -⟩
    obtain ⟨pattern, hpattern, rfl⟩ := List.mem_map.mp hrequest
    obtain rfl := (hopen pattern hpattern _).mp hopened
    rw [sourcePatterns_eq] at hpattern
    obtain ⟨ending, hending, rfl⟩ := List.mem_map.mp hpattern
    exact ⟨ending, hending, htrail⟩
  · rintro ⟨ending, hending, htrail⟩
    have hpattern : "**/*" ++ ending ∈ sourcePatterns := by
      rw [sourcePatterns_eq]
      exact List.mem_map_of_mem hending
    exact ⟨_, List.mem_map_of_mem hpattern, _, [], (hopen _ hpattern _).mpr rfl, rfl, htrail,
      List.forall_mem_nil _⟩

/-- Whether an exclusion keeps a search from a file. Those that are the paths of directories stand
    for everything below. -/
def Config.Ignores (config : Config) (tree : FileTree) (root : List String) (trail : Trail) : Prop :=
  ∃ exclusion ∈ config.exclude, ∃ opened,
    openDirectory tree root exclusion = .ok opened ∧ trail.Meets opened

/-- Whether some names lead down from a directory to a file that it stands for as a target: a source
    file, with shown names alone on the way, that is not ignored. -/
structure Config.Lists (config : Config) (tree : FileTree) (root directory names : List String) :
    Prop where
  isFile : tree.kindOf (directory ++ names) = .ok .file
  isSource : Path.IsSource (Path.absolute (directory ++ names))
  shown : ∀ name ∈ names, Path.IsShown name
  included : ¬ config.Ignores tree root (Trail.down directory names)

/-- What an absolute path ends in, its last name ends in, up to the slash before it. -/
theorem suffix_of_suffix_absolute {text : List Char} (hslash : '/' ∉ text) {above : List String}
    {file : String} (hsuffix : text <:+ (Path.absolute (above ++ [file])).toList) :
    text <:+ file.toList := by
  have hlast : '/' :: file.toList <:+ (Path.absolute (above ++ [file])).toList := by
    rw [Path.toList_absolute (by simp)]
    by_cases habove : above = []
    · simp [habove]
    · rw [String.intercalate_append_of_ne_nil habove (by simp), String.intercalate_singleton,
        String.toList_append, String.toList_append]
      exact ⟨'/' :: ("/".intercalate above).toList, by simp⟩
  obtain hshort | hlong := List.suffix_or_suffix_of_suffix hsuffix hlast
  · obtain rfl | hshort := List.suffix_cons_iff.mp hshort
    · exact absurd List.mem_cons_self hslash
    · exact hshort
  · exact absurd (hlong.subset List.mem_cons_self) hslash

theorem unitKey_suffix {ending name : String} (hsuffix : ending.toList <:+ name.toList) :
    unitKey ending <:+ unitKey name := by
  obtain ⟨front, hname⟩ := hsuffix
  rw [unitKey, unitKey, ← hname, encode, encode, List.flatMap_append]
  exact List.suffix_append _ _

/-- The patterns lead to the source files that a directory stands for, and to no others. -/
theorem leads_and_included_iff (hdisk : tree.IsDisk) (hkind : tree.kindOf directory = .ok .directory)
    (hopen : ∀ pattern ∈ sourcePatterns, ∀ opened,
      openDirectory tree directory pattern = .ok opened ↔ opened = pattern)
    {opened : List String}
    (hopened : config.exclude.mapM (openDirectory tree root) = .ok opened) (file : String) :
    (∃ trail, (Leads tree root directory sourcePatterns trail ∧
        ∀ exclusion ∈ opened, ¬ trail.Meets exclusion) ∧
        Path.absolute trail.place = file ∧ Path.IsSource file) ↔
      ∃ names, config.Lists tree root directory names ∧
        Path.absolute (directory ++ names) = file := by
  have hincluded (trail : Trail) :
      (∀ exclusion ∈ opened, ¬ trail.Meets exclusion) ↔ ¬ config.Ignores tree root trail := by
    simp only [Config.Ignores, mem_of_mapM hopened]
    constructor
    · rintro hfree ⟨exclusion, hexclusion, other, hother, hmeets⟩
      exact hfree other ⟨exclusion, hexclusion, hother⟩ hmeets
    · rintro hfree other ⟨exclusion, hexclusion, hother⟩ hmeets
      exact hfree ⟨exclusion, hexclusion, other, hother, hmeets⟩
  constructor
  · rintro ⟨trail, ⟨hleads, hfree⟩, rfl, hsource⟩
    obtain ⟨ending, hending, htrail⟩ := (leads_source_iff hopen trail).mp hleads
    obtain ⟨above, last, hnames, hread, hshown, -, rfl⟩ :=
      (mem_patternTrails_ending_iff hdisk.proper hending trail).mp htrail
    exact ⟨above ++ [last], ⟨hdisk.kindOf_eq_file_iff.mpr hread, hsource, hshown,
      (hincluded _).mp hfree⟩, rfl⟩
  · rintro ⟨names, hlists, rfl⟩
    have hread := isSome_read?_of_kindOf hlists.isFile
    have hplace := hdisk.proper.isPlace hread
    have hne : names ≠ [] := by
      rintro rfl
      have hfile := hlists.isFile
      rw [List.append_nil, hkind] at hfile
      cases hfile
    obtain ⟨above, last, rfl⟩ := names.eq_nil_or_concat'.resolve_left hne
    have hnames : Path.IsPlace (above ++ [last]) := fun name hname =>
      hplace name (List.mem_append_right _ hname)
    -- One of the patterns matches the file, because its last name ends as its path does.
    obtain ⟨ending, hending, hsuffix⟩ := hlists.isSource.ending
    rw [← List.append_assoc] at hsuffix
    have hslash : '/' ∉ ending.toList :=
      (isPlain_of_mem_sourceEndings ending hending).not_mem (by decide)
    have hlast := unitKey_suffix (suffix_of_suffix_absolute hslash hsuffix)
    refine ⟨Trail.down directory (above ++ [last]),
      ⟨(leads_source_iff hopen _).mpr ⟨ending, hending, ?_⟩, (hincluded _).mpr hlists.included⟩,
      rfl, hlists.isSource⟩
    exact (mem_patternTrails_ending_iff hdisk.proper hending _).mpr
      ⟨above, last, hnames, hread, hlists.shown, hlast, rfl⟩

variable (root config) in
/-- A directory as a target stands for the source files below it whose names are shown on the way and
    that are not ignored, whatever characters are in its own path. The patterns are looked up as
    paths before they are searched for, though, so there are no files at all, but a complaint about a
    path that runs through a file, if there is a file of two stars in the directory, or if an
    exclusion runs through one. -/
theorem filesToCheck_directory {target : String} (hdisk : tree.IsDisk)
    (hdirectory : Path.IsPlace directory)
    (hkind : tree.kindOf (Path.resolve directory target) = .ok .directory)
    (hstars : tree.HasNoStarsBelow (Path.resolve directory target)) :
    let start := Path.resolve directory target
    let answer := filesToCheck tree root [target] config directory
    ((∃ files, answer = .ok files) ↔ tree.kindOf (start ++ ["**"]) ≠ .ok .file ∧
      ∀ exclusion ∈ config.exclude, ∃ opened, openDirectory tree root exclusion = .ok opened) ∧
    (∀ message, answer = .error message →
      ∃ path, message = AccessError.notDirectory.message "stat" path) ∧
    ∀ files, answer = .ok files → InOrder files ∧
      ∀ file, file ∈ files ↔ ∃ names, config.Lists tree root start names ∧
        Path.absolute (start ++ names) = file := by
  intro start answer
  have hstart : Path.IsPlace start := Path.isPlace_resolve hdirectory target
  have hanswer : answer = searchFiles tree root start sourcePatterns config.exclude >>=
      fun found => .ok (sortPaths ((found.map Path.absolute).filter isTypeScriptPath).eraseDups) :=
    filesToCheck_of_directory hkind
  have hopen {pattern : String} (hpattern : pattern ∈ sourcePatterns) (opened : String) :
      openDirectory tree start pattern = .ok opened ↔
        opened = pattern ∧ tree.kindOf (start ++ ["**"]) ≠ .ok .file :=
    openDirectory_source_iff hdisk hstart hkind hstars hpattern opened
  have hends : (∃ files, answer = .ok files) ↔
      ∃ found, searchFiles tree root start sourcePatterns config.exclude = .ok found := by
    rw [hanswer]
    constructor
    · rintro ⟨files, hfiles⟩
      obtain ⟨found, hfound, -⟩ := bind_eq_ok_iff.mp hfiles
      exact ⟨found, hfound⟩
    · rintro ⟨found, hfound⟩
      exact ⟨_, bind_eq_ok_iff.mpr ⟨found, hfound, rfl⟩⟩
  refine ⟨?_, fun message hfails => ?_, fun files hfiles => ?_⟩
  · rw [hends, exists_searchFiles_source_iff hkind]
    refine and_congr_left' ⟨fun hpatterns => ?_, fun hfile pattern hpattern => ?_⟩
    · obtain ⟨opened, hopened⟩ := hpatterns "**/*.ts" List.mem_cons_self
      exact ((hopen List.mem_cons_self opened).mp hopened).2
    · exact ⟨pattern, (hopen hpattern pattern).mpr ⟨rfl, hfile⟩⟩
  · rw [hanswer] at hfails
    obtain hfails | ⟨_, -, hfails⟩ := bind_eq_error_iff.mp hfails
    · exact searchFiles_error hkind hfails
    · cases hfails
  · refine ⟨((filesToCheck_eq_ok_iff (by simp)).mp hfiles).2.1, fun file => ?_⟩
    have hsearch := (exists_searchFiles_source_iff hkind config.exclude).mp (hends.mp ⟨files, hfiles⟩)
    obtain ⟨opened, hopened⟩ := exists_mapM_eq_ok_iff.mpr hsearch.2
    have hself : ∀ pattern ∈ sourcePatterns, ∀ opened,
        openDirectory tree start pattern = .ok opened ↔ opened = pattern := by
      intro pattern hpattern opened
      obtain ⟨other, hother⟩ := hsearch.1 pattern hpattern
      rw [hopen hpattern, and_iff_left ((hopen hpattern other).mp hother).2]
    rw [← leads_and_included_iff hdisk hkind hself hopened file]
    rw [hanswer] at hfiles
    obtain ⟨found, hfound, hfiles⟩ := bind_eq_ok_iff.mp hfiles
    obtain rfl := Except.ok.inj hfiles
    rw [mem_sortPaths, List.mem_eraseDups, List.mem_filter, List.mem_map, isTypeScriptPath_iff]
    simp only [mem_searchFiles_iff hfound, hopened, Except.ok.injEq]
    constructor
    · rintro ⟨⟨place, ⟨trail, _, hleads, rfl, hfree, rfl⟩, rfl⟩, hsource⟩
      exact ⟨trail, ⟨hleads, hfree⟩, rfl, hsource⟩
    · rintro ⟨trail, ⟨hleads, hfree⟩, rfl, hsource⟩
      exact ⟨⟨trail.place, ⟨trail, opened, hleads, rfl, hfree, rfl⟩, rfl⟩, hsource⟩

/-- A directory whose name is full of signs, with files of all kinds below. -/
def signedRoutes : FileTree :=
  ⟨[(["p", "(a)!{b}", "[id]", "page.tsx"], ""), (["p", "(a)!{b}", "[id]", ".hidden.ts"], ""),
    (["p", "(a)!{b}", "types.d.ts"], ""), (["p", "(a)!{b}", "node_modules", "x.ts"], "")], []⟩

theorem filesToCheck_directory_of_signedRoutes :
    ∃ files, filesToCheck signedRoutes ["p"] ["(a)!{b}"] Config.default ["p"] = .ok files ∧
      InOrder files ∧ ∀ file, file ∈ files ↔
        ∃ names, Config.default.Lists signedRoutes ["p"] ["p", "(a)!{b}"] names ∧
          Path.absolute (["p", "(a)!{b}"] ++ names) = file := by
  have hdisk : signedRoutes.IsDisk := by decide
  have hdirectory : Path.IsPlace ["p"] := by decide
  have hkind : signedRoutes.kindOf (Path.resolve ["p"] "(a)!{b}") = .ok .directory := by decide
  have hstars : signedRoutes.HasNoStarsBelow (Path.resolve ["p"] "(a)!{b}") :=
    FileTree.hasNoStarsBelow_of_names _ (by decide)
  obtain ⟨hends, -, hfiles⟩ := filesToCheck_directory ["p"] Config.default hdisk hdirectory hkind
    hstars
  obtain ⟨files, hanswer⟩ := hends.mpr ⟨by decide, fun exclusion hexclusion => by
    have hopened : ∀ exclusion ∈ Config.default.exclude,
        openDirectory signedRoutes ["p"] exclusion = .ok exclusion := by decide +kernel
    exact ⟨_, hopened exclusion hexclusion⟩⟩
  exact ⟨files, hanswer, hfiles files hanswer⟩

/-- Two source files, one of which an exclusion takes for a directory. -/
def libraryWithGenerated : FileTree :=
  ⟨[(["p", "lib", "a.ts"], ""), (["p", "lib", "gen.ts"], "")], []⟩

def excludingBelowFile : Config := { Config.default with exclude := ["lib/gen.ts/**"] }

/-- No exclusion says anything about a source file in a directory, but none is found there. -/
theorem directory_not_searched :
    libraryWithGenerated.IsDisk ∧ libraryWithGenerated.HasNoStarsBelow ["p", "lib"] ∧
      libraryWithGenerated.kindOf ["p", "lib"] = .ok .directory ∧
      libraryWithGenerated.kindOf ["p", "lib", "a.ts"] = .ok .file ∧
      isTypeScriptPath "/p/lib/a.ts" = true ∧
      (∀ exclusion ∈ excludingBelowFile.exclude,
        ¬ (Trail.down ["p", "lib"] ["a.ts"]).Meets exclusion) ∧
      filesToCheck libraryWithGenerated ["p"] ["lib"] excludingBelowFile ["p"] =
        .error "ENOTDIR: not a directory, stat '/p/lib/gen.ts/**'" := by
  have hfree : (Exclusions.ofPatterns excludingBelowFile.exclude).stop
      (Trail.down ["p", "lib"] ["a.ts"]) = false := by
    decide +kernel
  refine ⟨by decide, FileTree.hasNoStarsBelow_of_names _ (by decide), by decide, by decide,
    by decide, fun exclusion hexclusion hmeets => ?_, by decide +kernel⟩
  exact ne_true_of_eq_false hfree ((Exclusions.stop_iff _ _).mpr ⟨exclusion, hexclusion, hmeets⟩)

end Directory

end NamedParams
