import NamedParams.Proofs.Files.Places

namespace NamedParams.Path

/-- An absolute path in which nothing can be left out: no empty names, no points, and no slash at
    its end. It is what the place that it leads to is called. -/
def IsNormal (path : String) : Prop :=
  absolute (resolve [] path) = path

instance (path : String) : Decidable (IsNormal path) :=
  inferInstanceAs (Decidable (_ = _))

theorem isNormal_iff {path : String} :
    IsNormal path ↔ ∃ place, IsPlace place ∧ absolute place = path := by
  constructor
  · intro hnormal
    have hroot : IsPlace [] := fun name hname => (List.not_mem_nil hname).elim
    exact ⟨resolve [] path, isPlace_resolve hroot path, hnormal⟩
  · rintro ⟨place, hplace, rfl⟩
    rw [IsNormal, resolve_absolute hplace]

/-- From where two places part, the way goes up to there and then down. -/
theorem exists_between_eq (start stop : List String) :
    ∃ common up down, start = common ++ up ∧ stop = common ++ down ∧
      between start stop = List.replicate up.length ".." ++ down := by
  induction start, stop using between.induct with
  | case1 starts name stops ih =>
    obtain ⟨common, up, down, rfl, rfl, hway⟩ := ih
    exact ⟨name :: common, up, down, rfl, rfl, by rw [between, if_pos rfl, hway]⟩
  | case2 start starts stop stops hne =>
    exact ⟨[], start :: starts, stop :: stops, rfl, rfl, by rw [between, if_neg hne, List.map_const']⟩
  | case3 starts stops hends =>
    refine ⟨[], starts, stops, rfl, rfl, ?_⟩
    rw [between, List.map_const']
    exact hends

/-- Steps up leave out as many names. -/
theorem foldl_descend_points (count : Nat) (directory : List String) :
    (List.replicate count "..").foldl descend directory =
      directory.take (directory.length - count) := by
  induction count generalizing directory with
  | zero => simp
  | succ count ih =>
    have hup : descend directory ".." = directory.take (directory.length - 1) :=
      List.dropLast_eq_take
    rw [List.replicate_succ, List.foldl_cons, hup, ih, List.take_take, List.length_take]
    congr 1
    omega

/-- A relative path leads from its start to its end, whether that is above, below or beside it. -/
theorem resolve_relative {place : List String} (hplace : IsPlace place) (directory : List String) :
    resolve directory (relative directory place) = place := by
  obtain ⟨common, up, down, rfl, rfl, hway⟩ := exists_between_eq directory place
  have hdown : IsPlace down := fun name hname => hplace name (List.mem_append_right _ hname)
  have hsteps : ∀ name ∈ List.replicate up.length ".." ++ down, IsStep name := by
    intro name hname
    obtain hname | hname := List.mem_append.mp hname
    · rw [List.eq_of_mem_replicate hname]
      exact isStep_points
    · exact hdown.isStep name hname
  -- The steps up leave what the two places have in common.
  have hback : (common ++ up).length - up.length = common.length := by simp
  rw [relative, hway, resolve_steps hsteps, List.foldl_append, foldl_descend_points, hback,
    List.take_left, foldl_descend hdown]

/-- Whatever path of a file is shown, it leads from the directory to the file. -/
theorem resolve_display_absolute (root directory : List String) {place : List String}
    (hplace : IsPlace place) :
    resolve directory (display root directory (absolute place)) = place := by
  rw [display, resolve_absolute hplace]
  split
  · exact resolve_absolute hplace directory
  · exact resolve_relative hplace directory

/-- The path by which a file is shown leads back to the file from the directory that it is shown
    for, wherever the two lie. So no two files are shown alike. The directory may be any. -/
theorem resolve_display (root directory : List String) {file : String} (hfile : IsNormal file) :
    absolute (resolve directory (display root directory file)) = file ∧
      ∀ other, IsNormal other → display root directory other = display root directory file →
        other = file := by
  obtain ⟨place, hplace, rfl⟩ := isNormal_iff.mp hfile
  refine ⟨by rw [resolve_display_absolute root directory hplace], ?_⟩
  intro other hother halike
  obtain ⟨elsewhere, helsewhere, rfl⟩ := isNormal_iff.mp hother
  rw [← resolve_display_absolute root directory helsewhere, halike,
    resolve_display_absolute root directory hplace]

/-- A file beside the directory, in one whose name goes on from the directory's. -/
theorem resolve_display_of_longerName :
    IsNormal "/srv/repo2/a.ts" ∧ IsNormal "/srv/repo/2/a.ts" ∧
      absolute (resolve ["srv", "repo"] (display [] ["srv", "repo"] "/srv/repo2/a.ts")) =
        "/srv/repo2/a.ts" ∧
      display [] ["srv", "repo"] "/srv/repo/2/a.ts" ≠ display [] ["srv", "repo"] "/srv/repo2/a.ts" :=
  have hbeside : IsNormal "/srv/repo2/a.ts" := by decide
  have hinside : IsNormal "/srv/repo/2/a.ts" := by decide
  have hround := resolve_display [] ["srv", "repo"] hbeside
  ⟨hbeside, hinside, hround.1, fun halike =>
    absurd (hround.2 _ hinside halike) (by decide)⟩

/-- The way to what lies below a directory goes down. -/
theorem between_append (directory names : List String) :
    between directory (directory ++ names) = names := by
  induction directory with
  | nil => cases names <;> simp [between]
  | cons name directory ih => rw [List.cons_append, between, if_pos rfl, ih]

/-- The way to anything else first goes up. -/
theorem exists_between_of_not_prefix {start stop : List String} (houtside : ¬ start <+: stop) :
    ∃ rest, between start stop = ".." :: rest := by
  induction start, stop using between.induct with
  | case1 starts name stops ih =>
    obtain ⟨rest, hway⟩ := ih (mt (fun hrest => List.cons_prefix_cons.mpr ⟨rfl, hrest⟩) houtside)
    exact ⟨rest, by rw [between, if_pos rfl, hway]⟩
  | case2 start starts stop stops hne =>
    exact ⟨starts.map (fun _ => "..") ++ stop :: stops, by rw [between, if_neg hne]; rfl⟩
  | case3 starts stops hends =>
    cases starts with
    | nil => exact absurd (List.nil_prefix) houtside
    | cons start starts =>
      cases stops with
      | nil => exact ⟨starts.map (fun _ => ".."), by simp [between]⟩
      | cons stop stops => exact absurd rfl (hends start starts stop stops rfl)

/-- Whether a way down looks like one that leads up, since its first name starts with two points. -/
def LooksUpward (names : List String) : Prop :=
  ['.', '.'] <+: (names.headD "").toList

instance : DecidablePred LooksUpward := fun _ => inferInstanceAs (Decidable (_ <+: _))

theorem points_prefix_intercalate_iff {names : List String} :
    ['.', '.'] <+: ("/".intercalate names).toList ↔ LooksUpward names := by
  cases names with
  | nil => rfl
  | cons name rest =>
    rw [LooksUpward, List.headD_cons]
    by_cases hrest : rest = []
    · rw [hrest, String.intercalate_singleton]
    -- Behind the first name there is a slash, which is not a point.
    rw [String.intercalate_cons_of_ne_nil hrest, String.toList_append, String.toList_append]
    match name.toList with
    | [] => simp
    | [c] => simp
    | first :: second :: others => simp

/-- What is shown for a path that is written out. -/
theorem display_absolute (root directory : List String) {place : List String}
    (hplace : IsPlace place) :
    display root directory (absolute place) =
      if ['.', '.'] <+: (relative directory place).toList then absolute place
      else relative directory place := by
  rw [display, resolve_absolute hplace]
  simp only [List.isPrefixOf_iff_prefix]

/-- A file below the directory is shown by the names that lead down to it, unless the first of them
    starts with two points. -/
theorem display_below (root directory : List String) {names : List String}
    (hplace : IsPlace (directory ++ names)) :
    display root directory (absolute (directory ++ names)) =
      if LooksUpward names then absolute (directory ++ names) else "/".intercalate names := by
  rw [display_absolute root directory hplace, relative, between_append]
  simp only [points_prefix_intercalate_iff]

theorem display_outside (root : List String) {directory place : List String}
    (hplace : IsPlace place) (houtside : ¬ directory <+: place) :
    display root directory (absolute place) = absolute place := by
  obtain ⟨rest, hway⟩ := exists_between_of_not_prefix houtside
  have hpoints : LooksUpward (".." :: rest) :=
    show ['.', '.'] <+: "..".toList by decide
  rw [display_absolute root directory hplace, relative, hway,
    if_pos (points_prefix_intercalate_iff.mpr hpoints)]

/-- Files outside of the directory keep their paths, and those inside are shown by the names below
    it. Only those keep theirs as well whose first name there starts with two points. -/
theorem display_shortens_inside (root directory : List String) {file : String}
    (hfile : IsNormal file) :
    (∀ names, resolve [] file = directory ++ names →
      display root directory file = if LooksUpward names then file else "/".intercalate names) ∧
    (display root directory file = file ↔
      ¬ directory <+: resolve [] file ∨
        ∃ names, resolve [] file = directory ++ names ∧ LooksUpward names) := by
  obtain ⟨place, hplace, rfl⟩ := isNormal_iff.mp hfile
  rw [resolve_absolute hplace]
  have hbelow : ∀ names, place = directory ++ names → display root directory (absolute place) =
      if LooksUpward names then absolute place else "/".intercalate names := by
    rintro names rfl
    exact display_below root directory hplace
  refine ⟨hbelow, ?_, ?_⟩
  · intro hkept
    by_contra! hnot
    obtain ⟨⟨names, hinside⟩, hdown⟩ := hnot
    rw [hbelow names hinside.symm, if_neg (hdown names hinside.symm)] at hkept
    have hnames : IsPlace names :=
      fun name hname => hplace name (hinside ▸ List.mem_append_right _ hname)
    -- A way down is no absolute path.
    have habsolute := isAbsolute_absolute place
    rw [← hkept, isAbsolute_intercalate hnames] at habsolute
    contradiction
  · rintro (houtside | ⟨names, hinside, hupward⟩)
    · exact display_outside root hplace houtside
    · rw [hbelow names hinside, if_pos hupward]

/-- A file that starts with two points further down, and one in a directory that does. -/
theorem display_shortens_inside_of_pointedNames :
    IsNormal "/srv/repo/src/..a.ts" ∧ IsNormal "/srv/repo/..gen/a.ts" ∧
      display [] ["srv", "repo"] "/srv/repo/src/..a.ts" = "src/..a.ts" ∧
      display [] ["srv", "repo"] "/srv/repo/..gen/a.ts" = "/srv/repo/..gen/a.ts" :=
  have hdeeper : IsNormal "/srv/repo/src/..a.ts" := by decide
  have hfirst : IsNormal "/srv/repo/..gen/a.ts" := by decide
  ⟨hdeeper, hfirst,
    ((display_shortens_inside [] ["srv", "repo"] hdeeper).1 ["src", "..a.ts"] (by decide)).trans
      (by decide),
    (display_shortens_inside [] ["srv", "repo"] hfirst).2.mpr
      (.inr ⟨["..gen", "a.ts"], by decide, by decide⟩)⟩

/-- The file lies in the directory, and yet it is not shown by its path from there. -/
theorem display_keeps_pointedName :
    IsNormal "/repo" ∧ IsNormal "/repo/..a.ts" ∧
      resolve [] "/repo" <+: resolve [] "/repo/..a.ts" ∧
      display [] (resolve [] "/repo") "/repo/..a.ts" = "/repo/..a.ts" := by
  decide

end NamedParams.Path
