import NamedParams.Path
import NamedParams.Proofs.Text.Separators

namespace NamedParams.Path

/-- What a file or a directory can be called. -/
structure IsName (name : String) : Prop where
  nonempty : name ≠ ""
  notPoint : name ≠ "."
  notPoints : name ≠ ".."
  noSlash : '/' ∉ name.toList

/-- The names by which a directory and the one above it are known inside of it. -/
def points : List (List Char) := [['.'], ['.', '.']]

theorem isName_ofList {segment : List Char} (hne : segment ≠ []) (hpoints : segment ∉ points)
    (hslash : '/' ∉ segment) : IsName (String.ofList segment) := by
  rw [points, List.mem_cons, List.mem_singleton, not_or] at hpoints
  refine ⟨?_, ?_, ?_, by rwa [String.toList_ofList]⟩ <;> intro hname
  · exact hne (String.ofList_injective hname)
  · exact hpoints.1 (String.ofList_injective hname)
  · exact hpoints.2 (String.ofList_injective hname)

theorem IsName.toList_not_points {name : String} (hname : IsName name) :
    name.toList ∉ points := by
  rw [points, List.mem_cons, List.mem_singleton, not_or]
  exact ⟨fun hpoint => hname.notPoint (String.toList_injective hpoint),
    fun hpoints => hname.notPoints (String.toList_injective hpoints)⟩

instance (name : String) : Decidable (IsName name) :=
  decidable_of_iff (name ≠ "" ∧ name ≠ "." ∧ name ≠ ".." ∧ '/' ∉ name.toList)
    ⟨fun ⟨hne, hpoint, hpoints, hslash⟩ => ⟨hne, hpoint, hpoints, hslash⟩,
      fun hname => ⟨hname.nonempty, hname.notPoint, hname.notPoints, hname.noSlash⟩⟩

/-- The names on a way down from the root. -/
def IsPlace (place : List String) : Prop :=
  ∀ name ∈ place, IsName name

instance (place : List String) : Decidable (IsPlace place) :=
  inferInstanceAs (Decidable (∀ name ∈ place, IsName name))

theorem IsPlace.append {a b : List String} (ha : IsPlace a) (hb : IsPlace b) : IsPlace (a ++ b) :=
  fun name hname => (List.mem_append.mp hname).elim (ha name) (hb name)

theorem IsPlace.toList_ne_nil {place : List String} (hplace : IsPlace place) :
    ∀ segment ∈ place.map String.toList, segment ≠ [] := by
  intro segment hsegment
  obtain ⟨name, hname, rfl⟩ := List.mem_map.mp hsegment
  exact fun hnil => (hplace name hname).nonempty (String.toList_eq_nil_iff.mp hnil)

theorem descend_name {name : String} (hname : IsName name) (directory : List String) :
    descend directory name = directory ++ [name] := by
  rw [descend, if_neg (by simp [hname.nonempty, hname.notPoint]), if_neg hname.notPoints]

theorem foldl_descend {place : List String} (hplace : IsPlace place) (directory : List String) :
    place.foldl descend directory = directory ++ place := by
  induction place generalizing directory with
  | nil => simp
  | cons name rest ih =>
    rw [List.foldl_cons, descend_name (hplace name List.mem_cons_self),
      ih fun other hother => hplace other (List.mem_cons_of_mem _ hother), List.append_assoc,
      List.singleton_append]

/-- What a path goes along between its slashes: a name, or one of the points. -/
structure IsStep (name : String) : Prop where
  nonempty : name ≠ ""
  noSlash : '/' ∉ name.toList

theorem isStep_points : IsStep ".." :=
  ⟨by decide, by decide⟩

theorem IsPlace.isStep {place : List String} (hplace : IsPlace place) :
    ∀ name ∈ place, IsStep name :=
  fun name hname => ⟨(hplace name hname).nonempty, (hplace name hname).noSlash⟩

section Steps

variable {names : List String} (hnames : ∀ name ∈ names, IsStep name)
include hnames

/-- The segments of a path that steps are put together to. -/
theorem splitOn_steps (hne : names ≠ []) :
    ("/".intercalate names).toList.splitOn '/' = names.map String.toList :=
  Text.splitOn_intercalate_texts rfl (fun name hname => (hnames name hname).noSlash) hne

theorem isAbsolute_steps : isAbsolute ("/".intercalate names) = false := by
  cases names with
  | nil => rfl
  | cons name rest =>
    have hname := hnames name List.mem_cons_self
    obtain ⟨c, others, hchars⟩ := List.exists_cons_of_ne_nil
      (fun hnil : name.toList = [] => hname.nonempty (String.toList_eq_nil_iff.mp hnil))
    have hslash : c ≠ '/' := by
      rintro rfl
      exact hname.noSlash (hchars ▸ List.mem_cons_self)
    rw [isAbsolute, String.toList_intercalate, List.map_cons, hchars]
    cases rest <;> simpa [List.intercalate] using hslash

/-- A path leads along its steps. -/
theorem resolve_steps (directory : List String) :
    resolve directory ("/".intercalate names) = names.foldl descend directory := by
  rw [resolve, isAbsolute_steps hnames, if_neg Bool.false_ne_true, split]
  by_cases hne : names = []
  · subst hne
    simp [descend]
  · rw [splitOn_steps hnames hne]
    simp

end Steps

theorem splitOn_intercalate {place : List String} (hplace : IsPlace place) (hne : place ≠ []) :
    ("/".intercalate place).toList.splitOn '/' = place.map String.toList :=
  splitOn_steps hplace.isStep hne

theorem split_intercalate {place : List String} (hplace : IsPlace place) (hne : place ≠ []) :
    split ("/".intercalate place) = place := by
  rw [split, splitOn_intercalate hplace hne]
  simp

theorem intercalate_split (path : String) : "/".intercalate (split path) = path :=
  Text.intercalate_segments rfl path

theorem mem_intercalate {names : List String} {c : Char}
    (hc : c ∈ ("/".intercalate names).toList) : c = '/' ∨ ∃ name ∈ names, c ∈ name.toList := by
  induction names with
  | nil => simp at hc
  | cons name rest ih =>
    by_cases hrest : rest = []
    · subst hrest
      exact .inr ⟨name, List.mem_cons_self, by simpa using hc⟩
    · rw [String.intercalate_cons_of_ne_nil hrest, String.toList_append, String.toList_append,
        List.mem_append, List.mem_append] at hc
      obtain (hc | hc) | hc := hc
      · exact .inr ⟨name, List.mem_cons_self, hc⟩
      · exact .inl (by simpa using hc)
      · obtain hslash | ⟨other, hother, hc⟩ := ih hc
        · exact .inl hslash
        · exact .inr ⟨other, List.mem_cons_of_mem _ hother, hc⟩

theorem mem_intercalate_of_mem {names : List String} {name : String} (hname : name ∈ names)
    {c : Char} (hc : c ∈ name.toList) : c ∈ ("/".intercalate names).toList := by
  induction names with
  | nil => contradiction
  | cons first rest ih =>
    by_cases hrest : rest = []
    · subst hrest
      obtain rfl := List.mem_singleton.mp hname
      simpa using hc
    · rw [String.intercalate_cons_of_ne_nil hrest, String.toList_append, String.toList_append,
        List.mem_append, List.mem_append]
      obtain rfl | hname := List.mem_cons.mp hname
      · exact .inl (.inl hc)
      · exact .inr (ih hname)

theorem isAbsolute_intercalate {place : List String} (hplace : IsPlace place) :
    isAbsolute ("/".intercalate place) = false :=
  isAbsolute_steps hplace.isStep

/-- Names lead down. -/
theorem resolve_intercalate {place : List String} (hplace : IsPlace place)
    (directory : List String) : resolve directory ("/".intercalate place) = directory ++ place := by
  rw [resolve_steps hplace.isStep, foldl_descend hplace]

theorem toList_absolute {place : List String} (hne : place ≠ []) :
    (absolute place).toList = '/' :: ("/".intercalate place).toList := by
  have hjoin : absolute place = String.join (place.map ("/" ++ ·)) := by
    cases place with
    | nil => contradiction
    | cons name rest => rfl
  rw [hjoin, String.toList_join, List.flatMap_map, String.toList_intercalate]
  clear hjoin
  induction place with
  | nil => contradiction
  | cons name rest ih =>
    cases rest with
    | nil => simp
    | cons next rest =>
      rw [List.flatMap_cons, ih (List.cons_ne_nil _ _), List.map_cons, List.map_cons,
        List.map_cons, List.intercalate_cons_cons]
      simp

/-- The segments of an absolute path: an empty one before the first slash, and then the names. -/
theorem splitOn_absolute {place : List String} (hplace : IsPlace place) (hne : place ≠ []) :
    (absolute place).toList.splitOn '/' = [] :: place.map String.toList := by
  rw [toList_absolute hne, ← List.nil_append ('/' :: _),
    List.splitOn_append_cons_self_of_not_mem List.not_mem_nil, splitOn_intercalate hplace hne]

theorem isAbsolute_absolute (place : List String) : isAbsolute (absolute place) = true := by
  by_cases hne : place = []
  · rw [hne]
    decide
  · rw [isAbsolute, toList_absolute hne]
    rfl

/-- An absolute path leads to its place, from wherever one starts. -/
theorem resolve_absolute {place : List String} (hplace : IsPlace place) (directory : List String) :
    resolve directory (absolute place) = place := by
  rw [resolve, isAbsolute_absolute, if_pos rfl]
  by_cases hne : place = []
  · subst hne
    decide
  · have hsplit : split (absolute place) = "" :: place := by
      rw [split, splitOn_absolute hplace hne]
      simp
    rw [hsplit, List.foldl_cons, foldl_descend hplace]
    simp [descend]

theorem absolute_injective {a b : List String} (ha : IsPlace a) (hb : IsPlace b)
    (hab : absolute a = absolute b) : a = b := by
  rw [← resolve_absolute ha [], hab, resolve_absolute hb]

theorem descend_of_ne_points {directory : List String} {name : String} (hname : name ≠ "..") :
    directory <+: descend directory name := by
  rw [descend, if_neg hname]
  split
  · exact List.prefix_rfl
  · exact List.prefix_append _ _

/-- Without a step up, one stays below the directory where one starts. -/
theorem foldl_descend_below {names : List String} (hpoints : ".." ∉ names)
    (directory : List String) : directory <+: names.foldl descend directory := by
  induction names generalizing directory with
  | nil => exact List.prefix_rfl
  | cons name rest ih =>
    rw [List.mem_cons, not_or] at hpoints
    exact (descend_of_ne_points (Ne.symm hpoints.1)).trans (ih hpoints.2 _)

theorem isPlace_descend {directory : List String} (hplace : IsPlace directory) {name : String}
    (hslash : '/' ∉ name.toList) : IsPlace (descend directory name) := by
  rw [descend]
  split
  · exact hplace
  · rename_i hstays
    rw [Bool.or_eq_true, decide_eq_true_iff, decide_eq_true_iff, not_or] at hstays
    split
    · exact fun other hother => hplace other ((List.dropLast_sublist directory).subset hother)
    · rename_i hup
      have hname : IsName name := ⟨hstays.1, hstays.2, hup, hslash⟩
      exact hplace.append fun other hother => List.mem_singleton.mp hother ▸ hname

/-- Whatever a path says, it leads from a place to a place. -/
theorem isPlace_resolve {directory : List String} (hplace : IsPlace directory) (path : String) :
    IsPlace (resolve directory path) := by
  have hfold : ∀ names : List String, (∀ name ∈ names, '/' ∉ name.toList) →
      ∀ start, IsPlace start → IsPlace (names.foldl descend start) := by
    intro names hnames
    induction names with
    | nil => exact fun start hstart => hstart
    | cons name rest ih =>
      obtain ⟨hname, hrest⟩ := List.forall_mem_cons.mp hnames
      exact fun start hstart => ih hrest _ (isPlace_descend hstart hname)
  rw [resolve]
  apply hfold
  · intro name hname
    obtain ⟨segment, hsegment, rfl⟩ := List.mem_map.mp hname
    rw [String.toList_ofList]
    exact Text.not_mem_of_mem_splitOn hsegment
  · split
    · exact fun name hname => (List.not_mem_nil hname).elim
    · exact hplace

/-- A path leads through each of its names after which there is no step up. -/
theorem mem_resolve {path name : String} {before after : List String} (hname : IsName name)
    (hsplit : split path = before ++ name :: after) (hpoints : ".." ∉ after)
    (directory : List String) : name ∈ resolve directory path := by
  rw [resolve, hsplit, List.foldl_append, List.foldl_cons, descend_name hname]
  refine (foldl_descend_below hpoints _).subset ?_
  exact List.mem_append_right _ List.mem_cons_self

theorem getLast?_resolve {path name : String} {before : List String} (hname : IsName name)
    (hsplit : split path = before ++ [name]) (directory : List String) :
    (resolve directory path).getLast? = some name := by
  rw [resolve, hsplit, List.foldl_append, List.foldl_cons, List.foldl_nil, descend_name hname,
    List.getLast?_append, List.getLast?_singleton, Option.some_or]

/-- Going along two paths is going along the second from where the first leads. -/
theorem resolve_append_slash {first : String} (hfirst : first ≠ "") (path : String)
    (directory : List String) :
    resolve directory (first ++ "/" ++ path) =
      (split path).foldl descend (resolve directory first) := by
  have hsplit : split (first ++ "/" ++ path) = split first ++ split path := by
    have hchars : (first ++ "/" ++ path).toList = first.toList ++ '/' :: path.toList := by simp
    rw [split, hchars, List.splitOn_append_cons_self, List.map_append]
    rfl
  have habsolute : isAbsolute (first ++ "/" ++ path) = isAbsolute first := by
    obtain ⟨c, rest, hchars⟩ :=
      List.exists_cons_of_ne_nil (fun hnil => hfirst (String.toList_eq_nil_iff.mp hnil))
    rw [isAbsolute, isAbsolute, String.toList_append, String.toList_append, hchars]
    rfl
  rw [resolve, hsplit, List.foldl_append, habsolute]
  rfl

theorem exists_getLast?_intercalate {place : List String} (hplace : IsPlace place)
    (hne : place ≠ []) : ∃ c, ("/".intercalate place).toList.getLast? = some c ∧ c ≠ '/' := by
  obtain ⟨before, name, rfl⟩ := place.eq_nil_or_concat'.resolve_left hne
  have hname : IsName name := hplace name (List.mem_append_right _ List.mem_cons_self)
  have hchars : name.toList ≠ [] := fun hnil => hname.nonempty (String.toList_eq_nil_iff.mp hnil)
  have hlast : ("/".intercalate (before ++ [name])).toList.getLast? = name.toList.getLast? := by
    by_cases hbefore : before = []
    · simp [hbefore]
    · rw [String.intercalate_append_of_ne_nil hbefore (by simp), String.intercalate_singleton,
        String.toList_append, List.getLast?_append_of_ne_nil _ hchars]
  rw [hlast, List.getLast?_eq_some_getLast hchars]
  refine ⟨_, rfl, fun hslash => hname.noSlash ?_⟩
  rw [← hslash]
  exact List.getLast_mem hchars

/-- An absolute path without a slash at its end is written shortest by what it leads to. -/
theorem normalize_of_isAbsolute {path : String} (habsolute : isAbsolute path = true) {c : Char}
    (hlast : path.toList.getLast? = some c) (hslash : c ≠ '/') :
    normalize path = absolute (resolve [] path) := by
  rw [normalize, habsolute, if_pos rfl, hlast, resolve, habsolute, if_pos rfl]
  dsimp only
  split
  · rfl
  · rw [if_neg (by simpa using hslash)]
    exact String.append_empty

theorem exists_getLast?_absolute {place : List String} (hplace : IsPlace place)
    (hne : place ≠ []) : ∃ c, (absolute place).toList.getLast? = some c ∧ c ≠ '/' := by
  obtain ⟨c, hlast, hslash⟩ := exists_getLast?_intercalate hplace hne
  refine ⟨c, ?_, hslash⟩
  rw [toList_absolute hne, List.getLast?_cons_of_ne_nil, hlast]
  exact fun hnil => by simp [hnil] at hlast

/-- An absolute path cannot be written shorter. -/
theorem normalize_absolute {place : List String} (hplace : IsPlace place) :
    normalize (absolute place) = absolute place := by
  by_cases hne : place = []
  · rw [hne]
    decide
  · obtain ⟨c, hchars, hslash⟩ := exists_getLast?_absolute hplace hne
    rw [normalize_of_isAbsolute (isAbsolute_absolute place) hchars hslash, resolve_absolute hplace]

/-- Names behind the path of a directory lead down from it. -/
theorem join_absolute {directory names : List String} (hdirectory : IsPlace directory)
    (hnames : IsPlace names) (hne : names ≠ []) :
    join (absolute directory) ("/".intercalate names) = absolute (directory ++ names) := by
  obtain ⟨c, hlast, hslash⟩ := exists_getLast?_intercalate hnames hne
  have hstart : absolute directory ≠ "" := by
    intro hempty
    have habsolute := isAbsolute_absolute directory
    rw [hempty] at habsolute
    exact absurd habsolute (by decide)
  have hsome : "/".intercalate names ≠ "" := fun hempty => by simp [hempty] at hlast
  have hresolve : resolve [] (absolute directory ++ "/" ++ "/".intercalate names) =
      directory ++ names := by
    rw [resolve_append_slash hstart, split_intercalate hnames hne, resolve_absolute hdirectory,
      foldl_descend hnames]
  have habsolute : isAbsolute (absolute directory ++ "/" ++ "/".intercalate names) = true := by
    have hfirst := isAbsolute_absolute directory
    rw [isAbsolute, beq_iff_eq, List.head?_eq_some_iff] at hfirst
    obtain ⟨rest, hchars⟩ := hfirst
    rw [isAbsolute, String.toList_append, String.toList_append, hchars]
    rfl
  have hchars : (absolute directory ++ "/" ++ "/".intercalate names).toList.getLast? = some c := by
    rw [String.toList_append, List.getLast?_append_of_ne_nil, hlast]
    exact fun hnil => by simp [hnil] at hlast
  rw [join, if_neg hstart, if_neg hsome, normalize_of_isAbsolute habsolute hchars hslash, hresolve]

end NamedParams.Path
