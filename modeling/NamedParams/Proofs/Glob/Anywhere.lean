import NamedParams.FileSearch
import NamedParams.Proofs.Files.Places
import NamedParams.Proofs.Glob.PlainText

namespace NamedParams.Glob

open NamedParams.Path (points)
open NamedParams.Text

/-- A pattern that says nothing about how deep something lies: it matches all that is under
    directories of some name, or all files whose names end in some text. -/
inductive Anywhere where
  | under (name : String) (isName : Path.IsName name) (isPlain : IsPlain name.toList)
  | ending (text : String) (nonempty : text ≠ "") (isPlain : IsPlain text.toList)

namespace Anywhere

def pattern : Anywhere → String
  | under name _ _ => "**/" ++ name ++ "/**"
  | ending text _ _ => "**/*" ++ text

/-- Whether a search matches what it finds at the end of some names. -/
def Covers : Anywhere → List String → Prop
  | under name _ _, names => name ∈ names
  | ending text _ _, names => ∃ last ∈ names.getLast?, unitKey text <:+ unitKey last

/-- Whether a filter matches the file at the end of some names. The name of the file itself is
    that of no directory. -/
def CoversFile : Anywhere → List String → Prop
  | under name _ _, names => name ∈ names.dropLast
  | ending text _ _, names => ∃ last ∈ names.getLast?, unitKey text <:+ unitKey last

end Anywhere

section Parts

theorem passThen_iff (hidden : Bool) (next : List (List Char) → Bool)
    (segments : List (List Char)) :
    passThen hidden next segments = true ↔ ∃ passed rest, segments = passed ++ rest ∧
      (∀ segment ∈ passed, passable hidden segment = true) ∧ next rest = true := by
  induction segments with
  | nil => simp [passThen]
  | cons segment segments ih =>
    rw [passThen, Bool.or_eq_true, Bool.and_eq_true, ih]
    constructor
    · rintro (hnext | ⟨hsegment, passed, rest, rfl, hpassed, hnext⟩)
      · exact ⟨[], _, rfl, List.forall_mem_nil _, hnext⟩
      · exact ⟨segment :: passed, rest, rfl, List.forall_mem_cons.mpr ⟨hsegment, hpassed⟩, hnext⟩
    · rintro ⟨passed, rest, hsplit, hpassed, hnext⟩
      cases passed with
      | nil => exact .inl (by rwa [hsplit])
      | cons first passed =>
        obtain ⟨rfl, rfl⟩ := List.cons_eq_cons.mp hsplit
        rw [List.forall_mem_cons] at hpassed
        exact .inr ⟨hpassed.1, passed, rest, rfl, hpassed.2, hnext⟩

theorem fits_deep (hidden : Bool) (parts : List Part) (segments : List (List Char)) :
    fits (.deep hidden :: parts) segments = true ↔ ∃ passed rest, segments = passed ++ rest ∧
      (∀ segment ∈ passed, passable hidden segment = true) ∧ fits parts rest = true := by
  rw [fits, passThen_iff]

theorem fits_last_deep (hidden : Bool) (segments : List (List Char)) :
    fits [.deep hidden] segments = true ↔
      ∀ segment ∈ segments, passable hidden segment = true := by
  rw [fits_deep]
  constructor
  · rintro ⟨passed, rest, rfl, hpassed, hrest⟩
    rw [List.isEmpty_iff.mp hrest, List.append_nil]
    exact hpassed
  · exact fun hall => ⟨segments, [], (List.append_nil _).symm, hall, rfl⟩

theorem fits_segment (pieces : List Piece) (parts : List Part) (segments : List (List Char)) :
    fits (.segment false pieces :: parts) segments = true ↔ ∃ segment rest,
      segments = segment :: rest ∧ runAll pieces List.isEmpty (encode segment) = true ∧
        fits parts rest = true := by
  cases segments with
  | nil => simp [fits]
  | cons segment rest => simp [fits, codes, and_assoc]

theorem fits_under (hidden : Bool) (text : List Char) (segments : List (List Char)) :
    fits [.deep hidden, .segment false (literals false text), .deep hidden] segments = true ↔
      ∃ before after, segments = before ++ text :: after ∧
        (∀ segment ∈ before, passable hidden segment = true) ∧
        ∀ segment ∈ after, passable hidden segment = true := by
  rw [fits_deep]
  constructor
  · rintro ⟨before, rest, rfl, hbefore, hrest⟩
    obtain ⟨segment, after, rfl, hsegment, hafter⟩ := (fits_segment _ _ _).mp hrest
    obtain rfl := runAll_literals_codes.mp hsegment
    exact ⟨before, after, rfl, hbefore, (fits_last_deep hidden after).mp hafter⟩
  · rintro ⟨before, after, rfl, hbefore, hafter⟩
    refine ⟨before, _, rfl, hbefore, (fits_segment _ _ _).mpr ⟨text, after, rfl, ?_, ?_⟩⟩
    · exact runAll_literals_codes.mpr rfl
    · exact (fits_last_deep hidden after).mpr hafter

theorem fits_last (hidden : Bool) (pieces : List Piece) (segments : List (List Char)) :
    fits [.deep hidden, .segment false pieces] segments = true ↔
      ∃ before last, segments = before ++ [last] ∧
        (∀ segment ∈ before, passable hidden segment = true) ∧
        runAll pieces List.isEmpty (encode last) = true := by
  rw [fits_deep]
  constructor
  · rintro ⟨before, rest, rfl, hbefore, hrest⟩
    obtain ⟨last, after, rfl, hlast, hafter⟩ := (fits_segment _ _ _).mp hrest
    rw [fits, List.isEmpty_iff] at hafter
    exact ⟨before, last, by rw [hafter], hbefore, hlast⟩
  · rintro ⟨before, last, rfl, hbefore, hlast⟩
    exact ⟨before, _, rfl, hbefore, (fits_segment _ _ _).mpr ⟨last, [], rfl, hlast, rfl⟩⟩

theorem runAll_many_literals (text : List Char) (units : List Nat) :
    runAll (.many :: literals false text) List.isEmpty units = true ↔ encode text <:+ units := by
  rw [runAll, Piece.run, anySuffix_iff]
  constructor
  · rintro ⟨before, after, rfl, hafter⟩
    obtain ⟨rest, rfl, hrest⟩ := (runAll_literals _ _ _).mp hafter
    rw [List.isEmpty_iff.mp hrest, List.append_nil]
    exact List.suffix_append _ _
  · rintro ⟨before, rfl⟩
    exact ⟨before, _, rfl, (runAll_literals _ _ _).mpr ⟨[], (List.append_nil _).symm, rfl⟩⟩

theorem passable_not_points {hidden : Bool} {segment : List Char}
    (hpassable : passable hidden segment = true) : segment ∉ points := by
  intro hmem
  obtain rfl | rfl : segment = ['.'] ∨ segment = ['.', '.'] := by simpa [points] using hmem
  all_goals cases hidden <;> simp [passable] at hpassable

theorem passable_of_not_points {segment : List Char} (hsegment : segment ∉ points) :
    passable true segment = true := by
  simpa [passable, points] using hsegment

theorem runAll_noDots (pieces : List Piece) (segment : List Char) :
    runAll (.noDots :: pieces) List.isEmpty (encode segment) = true ↔
      segment ∉ points ∧ runAll pieces List.isEmpty (encode segment) = true := by
  have hone : encode segment = [point] ↔ segment = ['.'] := by
    rw [← encode_injective.eq_iff (a := segment)]
    rfl
  have htwo : encode segment = [point, point] ↔ segment = ['.', '.'] := by
    rw [← encode_injective.eq_iff (a := segment)]
    rfl
  simp [runAll, Piece.run, hone, htwo, points, and_assoc]

theorem runAll_nonEmpty_many (text : List Char) (units : List Nat) :
    runAll (.nonEmpty :: .many :: literals false text) List.isEmpty units = true ↔
      units ≠ [] ∧ encode text <:+ units := by
  rw [runAll, Piece.run, Bool.and_eq_true, runAll_many_literals]
  simp

theorem runAll_visible_not_points {pieces : List Piece} {segment : List Char}
    (hruns : runAll (.visible :: pieces) List.isEmpty (encode segment) = true) :
    segment ∉ points := by
  rintro hmem
  rw [runAll, Piece.run, Bool.and_eq_true] at hruns
  obtain rfl | rfl : segment = ['.'] ∨ segment = ['.', '.'] := by simpa [points] using hmem
  all_goals exact absurd hruns.1 (by decide)

/-- A star keeps off the names of points, whether it matches other hidden names or not. -/
theorem runAll_star {hidden : Bool} {text segment : List Char}
    (hruns : runAll ((if hidden then .noDots else .visible) :: .nonEmpty :: .many ::
      literals false text) List.isEmpty (encode segment) = true) :
    segment ∉ points ∧ encode text <:+ encode segment := by
  cases hidden with
  | true =>
    obtain ⟨hpoints, hrest⟩ := (runAll_noDots _ _).mp hruns
    exact ⟨hpoints, ((runAll_nonEmpty_many _ _).mp hrest).2⟩
  | false =>
    refine ⟨runAll_visible_not_points hruns, ?_⟩
    rw [if_neg Bool.false_ne_true, runAll, Piece.run, Bool.and_eq_true] at hruns
    exact ((runAll_nonEmpty_many _ _).mp hruns.2).2

end Parts

section Reading

theorem segmentParts_plain (hidden last : Bool) {text : List Char} (hplain : IsPlain text) :
    segmentParts hidden last text = [.segment false (literals false text)] := by
  have hstar (tail : List Char) : text ≠ '*' :: tail := hplain.ne_cons (by decide) tail
  rw [segmentParts, readSegment_plain _ _ hplain]
  · exact hstar _
  · exact fun _ => hstar _

theorem segmentParts_star (hidden last : Bool) {text : List Char} (hplain : IsPlain text) :
    segmentParts hidden last ('*' :: text) =
      [.segment false ((if hidden then .noDots else .visible) :: .nonEmpty :: .many ::
        literals false text)] := by
  have hstar (tail : List Char) : text ≠ '*' :: tail := hplain.ne_cons (by decide) tail
  rw [segmentParts, readSegment_star_search _ _ hplain]
  · exact fun hstars => hstar _ (List.tail_eq_of_cons_eq hstars)
  · exact fun _ hstars => hstar _ (List.tail_eq_of_cons_eq hstars)

theorem endsInMany_literals (text : List Char) :
    (Part.segment false (literals false text)).endsInMany = false := by
  rw [Part.endsInMany, literals, List.getLast?_map]
  cases (codes false text).getLast? <;> rfl

/-- Two stars at the start of a pattern. -/
theorem searchParts_stars_cons (hidden : Bool) {rest : List (List Char)} (hne : rest ≠ [])
    (hstars : rest ≠ [['*', '*']]) :
    searchParts hidden (['*', '*'] :: rest) = .deep hidden :: searchParts hidden rest := by
  rw [searchParts]
  · rfl
  · exact hne
  · exact hstars

/-- Two stars at the end of a pattern, behind a segment without signs. -/
theorem searchParts_plain_stars (hidden : Bool) {text : List Char} (hplain : IsPlain text) :
    searchParts hidden [text, ['*', '*']] =
      [.segment false (literals false text), .deep hidden] := by
  rw [searchParts, segmentParts_plain _ _ hplain]
  simp [endsInMany_literals]

/-- A pattern that starts with two stars and a slash has no meaning of its own, with one
    exception. -/
theorem wholePattern_of_slash {rest : List Char} (hrest : rest ≠ ['*', '.', '*']) :
    wholePattern ('*' :: '*' :: '/' :: rest) = '*' :: '*' :: '/' :: rest := by
  rw [wholePattern]
  · rfl
  · exact fun heq => hrest (List.tail_eq_of_cons_eq heq)

namespace Anywhere

theorem toList_under (name : String) :
    ("**/" ++ name ++ "/**").toList = ['*', '*'] ++ '/' :: (name.toList ++ '/' :: ['*', '*']) := by
  simp

theorem toList_ending (text : String) :
    ("**/*" ++ text).toList = ['*', '*'] ++ '/' :: '*' :: text.toList := by
  simp

/-- The segments of the pattern for a name. -/
theorem splitOn_under {name : String} (hname : Path.IsName name) :
    ("**/" ++ name ++ "/**").toList.splitOn '/' = [['*', '*'], name.toList, ['*', '*']] := by
  rw [toList_under, List.splitOn_append_cons_self_of_not_mem (by decide),
    List.splitOn_append_cons_self_of_not_mem hname.noSlash]
  rfl

theorem splitOn_ending {text : String} (hplain : IsPlain text.toList) :
    ("**/*" ++ text).toList.splitOn '/' = [['*', '*'], '*' :: text.toList] := by
  have hslash : '/' ∉ '*' :: text.toList :=
    List.not_mem_cons_of_ne_of_not_mem (by decide) (hplain.not_mem (by decide))
  rw [toList_ending, List.splitOn_append_cons_self_of_not_mem (by decide),
    List.splitOn_eq_singleton hslash]

theorem matchesPath_mk (parts : List Part) (path : String) :
    SearchPattern.matchesPath ⟨false, parts⟩ path = fits parts (path.toList.splitOn '/') :=
  Bool.bne_false _

theorem read_of_stars (hidden : Bool) {pattern rest : List Char}
    (hpattern : pattern = ['*', '*'] ++ '/' :: rest) (hrest : rest ≠ ['*', '.', '*']) :
    SearchPattern.read hidden pattern = ⟨false, searchParts hidden (pattern.splitOn '/')⟩ := by
  have hwhole := wholePattern_of_slash hrest
  subst hpattern
  change SearchPattern.mk false
    (searchParts hidden ((wholePattern ('*' :: '*' :: '/' :: rest)).splitOn '/')) = _
  rw [hwhole]
  rfl

theorem read_under (hidden : Bool) {name : String} (hname : Path.IsName name)
    (hplain : IsPlain name.toList) : SearchPattern.read hidden ("**/" ++ name ++ "/**").toList =
      ⟨false, [.deep hidden, .segment false (literals false name.toList), .deep hidden]⟩ := by
  have hslash : name.toList ++ ['/', '*', '*'] ≠ ['*', '.', '*'] := fun heq =>
    absurd (heq ▸ List.mem_append_right _ List.mem_cons_self) (by decide : '/' ∉ ['*', '.', '*'])
  rw [read_of_stars hidden (toList_under name) hslash, splitOn_under hname,
    searchParts_stars_cons hidden (List.cons_ne_nil _ _) (by simp),
    searchParts_plain_stars hidden hplain]

theorem read_ending (hidden : Bool) {text : String} (hplain : IsPlain text.toList) :
    SearchPattern.read hidden ("**/*" ++ text).toList =
      ⟨false, [.deep hidden, .segment false ((if hidden then .noDots else .visible) ::
        .nonEmpty :: .many :: literals false text.toList)]⟩ := by
  have hstars : '*' :: text.toList ≠ ['*', '.', '*'] := fun heq =>
    hplain.not_mem (by decide : '*' ∈ signs) (List.tail_eq_of_cons_eq heq ▸ by decide)
  have hsegment : ['*' :: text.toList] ≠ [['*', '*']] := fun heq =>
    hplain.ne_cons (by decide) [] (List.tail_eq_of_cons_eq (List.head_eq_of_cons_eq heq))
  rw [read_of_stars hidden (toList_ending text) hstars, splitOn_ending hplain,
    searchParts_stars_cons hidden (List.cons_ne_nil _ _) hsegment, searchParts,
    segmentParts_star hidden true hplain]

/-- What a search matches lies where the pattern says, whether it looks at hidden names or not. -/
theorem covers_of_matchesPath (exclusion : Anywhere) (hidden : Bool) (directory : List String)
    {path : String}
    (hmatches : (SearchPattern.read hidden exclusion.pattern.toList).matchesPath path = true) :
    exclusion.Covers (Path.resolve directory path) := by
  have hsegments (segments : List (List Char)) (hsplit : path.toList.splitOn '/' = segments) :
      Path.split path = segments.map String.ofList := by
    rw [Path.split, hsplit]
  cases exclusion with
  | under name hname hplain =>
    rw [pattern, read_under hidden hname hplain, matchesPath_mk, fits_under] at hmatches
    obtain ⟨before, after, hsplit, -, hafter⟩ := hmatches
    have hnames := hsegments _ hsplit
    rw [List.map_append, List.map_cons, String.ofList_toList] at hnames
    refine Path.mem_resolve hname hnames ?_ directory
    intro hpoints
    obtain ⟨segment, hsegment, hname⟩ := List.mem_map.mp hpoints
    refine passable_not_points (hafter segment hsegment) ?_
    rw [← String.toList_ofList (l := segment), hname]
    decide
  | ending text hne hplain =>
    rw [pattern, read_ending hidden hplain, matchesPath_mk, fits_last] at hmatches
    obtain ⟨before, last, hsplit, -, hlast⟩ := hmatches
    have hnames := hsegments _ hsplit
    obtain ⟨hpoints, hsuffix⟩ := runAll_star hlast
    have hlastName : Path.IsName (String.ofList last) := by
      refine Path.isName_ofList ?_ hpoints ?_
      · rintro rfl
        exact hne (String.toList_eq_nil_iff.mp (encode_injective (List.suffix_nil.mp hsuffix)))
      · have hlast : last ∈ path.toList.splitOn '/' := by simp [hsplit]
        exact Text.not_mem_of_mem_splitOn hlast
    rw [List.map_append, List.map_cons, List.map_nil] at hnames
    refine ⟨String.ofList last, Path.getLast?_resolve hlastName hnames directory, ?_⟩
    rwa [unitKey, unitKey, String.toList_ofList]

/-- A search matches exactly what the pattern says, among paths that lead down. -/
theorem matchesPath_iff_covers (exclusion : Anywhere) {place : List String}
    (hplace : Path.IsPlace place) (hne : place ≠ []) :
    (SearchPattern.read true exclusion.pattern.toList).matchesPath ("/".intercalate place) = true ↔
      exclusion.Covers place := by
  have hsplit := Path.splitOn_intercalate hplace hne
  have hpass (names : List String) (hnames : names ⊆ place) :
      ∀ segment ∈ names.map String.toList, passable true segment = true := by
    intro segment hsegment
    obtain ⟨name, hname, rfl⟩ := List.mem_map.mp hsegment
    exact passable_of_not_points (hplace name (hnames hname)).toList_not_points
  constructor
  · intro hmatches
    have hcovers := exclusion.covers_of_matchesPath true [] hmatches
    rwa [Path.resolve_intercalate hplace, List.nil_append] at hcovers
  · intro hcovers
    cases exclusion with
    | under name hname hplain =>
      obtain ⟨before, after, rfl⟩ := List.append_of_mem hcovers
      rw [pattern, read_under true hname hplain, matchesPath_mk, hsplit, fits_under]
      refine ⟨before.map String.toList, after.map String.toList, List.map_append, ?_, ?_⟩
      · exact hpass before (List.subset_append_left _ _)
      · exact hpass after fun other hother => by simp [hother]
    | ending text htext hplain =>
      obtain ⟨last, hlast, hsuffix⟩ := hcovers
      obtain ⟨before, rfl⟩ := List.getLast?_eq_some_iff.mp hlast
      have hlastName := hplace last (List.mem_append_right _ List.mem_cons_self)
      rw [pattern, read_ending true hplain, matchesPath_mk, hsplit, fits_last]
      refine ⟨before.map String.toList, last.toList, List.map_append, ?_, ?_⟩
      · exact hpass before (List.subset_append_left _ _)
      · refine (runAll_noDots _ _).mpr ⟨hlastName.toList_not_points, ?_⟩
        refine (runAll_nonEmpty_many _ _).mpr ⟨?_, hsuffix⟩
        exact fun hnil => hlastName.nonempty (unitKey_injective hnil)

end Anywhere

end Reading

section Filtering

theorem matchesPath_of_stars {pattern path : String} {rest : List Char}
    (hstars : pattern.toList = '*' :: rest) (hpattern : '\x7b' ∉ pattern.toList) :
    matchesPath pattern path = matchesSimple pattern.toList path.toList := by
  have hexpand := expandBraces_eq_singleton false hpattern
  rw [hstars] at hexpand
  rw [matchesPath, hstars]
  change ((expandBraces false ('*' :: rest)).any _ !=
    ((rest.length + 1 - (rest.length + 1)) % 2 == 1)) = _
  rw [hexpand, Nat.sub_self]
  simp

/-- Only empty segments in the middle of a path go. -/
theorem splitPath_of_splitOn {path first : List Char} {rest : List (List Char)}
    (hsplit : path.splitOn '/' = first :: rest) (hrest : ∀ segment ∈ rest, segment ≠ []) :
    splitPath path = first :: rest := by
  have hfilter : rest.dropLast.filter (!·.isEmpty) = rest.dropLast := by
    refine List.filter_eq_self.mpr fun segment hsegment => ?_
    simpa using hrest segment (List.dropLast_subset _ hsegment)
  rw [splitPath, hsplit]
  dsimp only
  rw [hfilter]
  obtain rfl | ⟨before, last, rfl⟩ := rest.eq_nil_or_concat
  · rfl
  · simp

theorem pushSegment_of_ne {done : List (List Char)} {last segment : List Char}
    (hlast : done.getLast? = some last) (hstars : segment = ['*', '*'] → last ≠ ['*', '*'])
    (hpoints : segment ≠ ['.', '.']) : pushSegment done segment = done ++ [segment] := by
  rw [pushSegment, hlast]
  dsimp only
  rw [if_neg, if_neg]
  · simp [hpoints]
  · simpa using hstars

theorem filterParts_under {text : List Char} (hplain : IsPlain text) :
    filterParts [['*', '*'], text, ['*', '*']] =
      [.deep true, .segment false (literals false text), .deep true,
        .segment false [.noDots, .many]] := by
  have hstar (tail : List Char) : text ≠ '*' :: tail := hplain.ne_cons (by decide) tail
  rw [filterParts, filterParts, readSegment_plain _ _ hplain]
  · rfl
  · exact fun hstars _ => hstar _ hstars
  · exact hstar _
  · simp

theorem filterParts_ending {text : List Char} (hplain : IsPlain text) (htext : text ≠ []) :
    filterParts [['*', '*'], '*' :: text] =
      [.deep true, .segment false (.noDots :: .many :: literals false text)] := by
  have hstar (tail : List Char) : text ≠ '*' :: tail := hplain.ne_cons (by decide) tail
  rw [filterParts, filterParts, readSegment_star_filter hplain htext]
  · rfl
  · exact fun hstars _ => hstar _ (List.tail_eq_of_cons_eq hstars)
  · exact fun hstars => hstar _ (List.tail_eq_of_cons_eq hstars)
  · simp

/-- A filter looks for its parts among the names of an absolute path, behind an empty segment. -/
theorem matchesSimple_absolute {pattern : List Char} {segments : List (List Char)}
    {place : List String} (hsegments : (splitPath pattern).foldl pushSegment [] = segments)
    (hsome : segments ≠ []) (hplace : Path.IsPlace place) (hne : place ≠ []) :
    matchesSimple pattern (Path.absolute place).toList =
      fits (filterParts segments) ([] :: place.map String.toList) := by
  have hnames := hplace.toList_ne_nil
  have hpath : splitPath (Path.absolute place).toList = [] :: place.map String.toList :=
    splitPath_of_splitOn (Path.splitOn_absolute hplace hne) hnames
  have hlast : (([] : List Char) :: place.map String.toList).getLast? ≠ some [] := by
    rw [List.getLast?_cons_of_ne_nil (by simpa using hne)]
    exact fun hlast => hnames [] (List.mem_of_getLast? hlast) rfl
  rw [matchesSimple, hsegments, hpath, if_neg (by simpa using hsome),
    beq_eq_false_iff_ne.mpr hlast, Bool.false_and, Bool.or_false]

namespace Anywhere

theorem pushSegment_under {name : String} (hname : Path.IsName name)
    (hplain : IsPlain name.toList) :
    (splitPath ("**/" ++ name ++ "/**").toList).foldl pushSegment [] =
      [['*', '*'], name.toList, ['*', '*']] := by
  have hne : name.toList ≠ [] := fun hnil => hname.nonempty (String.toList_eq_nil_iff.mp hnil)
  have hstars : name.toList ≠ ['*', '*'] := hplain.ne_cons (by decide) _
  have hpoints : name.toList ≠ ['.', '.'] :=
    fun hpoints => hname.toList_not_points (by simp [points, hpoints])
  have hsecond : pushSegment [['*', '*']] name.toList = [['*', '*'], name.toList] :=
    pushSegment_of_ne rfl (fun heq => absurd heq hstars) hpoints
  have hthird : pushSegment [['*', '*'], name.toList] ['*', '*'] =
      [['*', '*'], name.toList, ['*', '*']] :=
    pushSegment_of_ne rfl (fun _ => hstars) (by decide)
  rw [splitPath_of_splitOn (splitOn_under hname) (by simpa using hne), List.foldl_cons,
    List.foldl_cons, List.foldl_cons, List.foldl_nil]
  exact (congrArg (pushSegment · _) hsecond).trans hthird

theorem pushSegment_ending {text : String} (hplain : IsPlain text.toList) :
    (splitPath ("**/*" ++ text).toList).foldl pushSegment [] =
      [['*', '*'], '*' :: text.toList] := by
  have hstar (tail : List Char) : text.toList ≠ '*' :: tail := hplain.ne_cons (by decide) tail
  have hsecond : pushSegment [['*', '*']] ('*' :: text.toList) =
      [['*', '*'], '*' :: text.toList] :=
    pushSegment_of_ne rfl (fun heq => absurd (List.tail_eq_of_cons_eq heq) (hstar _)) (by simp)
  rw [splitPath_of_splitOn (splitOn_ending hplain) (by simp), List.foldl_cons, List.foldl_cons,
    List.foldl_nil]
  exact hsecond

theorem passable_absolute {place : List String} (hplace : Path.IsPlace place)
    {names : List String} (hnames : names ⊆ place) :
    ∀ segment ∈ [] :: names.map String.toList, passable true segment = true := by
  refine List.forall_mem_cons.mpr ⟨rfl, fun segment hsegment => ?_⟩
  obtain ⟨name, hname, rfl⟩ := List.mem_map.mp hsegment
  exact passable_of_not_points (hplace name (hnames hname)).toList_not_points

theorem fits_under_absolute {name : String} (hname : Path.IsName name) {above : List String}
    {file : String} (hplace : Path.IsPlace (above ++ [file])) :
    fits [.deep true, .segment false (literals false name.toList), .deep true,
      .segment false [.noDots, .many]] ([] :: (above ++ [file]).map String.toList) = true ↔
      name ∈ above := by
  rw [fits_deep]
  constructor
  · rintro ⟨before, rest, hsplit, -, hrest⟩
    obtain ⟨segment, after, rfl, hsegment, hafter⟩ := (fits_segment _ _ _).mp hrest
    obtain rfl := runAll_literals_codes.mp hsegment
    obtain ⟨middle, last, rfl, -, -⟩ := (fits_last _ _ _).mp hafter
    cases before with
    | nil =>
      -- The empty segment at the start of the path is no name.
      exact absurd (List.head_eq_of_cons_eq hsplit).symm (by simpa using hname.nonempty)
    | cons first before =>
      have hnames : above.map String.toList ++ [file.toList] =
          before ++ name.toList :: middle ++ [last] := by
        simpa using List.tail_eq_of_cons_eq hsplit
      have habove := List.append_inj_left' hnames rfl
      have hmem : name.toList ∈ above.map String.toList := by simp [habove]
      obtain ⟨other, hother, hchars⟩ := List.mem_map.mp hmem
      rwa [← String.toList_injective hchars]
  · intro hmem
    obtain ⟨before, after, rfl⟩ := List.append_of_mem hmem
    have hsubset (other : String) (hother : other ∈ before ++ name :: after) :
        other ∈ before ++ name :: after ++ [file] := List.mem_append_left _ hother
    refine ⟨[] :: before.map String.toList, name.toList :: (after.map String.toList ++
      [file.toList]), by simp, ?_, (fits_segment _ _ _).mpr ⟨_, _, rfl, ?_, ?_⟩⟩
    · exact passable_absolute hplace fun other hother => hsubset _ (by simp [hother])
    · exact runAll_literals_codes.mpr rfl
    · refine (fits_last _ _ _).mpr ⟨_, _, rfl, ?_, ?_⟩
      · exact (List.forall_mem_cons.mp (passable_absolute hplace
          fun other hother => hsubset _ (by simp [hother]))).2
      · refine (runAll_noDots _ _).mpr ⟨?_, (runAll_many_literals [] _).mpr List.nil_suffix⟩
        exact (hplace file (List.mem_append_right _ List.mem_cons_self)).toList_not_points

theorem fits_ending_absolute (text : String) {above : List String} {file : String}
    (hplace : Path.IsPlace (above ++ [file])) :
    fits [.deep true, .segment false (.noDots :: .many :: literals false text.toList)]
      ([] :: (above ++ [file]).map String.toList) = true ↔ unitKey text <:+ unitKey file := by
  rw [fits_last, List.map_append, List.map_singleton, ← List.cons_append]
  constructor
  · rintro ⟨before, last, hsplit, -, hlast⟩
    obtain rfl : file.toList = last := List.singleton_inj.mp (List.append_inj_right' hsplit rfl)
    exact (runAll_many_literals _ _).mp ((runAll_noDots _ _).mp hlast).2
  · intro hsuffix
    refine ⟨_, _, rfl, passable_absolute hplace (List.subset_append_left _ _), ?_⟩
    refine (runAll_noDots _ _).mpr ⟨?_, (runAll_many_literals _ _).mpr hsuffix⟩
    exact (hplace file (List.mem_append_right _ List.mem_cons_self)).toList_not_points

theorem not_brace_mem_pattern (exclusion : Anywhere) : '\x7b' ∉ exclusion.pattern.toList := by
  cases exclusion with
  | under name _ hplain =>
    have hname : '\x7b' ∉ name.toList := hplain.not_mem (by decide)
    simp [pattern, hname]
  | ending text _ hplain =>
    have htext : '\x7b' ∉ text.toList := hplain.not_mem (by decide)
    simp [pattern, htext]

/-- A filter matches exactly what the pattern says, among absolute paths of files. -/
theorem matchesPath_absolute_iff (exclusion : Anywhere) {place : List String}
    (hplace : Path.IsPlace place) (hne : place ≠ []) :
    matchesPath exclusion.pattern (Path.absolute place) = true ↔ exclusion.CoversFile place := by
  have hbrace := exclusion.not_brace_mem_pattern
  obtain ⟨above, file, rfl⟩ := place.eq_nil_or_concat'.resolve_left hne
  cases exclusion with
  | under name hname hplain =>
    rw [pattern] at hbrace ⊢
    rw [matchesPath_of_stars (toList_under name) hbrace,
      matchesSimple_absolute (pushSegment_under hname hplain) (by simp) hplace hne]
    rw [filterParts_under hplain, fits_under_absolute hname hplace, CoversFile,
      List.dropLast_concat]
  | ending text htext hplain =>
    rw [pattern] at hbrace ⊢
    rw [matchesPath_of_stars (toList_ending text) hbrace,
      matchesSimple_absolute (pushSegment_ending hplain) (by simp) hplace hne]
    rw [filterParts_ending hplain (by simpa using htext), fits_ending_absolute text hplace,
      CoversFile]
    simp

end Anywhere

end Filtering

end NamedParams.Glob
