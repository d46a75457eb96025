import Mathlib.Data.List.TakeWhile
import NamedParams.Glob.Filter
import NamedParams.Glob.Search
import NamedParams.Proofs.Text.UnitOrder

namespace NamedParams.Glob

open NamedParams.Text

/-- The characters that patterns give a meaning to. -/
def signs : List Char := "/\\*?[](){}|!+@".toList

/-- A text that stands for itself in every pattern. -/
def IsPlain (text : List Char) : Prop :=
  ∀ c ∈ text, c ∉ signs

instance : DecidablePred IsPlain := fun text => List.decidableBAll (· ∉ signs) text

theorem IsPlain.tail {c : Char} {rest : List Char} (hplain : IsPlain (c :: rest)) : IsPlain rest :=
  fun other hother => hplain other (List.mem_cons_of_mem _ hother)

theorem IsPlain.not_mem {text : List Char} (hplain : IsPlain text) {sign : Char}
    (hsign : sign ∈ signs) : sign ∉ text :=
  fun hmem => hplain sign hmem hsign

theorem IsPlain.head_ne {c : Char} {rest : List Char} (hplain : IsPlain (c :: rest)) {sign : Char}
    (hsign : sign ∈ signs) : c ≠ sign :=
  fun heq => hplain.not_mem hsign (heq ▸ List.mem_cons_self)

theorem IsPlain.ne_cons {text : List Char} (hplain : IsPlain text) {sign : Char}
    (hsign : sign ∈ signs) (rest : List Char) : text ≠ sign :: rest := by
  rintro rfl
  exact hplain.head_ne hsign rfl

section Alternatives

theorem expandBraces_eq_singleton (keepBackslashes : Bool) {pattern : List Char}
    (hpattern : '\x7b' ∉ pattern) : expandBraces keepBackslashes pattern = [pattern] := by
  have hdrop : pattern.dropWhile (· != '\x7b') = [] := by
    refine List.dropWhile_eq_nil_iff.mpr fun c hc => bne_iff_ne.mpr ?_
    rintro rfl
    exact hpattern hc
  rw [expandBraces, hasBraces, hdrop]
  rfl

/-- Only the first segment may be empty. -/
theorem singleSlashes_eq_self {text : List Char}
    (hsegments : ∀ segment ∈ (text.splitOn '/').tail, segment ≠ []) :
    singleSlashes text = text := by
  induction text using singleSlashes.induct with
  | case1 rest ih => simp [List.splitOn_cons_eq_if_modifyHead] at hsegments
  | case2 c rest hslashes ih =>
    rw [singleSlashes, ih]
    · intro segment hsegment
      refine hsegments segment ?_
      rw [List.splitOn_cons_eq_if_modifyHead]
      split
      · exact List.mem_of_mem_tail hsegment
      · rwa [List.tail_modifyHead]
    · exact hslashes
  | case3 => rfl

theorem cleanPattern_eq_self {text : List Char}
    (hsegments : ∀ segment ∈ text.splitOn '/', segment ≠ []) : cleanPattern text = text := by
  cases text with
  | nil => rfl
  | cons c rest =>
    rw [List.splitOn_cons_eq_if_modifyHead] at hsegments
    split at hsegments
    · exact absurd rfl (hsegments [] List.mem_cons_self)
    · rw [cleanPattern, singleSlashes_eq_self]
      intro segment hsegment
      refine hsegments segment (List.mem_of_mem_tail ?_)
      rwa [List.tail_modifyHead]

theorem searchAlternatives_eq_singleton {pattern : String}
    (hbrace : '\x7b' ∉ pattern.toList)
    (hsegments : ∀ segment ∈ pattern.toList.splitOn '/', segment ≠ []) :
    searchAlternatives pattern = [pattern.toList] := by
  have hne : pattern.toList ≠ [] := fun hnil => by simp [hnil] at hsegments
  rw [searchAlternatives, expandBraces_eq_singleton true hbrace, List.filter_cons_of_pos,
    List.filter_nil, List.map_singleton, cleanPattern_eq_self hsegments]
  simpa using hne

end Alternatives

section Reading

theorem literals_cons (wide : Bool) (c : Char) (rest : List Char) :
    literals wide (c :: rest) = literals wide [c] ++ literals wide rest := by
  cases wide <;> simp [literals, codes, encode]

theorem className?_eq_none {c : Char} {rest : List Char} (hc : c ≠ '[') :
    className? (c :: rest) = none := by
  rw [className?, List.findSome?_eq_none_iff]
  rintro ⟨name, found⟩ _
  simp [String.toList_append, Ne.symm hc]

theorem namesScripts_eq_false {text : List Char} (htext : '[' ∉ text) :
    namesScripts text = false := by
  induction text with
  | nil => rfl
  | cons c rest ih =>
    rw [List.mem_cons, not_or] at htext
    rw [namesScripts, className?_eq_none (Ne.symm htext.1), ih htext.2]
    rfl

/-- A plain text is read as literals, behind whatever has been read before. -/
theorem readPieces_plain (purpose : Purpose) (wide : Bool) (done : List (List Piece)) :
    ∀ (text : List Char) (fuel : Nat) (pieces : List Piece), IsPlain text → text.length < fuel →
      readPieces purpose wide fuel false done pieces text =
        some (done ++ [pieces ++ literals wide text], [])
  | [], fuel + 1, pieces, _, _ => by
    simp [readPieces, literals, codes, encode]
  | c :: rest, fuel + 1, pieces, hplain, hfuel => by
    have ih := readPieces_plain purpose wide done rest fuel (pieces ++ literals wide [c])
      hplain.tail (by simpa using hfuel)
    rw [readPieces]
    · dsimp only
      have hstar : c ≠ '*' := hplain.head_ne (by decide)
      have hmark : c ≠ '?' := hplain.head_ne (by decide)
      rw [if_neg (by simpa using hstar), if_neg (by simpa using hmark), ih, List.append_assoc,
        ← literals_cons]
    -- None of the signs that mean something to a reader stands here.
    · exact fun _ _ hsign _ => hplain.head_ne (by decide) hsign
    · exact hplain.head_ne (by decide)
    · exact hplain.head_ne (by decide)
    · exact hplain.head_ne (by decide)
    · exact hplain.head_ne (by decide)
    · exact hplain.tail.ne_cons (by decide)

theorem guarded_literals (purpose : Purpose) (hidden : Bool) (units : List Nat) :
    guarded purpose hidden (units.map .literal) = units.map .literal := by
  have hnone (others : List Nat) : (others.map Piece.literal).head?.any isWildcard = false := by
    cases others <;> rfl
  match purpose, units with
  | .search _, [] => rfl
  | .filter, [] => rfl
  | .search _, _ :: _ => rfl
  | .filter, code :: rest =>
    rw [List.map_cons, guarded]
    · rw [if_neg]
      rw [Bool.not_eq_true]
      split
      · exact hnone (code :: rest)
      · split
        · rw [← List.map_tail]
          exact hnone _
        · exact hnone rest
    · intro hmany
      cases hmany

theorem fillStars_literals (alone : Bool) (units : List Nat) :
    fillStars alone (units.map .literal) = units.map .literal := by
  induction units generalizing alone with
  | nil => rfl
  | cons code rest ih => exact congrArg (Piece.literal code :: ·) (ih false)

/-- A segment without signs is compared as it stands. -/
theorem readSegment_plain (purpose : Purpose) (hidden : Bool) {text : List Char}
    (hplain : IsPlain text) :
    readSegment purpose hidden text = .segment false (literals false text) := by
  have hnarrow : namesScripts text = false := namesScripts_eq_false (hplain.not_mem (by decide))
  have hverbatim (wide : Bool) : verbatimTail? purpose wide text = none := by
    cases text with
    | nil => simp [verbatimTail?]
    | cons c rest =>
      have hstar : c ≠ '*' := hplain.head_ne (by decide)
      have hmark : c ≠ '?' := hplain.head_ne (by decide)
      simp [verbatimTail?, hstar, hmark]
  rw [readSegment, hnarrow, Bool.and_false, hverbatim]
  dsimp only
  rw [readPieces_plain purpose false [] text _ [] hplain (Nat.lt_succ_self _)]
  dsimp only [List.nil_append]
  rw [literals, fillStars_literals, ite_self]
  exact congrArg _ (guarded_literals purpose hidden _)

theorem literals_ne_nil {text : List Char} (htext : text ≠ []) : literals false text ≠ [] := by
  cases text with
  | nil => contradiction
  | cons c rest =>
    intro hnil
    exact codeUnits_ne_nil c (List.append_eq_nil_iff.mp (List.map_eq_nil_iff.mp hnil)).1

/-- A search reads a star in front of a text without signs as any text that is not empty, other
    than the names of points. -/
theorem readSegment_star_search (last hidden : Bool) {text : List Char} (hplain : IsPlain text) :
    readSegment (.search last) hidden ('*' :: text) = .segment false
      ((if hidden then .noDots else .visible) :: .nonEmpty :: .many :: literals false text) := by
  have hpieces := readPieces_plain (.search last) false [] text (text.length + 1) [.many] hplain
    (Nat.lt_succ_self _)
  have hstar : readPieces (.search last) false (('*' :: text).length + 1) false [] []
      ('*' :: text) = readPieces (.search last) false (text.length + 1) false [] [.many] text := by
    rw [List.length_cons, readPieces]
    · rfl
    · intro _ _ hsign
      simp at hsign
    · simp
    · simp
    · simp
    · simp
    · exact hplain.ne_cons (by decide)
  have hsearch : (Purpose.search last == Purpose.filter) = false := by cases last <;> rfl
  rw [readSegment, verbatimTail?, hsearch]
  simp only [Bool.false_and, Bool.false_eq_true, if_false, Option.orElse_none]
  rw [hstar, hpieces]
  rw [List.nil_append, List.singleton_append]
  congr 1
  cases hunits : literals false text <;> rfl

/-- A filter keeps the names of points off a star in front of a text without signs. -/
theorem readSegment_star_filter {text : List Char} (hplain : IsPlain text) (htext : text ≠ []) :
    readSegment .filter true ('*' :: text) =
      .segment false (.noDots :: .many :: literals false text) := by
  obtain ⟨c, rest, rfl⟩ := List.exists_cons_of_ne_nil htext
  have hnarrow : namesScripts ('*' :: c :: rest) = false :=
    namesScripts_eq_false (List.not_mem_cons_of_ne_of_not_mem (by decide)
      (hplain.not_mem (by decide)))
  have htail : ('*' :: c :: rest).dropWhile (· == '*') = c :: rest := by
    rw [List.dropWhile_cons_of_pos rfl, List.dropWhile_cons_of_neg]
    simpa using hplain.head_ne (by decide)
  have hunsigned : (c :: rest).any "+@!?*[(".toList.contains = false := by
    rw [List.any_eq_false]
    intro other hother hsign
    have hsubset : "+@!?*[(".toList ⊆ signs := by decide
    exact hplain other hother (hsubset (by simpa using hsign))
  rw [readSegment, hnarrow, Bool.and_false, verbatimTail?]
  dsimp only
  rw [htail, hunsigned]
  change Part.segment false (guarded .filter true (.many :: literals false (c :: rest))) = _
  cases hunits : literals false (c :: rest) with
  | nil => exact absurd hunits (literals_ne_nil htext)
  | cons => rfl

end Reading

section Running

theorem runAll_literals (units : List Nat) (next : List Nat → Bool) (text : List Nat) :
    runAll (units.map .literal) next text = true ↔
      ∃ rest, text = units ++ rest ∧ next rest = true := by
  induction units generalizing text with
  | nil => simp [runAll]
  | cons code units ih =>
    cases text with
    | nil => simp [runAll, Piece.run]
    | cons first text => simp [runAll, Piece.run, ih, and_assoc]

/-- Literals fit the segment that they spell. -/
theorem runAll_literals_codes {text segment : List Char} :
    runAll (literals false text) List.isEmpty (codes false segment) = true ↔ segment = text := by
  rw [literals, runAll_literals]
  constructor
  · rintro ⟨rest, hcodes, hrest⟩
    rw [List.isEmpty_iff.mp hrest, List.append_nil] at hcodes
    exact encode_injective hcodes
  · rintro rfl
    exact ⟨[], (List.append_nil _).symm, rfl⟩

theorem anySuffix_iff (next : List Nat → Bool) (text : List Nat) :
    anySuffix next text = true ↔ ∃ before after, text = before ++ after ∧ next after = true := by
  induction text with
  | nil => simp [anySuffix]
  | cons code rest ih =>
    rw [anySuffix, Bool.or_eq_true, ih]
    constructor
    · rintro (hnext | ⟨before, after, rfl, hnext⟩)
      · exact ⟨[], _, rfl, hnext⟩
      · exact ⟨code :: before, after, rfl, hnext⟩
    · rintro ⟨before, after, hsplit, hnext⟩
      cases before with
      | nil => exact .inl (by rwa [hsplit])
      | cons first before =>
        obtain ⟨rfl, rfl⟩ := List.cons_eq_cons.mp hsplit
        exact .inr ⟨before, after, rfl, hnext⟩

end Running

end NamedParams.Glob
