import Mathlib.Data.List.DropRight
import NamedParams.Text.Blank

namespace NamedParams.Text

/-- White space only, or nothing at all. -/
def IsBlank (text : List Char) : Prop :=
  ∀ c ∈ text, isWhite c = true

-- The instances below are named: search would find one that goes through all characters there are.
instance : DecidablePred IsBlank := fun text =>
  List.decidableBAll (isWhite · = true) text

/-- A text that neither starts nor ends with white space. -/
structure IsTrimmed (text : List Char) : Prop where
  first : ∀ c ∈ text.head?, isWhite c = false
  last : ∀ c ∈ text.getLast?, isWhite c = false

instance : DecidablePred IsTrimmed := fun text =>
  match Option.decidableForallMem text.head?, Option.decidableForallMem text.getLast? with
  | isTrue hfirst, isTrue hlast => isTrue ⟨hfirst, hlast⟩
  | isFalse hfirst, _ => isFalse fun htext => hfirst htext.first
  | _, isFalse hlast => isFalse fun htext => hlast htext.last

theorem trimStart_append {before text : List Char} (hbefore : IsBlank before)
    (hfirst : ∀ c ∈ text.head?, isWhite c = false) :
    trimStart (before ++ text) = text := by
  rw [trimStart, List.dropWhile_append_of_pos hbefore]
  cases text with
  | nil => rfl
  | cons c rest => exact List.dropWhile_cons_of_neg (by simp [hfirst c rfl])

theorem isWhite_of_mem_head?_trimStart {text : List Char} :
    ∀ c ∈ (trimStart text).head?, isWhite c = false := by
  intro c hc
  have hfirst := List.head?_dropWhile_not isWhite text
  rw [trimStart, Option.mem_def] at hc
  rwa [hc] at hfirst

theorem exists_eq_append_trimStart (text : List Char) :
    ∃ before, IsBlank before ∧ text = before ++ trimStart text :=
  ⟨text.takeWhile isWhite, fun _ hc => List.mem_takeWhile_imp hc,
    List.takeWhile_append_dropWhile.symm⟩

/-- The end of a text is trimmed as the start of the reversed one. -/
theorem trimEnd_eq (text : List Char) : trimEnd text = (trimStart text.reverse).reverse := rfl

theorem trimEnd_append {text after : List Char} (hafter : IsBlank after)
    (hlast : ∀ c ∈ text.getLast?, isWhite c = false) :
    trimEnd (text ++ after) = text := by
  have hreversed : trimStart (after.reverse ++ text.reverse) = text.reverse := by
    refine trimStart_append (fun c hc => hafter c (List.mem_reverse.mp hc)) ?_
    rwa [List.head?_reverse]
  rw [trimEnd_eq, List.reverse_append, hreversed, List.reverse_reverse]

theorem exists_eq_trimEnd_append (text : List Char) :
    ∃ after, IsBlank after ∧ text = trimEnd text ++ after := by
  obtain ⟨after, hafter, heq⟩ := exists_eq_append_trimStart text.reverse
  refine ⟨after.reverse, fun c hc => hafter c (List.mem_reverse.mp hc), ?_⟩
  rw [trimEnd_eq, ← List.reverse_append, ← heq, List.reverse_reverse]

/-- What is taken off a text is white space at its ends. -/
theorem exists_eq_append_trim (text : List Char) :
    ∃ before after, IsBlank before ∧ IsBlank after ∧ text = before ++ trim text ++ after := by
  obtain ⟨before, hbefore, hstart⟩ := exists_eq_append_trimStart text
  obtain ⟨after, hafter, hstop⟩ := exists_eq_trimEnd_append (trimStart text)
  exact ⟨before, after, hbefore, hafter, by rw [trim, List.append_assoc, ← hstop, ← hstart]⟩

theorem isTrimmed_trim (text : List Char) : IsTrimmed (trim text) where
  first := by
    intro c hc
    obtain ⟨after, -, hstop⟩ := exists_eq_trimEnd_append (trimStart text)
    have hstart : c ∈ (trim text ++ after).head? := by
      rw [List.head?_append, Option.mem_def.mp hc]
      rfl
    exact isWhite_of_mem_head?_trimStart c (hstop ▸ hstart)
  last := by
    rw [trim, trimEnd_eq, List.getLast?_reverse]
    exact isWhite_of_mem_head?_trimStart

theorem trim_eq_nil_iff {text : List Char} : trim text = [] ↔ IsBlank text := by
  constructor
  · intro hnil
    obtain ⟨before, after, hbefore, hafter, heq⟩ := exists_eq_append_trim text
    rw [heq, hnil, List.append_nil]
    exact List.forall_mem_append.mpr ⟨hbefore, hafter⟩
  · intro hblank
    rw [trim, trimStart, List.dropWhile_eq_nil_iff.mpr hblank]
    rfl

/-- White space around a text is taken off, and nothing else. -/
theorem trim_append {before text after : List Char} (hbefore : IsBlank before)
    (hafter : IsBlank after) (htext : IsTrimmed text) : trim (before ++ text ++ after) = text := by
  by_cases hne : text = []
  · rw [hne, List.append_nil, trim_eq_nil_iff]
    exact List.forall_mem_append.mpr ⟨hbefore, hafter⟩
  · have hfirst : (text ++ after).head? = text.head? := List.head?_append_of_ne_nil _ hne
    rw [trim, List.append_assoc, trimStart_append hbefore (hfirst ▸ htext.first),
      trimEnd_append hafter htext.last]

end NamedParams.Text
