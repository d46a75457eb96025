import Mathlib.Data.List.Basic

namespace NamedParams.Text

/-- No segment between separators has one in it. -/
theorem not_mem_of_mem_splitOn {separator : Char} {text segment : List Char}
    (hsegment : segment ∈ text.splitOn separator) : separator ∉ segment := by
  induction text generalizing segment with
  | nil => simp_all
  | cons c rest ih =>
    rw [List.splitOn_cons_eq_if_modifyHead] at hsegment
    split at hsegment
    · obtain rfl | hsegment := List.mem_cons.mp hsegment
      · exact List.not_mem_nil
      · exact ih hsegment
    · rename_i hseparator
      cases hrest : rest.splitOn separator with
      | nil => exact absurd hrest (List.splitOn_ne_nil _ _)
      | cons first others =>
        rw [hrest] at hsegment ih
        obtain rfl | hsegment := List.mem_cons.mp hsegment
        · refine List.not_mem_cons_of_ne_of_not_mem ?_ (ih List.mem_cons_self)
          exact fun heq => hseparator (beq_iff_eq.mpr heq.symm)
        · exact ih (List.mem_cons_of_mem _ hsegment)

section Separator

variable {separator : String} {c : Char} (hseparator : separator.toList = [c])
include hseparator

/-- A text is put together again from its segments. -/
theorem intercalate_segments (text : String) :
    separator.intercalate ((text.toList.splitOn c).map String.ofList) = text := by
  rw [← String.toList_inj, String.toList_intercalate, List.map_map, hseparator]
  simp

/-- Texts without separators are the segments of what they are put together to. -/
theorem splitOn_intercalate_texts {texts : List String} (htexts : ∀ text ∈ texts, c ∉ text.toList)
    (hne : texts ≠ []) :
    (separator.intercalate texts).toList.splitOn c = texts.map String.toList := by
  rw [String.toList_intercalate, hseparator]
  refine List.splitOn_intercalate c ?_ (by simpa using hne)
  intro segment hsegment
  obtain ⟨text, htext, rfl⟩ := List.mem_map.mp hsegment
  exact htexts text htext

end Separator

end NamedParams.Text
