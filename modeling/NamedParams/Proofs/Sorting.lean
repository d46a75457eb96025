namespace NamedParams

theorem nodup_eraseDups {α : Type} [BEq α] [LawfulBEq α] : ∀ list : List α, list.eraseDups.Nodup
  | [] => by
    rw [List.eraseDups_nil]
    exact List.nodup_nil
  | a :: rest => by
    rw [List.eraseDups_cons, List.nodup_cons, List.mem_eraseDups]
    exact ⟨by simp, nodup_eraseDups _⟩
termination_by list => list.length
decreasing_by exact Nat.lt_succ_of_le (List.length_filter_le _ rest)

section mergeSort

variable {α : Type} {le : α → α → Bool}

/-- One more element at the front of a list divides the sorted list into what does not come after
    it and the rest, and stands between the two. -/
theorem mergeSort_cons_parts (trans : ∀ a b c, le a b = true → le b c = true → le a c = true)
    (total : ∀ a b, (le a b || le b a) = true) (a : α) (list : List α) :
    (a :: list).mergeSort le =
        (list.mergeSort le).filter (!le a ·) ++ a :: (list.mergeSort le).filter (le a ·) ∧
      list.mergeSort le =
        (list.mergeSort le).filter (!le a ·) ++ (list.mergeSort le).filter (le a ·) := by
  obtain ⟨before, after, hcons, hlist, hbefore⟩ := List.mergeSort_cons trans total a list
  have hafter : ∀ b ∈ after, le a b = true := by
    have hsorted := List.pairwise_mergeSort trans total (a :: list)
    rw [hcons, List.pairwise_append] at hsorted
    exact fun b hb => List.rel_of_pairwise_cons hsorted.2.1 hb
  have hfront : (list.mergeSort le).filter (!le a ·) = before := by
    have hnone : after.filter (!le a ·) = [] := by
      rw [List.filter_eq_nil_iff]
      intro b hb
      simp [hafter b hb]
    rw [hlist, List.filter_append, List.filter_eq_self.mpr hbefore, hnone, List.append_nil]
  have hback : (list.mergeSort le).filter (le a ·) = after := by
    have hnone : before.filter (le a ·) = [] := by
      rw [List.filter_eq_nil_iff]
      intro b hb
      simpa using hbefore b hb
    rw [hlist, List.filter_append, List.filter_eq_self.mpr hafter, hnone, List.nil_append]
  rw [hfront, hback]
  exact ⟨hcons, hlist⟩

/-- Leaving elements out before or after a list is sorted is the same. -/
theorem filter_mergeSort (trans : ∀ a b c, le a b = true → le b c = true → le a c = true)
    (total : ∀ a b, (le a b || le b a) = true) (p : α → Bool) (list : List α) :
    (list.mergeSort le).filter p = (list.filter p).mergeSort le := by
  induction list with
  | nil => simp
  | cons a rest ih =>
    obtain ⟨hcons, hrest⟩ := mergeSort_cons_parts trans total a rest
    by_cases ha : p a = true
    · obtain ⟨hkept, _⟩ := mergeSort_cons_parts trans total a (rest.filter p)
      rw [List.filter_cons_of_pos ha, hkept, hcons, List.filter_append,
        List.filter_cons_of_pos ha, ← ih]
      simp only [List.filter_filter, Bool.and_comm]
    · rw [List.filter_cons_of_neg ha, ← ih, hcons, List.filter_append,
        List.filter_cons_of_neg ha, ← List.filter_append, ← hrest]

/-- Elements that are left out of a list are left out of the sorted list, and the others keep their
    order. -/
theorem mergeSort_sublist (trans : ∀ a b c, le a b = true → le b c = true → le a c = true)
    (total : ∀ a b, (le a b || le b a) = true) {part list : List α} (hpart : part.Sublist list) :
    (part.mergeSort le).Sublist (list.mergeSort le) := by
  induction hpart with
  | slnil => exact .refl _
  | cons a _ ih =>
    obtain ⟨hcons, hrest⟩ := mergeSort_cons_parts trans total a _
    rw [hcons]
    rw [hrest] at ih
    exact ih.trans ((List.Sublist.refl _).append (List.sublist_cons_self a _))
  | cons_cons a _ ih =>
    rw [(mergeSort_cons_parts trans total a _).1, (mergeSort_cons_parts trans total a _).1]
    apply List.Sublist.append
    · exact ih.filter _
    · exact (ih.filter _).cons_cons a

end mergeSort

end NamedParams
