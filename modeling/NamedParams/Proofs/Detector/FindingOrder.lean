import Mathlib.Data.Prod.Lex
import NamedParams.Finding
import NamedParams.Proofs.Text.UnitOrder

namespace NamedParams.Finding

open NamedParams.Text

/-- What findings are sorted by: the code units of the path, and then the offset. -/
def key (finding : Finding) : List ℕ ×ₗ ℕ :=
  toLex (unitKey finding.filePath, finding.position.offset)

theorem key_eq_iff {a b : Finding} :
    a.key = b.key ↔ a.filePath = b.filePath ∧ a.position.offset = b.position.offset := by
  rw [key, key, toLex_inj, Prod.mk.injEq, unitKey_injective.eq_iff]

theorem le_iff {a b : Finding} : a.le b = true ↔ a.key ≤ b.key := by
  have hkey : a.key ≤ b.key ↔ unitKey a.filePath < unitKey b.filePath ∨
      unitKey a.filePath = unitKey b.filePath ∧ a.position.offset ≤ b.position.offset :=
    Prod.Lex.le_iff
  rw [hkey, unitKey_injective.eq_iff, le]
  by_cases hpath : a.filePath = b.filePath
  · simp only [hpath, if_true, lt_irrefl, true_and, false_or, decide_eq_true_eq]
  · have hunits : unitKey a.filePath ≠ unitKey b.filePath := fun hunits =>
      hpath (unitKey_injective hunits)
    rw [if_neg hpath, unitsLE_iff, hunits.le_iff_lt]
    simp only [hpath, false_and, or_false]

theorem le_trans (a b c : Finding) (hab : a.le b = true) (hbc : b.le c = true) :
    a.le c = true := by
  rw [le_iff] at hab hbc ⊢
  exact hab.trans hbc

theorem le_total (a b : Finding) : (a.le b || b.le a) = true := by
  rw [Bool.or_eq_true, le_iff, le_iff]
  exact LinearOrder.le_total a.key b.key

variable {found others : List Finding}

theorem sorted_keys (found : List Finding) :
    ((found.mergeSort le).map key).Pairwise (· ≤ ·) := by
  rw [List.pairwise_map]
  refine (List.pairwise_mergeSort le_trans le_total found).imp ?_
  intro a b hab
  exact le_iff.mp hab

/-- Findings at different places are in strict order when they have been sorted. -/
theorem sorted_keys_of_nodup (hfound : (found.map key).Nodup) :
    ((found.mergeSort le).map key).Pairwise (· < ·) := by
  have hperm := (List.mergeSort_perm found le).map key
  have hdistinct : ((found.mergeSort le).map key).Pairwise (· ≠ ·) := hperm.nodup_iff.mpr hfound
  refine (hdistinct.and (sorted_keys found)).imp ?_
  rintro a b ⟨hne, hle⟩
  exact lt_of_le_of_ne hle hne

/-- There is only one order to put findings in, when only equal ones are at one place. -/
theorem eq_of_perm_of_sorted (hfound : found.Pairwise fun a b => a.le b = true)
    (hothers : others.Pairwise fun a b => a.le b = true) (hperm : found.Perm others)
    (hkeys : ∀ a ∈ found, ∀ b ∈ found, a.key = b.key → a = b) : found = others := by
  refine List.Perm.eq_of_pairwise ?_ hfound hothers hperm
  intro a b ha hb hab hba
  exact hkeys a ha b (hperm.mem_iff.mpr hb) (le_antisymm (le_iff.mp hab) (le_iff.mp hba))

/-- Sorting forgets the order in which findings came. -/
theorem mergeSort_eq_of_perm (hperm : found.Perm others)
    (hkeys : ∀ a ∈ found, ∀ b ∈ found, a.key = b.key → a = b) :
    found.mergeSort le = others.mergeSort le := by
  refine eq_of_perm_of_sorted (List.pairwise_mergeSort le_trans le_total found)
    (List.pairwise_mergeSort le_trans le_total others) ?_ ?_
  · exact (List.mergeSort_perm found le).trans (hperm.trans (List.mergeSort_perm others le).symm)
  · intro a ha b hb
    exact hkeys a (List.mem_mergeSort.mp ha) b (List.mem_mergeSort.mp hb)

/-- To sort the findings of two lists is to merge the sorted lists. -/
theorem mergeSort_append (hkeys : ∀ a ∈ found ++ others, ∀ b ∈ found ++ others,
    a.key = b.key → a = b) :
    (found ++ others).mergeSort le = (found.mergeSort le).merge (others.mergeSort le) le := by
  refine eq_of_perm_of_sorted (List.pairwise_mergeSort le_trans le_total _)
    (List.pairwise_merge le_trans le_total _ _ (List.pairwise_mergeSort le_trans le_total found)
      (List.pairwise_mergeSort le_trans le_total others)) ?_ ?_
  · refine (List.mergeSort_perm _ le).trans (List.Perm.trans ?_ (List.merge_perm_append le).symm)
    exact ((List.mergeSort_perm found le).append (List.mergeSort_perm others le)).symm
  · intro a ha b hb
    exact hkeys a (List.mem_mergeSort.mp ha) b (List.mem_mergeSort.mp hb)

end NamedParams.Finding
