import Mathlib.Data.List.Lex
import NamedParams.Text.Units

namespace NamedParams.Text

theorem encode_cons (c : Char) (rest : List Char) :
    encode (c :: rest) = codeUnits c ++ encode rest := rfl

theorem codeUnits_ne_nil (c : Char) : codeUnits c ≠ [] := by
  unfold codeUnits
  split <;> simp

/-- No character's code units are the beginning of another's, because surrogates stand for no
    character of their own. -/
theorem codeUnits_append_inj {c d : Char} {a b : List Nat}
    (hunits : codeUnits c ++ a = codeUnits d ++ b) : c = d ∧ a = b := by
  have hc : c.toNat < 0xD800 ∨ 0xDFFF < c.toNat ∧ c.toNat < 0x110000 := c.valid
  have hd : d.toNat < 0xD800 ∨ 0xDFFF < d.toNat ∧ d.toNat < 0x110000 := d.valid
  rw [← Char.toNat_inj]
  unfold codeUnits at hunits
  by_cases hcsmall : c.toNat < 0x10000
  · rw [if_pos hcsmall] at hunits
    by_cases hdsmall : d.toNat < 0x10000
    · rw [if_pos hdsmall] at hunits
      simpa using hunits
    · rw [if_neg hdsmall] at hunits
      simp only [List.cons_append, List.nil_append, List.cons.injEq] at hunits
      omega
  · rw [if_neg hcsmall] at hunits
    by_cases hdsmall : d.toNat < 0x10000
    · rw [if_pos hdsmall] at hunits
      simp only [List.cons_append, List.nil_append, List.cons.injEq] at hunits
      omega
    · rw [if_neg hdsmall] at hunits
      simp only [List.cons_append, List.nil_append, List.cons.injEq] at hunits
      obtain ⟨hhigh, hlow, hrest⟩ := hunits
      exact ⟨by omega, hrest⟩

/-- Different texts have different code units. -/
theorem encode_injective : Function.Injective encode := by
  intro a
  induction a with
  | nil =>
    intro b hunits
    cases b with
    | nil => rfl
    | cons d rest =>
      have hempty := List.append_eq_nil_iff.mp (hunits.symm.trans rfl)
      exact absurd hempty.1 (codeUnits_ne_nil d)
  | cons c rest ih =>
    intro b hunits
    cases b with
    | nil =>
      have hempty := List.append_eq_nil_iff.mp (hunits.trans rfl)
      exact absurd hempty.1 (codeUnits_ne_nil c)
    | cons d others =>
      rw [encode_cons, encode_cons] at hunits
      obtain ⟨rfl, hrest⟩ := codeUnits_append_inj hunits
      rw [ih hrest]

/-- The code units of a string, by which strings are sorted. -/
def unitKey (text : String) : List ℕ :=
  encode text.toList

theorem unitKey_injective : Function.Injective unitKey := fun _ _ hunits =>
  String.toList_injective (encode_injective hunits)

/-- Strings are compared as the lists of their code units, in lexicographic order. -/
theorem unitsLE_iff {a b : String} : unitsLE a b = true ↔ unitKey a ≤ unitKey b := by
  rw [unitsLE, Bool.not_eq_true', List.lex_eq_false_iff_not_lex]
  simp only [decide_eq_true_eq]
  exact (not_lt : ¬ unitKey b < unitKey a ↔ unitKey a ≤ unitKey b)

end NamedParams.Text
