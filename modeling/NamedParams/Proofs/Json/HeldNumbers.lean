import Mathlib.Data.Nat.Factorization.Basic
import NamedParams.Proofs.Json.RoundTrip

namespace NamedParams.Number

/-- Without a zero at the end of its digits, a decimal is canonical. -/
theorem Decimal.canonical_eq_self {digits : Nat} (hlast : digits % 10 ≠ 0) (exponent : Int) :
    (Decimal.mk digits exponent).canonical = ⟨digits, exponent⟩ := by
  rw [canonical, stripZeros, if_neg (by omega), if_neg hlast]

/-- The decimal of a whole number, with the zeros at its end as the exponent. -/
theorem exists_ofNat_eq {n : Nat} (hn : n ≠ 0) :
    ∃ digits zeros : Nat, n = digits * 10 ^ zeros ∧ digits % 10 ≠ 0 ∧
      Decimal.ofNat n = ⟨digits, zeros⟩ := by
  obtain ⟨zeros, digits, hlast, rfl⟩ := Nat.exists_eq_pow_mul_and_not_dvd hn 10 (by decide)
  rw [Nat.dvd_iff_mod_eq_zero] at hlast
  have hdigits : digits ≠ 0 := by
    rintro rfl
    contradiction
  refine ⟨digits, zeros, Nat.mul_comm _ _, hlast, ?_⟩
  rw [Decimal.ofNat, Nat.mul_comm, canonical_mul_pow hdigits, Decimal.canonical_eq_self hlast]

theorem canonical_ofNat (n : Nat) : (Decimal.ofNat n).canonical = Decimal.ofNat n := by
  by_cases hn : n = 0
  · rw [hn]
    rfl
  · obtain ⟨digits, zeros, -, hlast, heq⟩ := exists_ofNat_eq hn
    rw [heq, Decimal.canonical_eq_self hlast]

/-- A number with more than 1024 binary digits has no magnitude. -/
theorem nearest?_eq_none {n : Nat} (hlog : 1024 ≤ n.log2) : nearest? n 1 = none := by
  have hpositive : n ≠ 0 := by
    rintro rfl
    contradiction
  have hscaled : scaleBy n 1 (-(n.log2 : Int)) = (n, 2 ^ n.log2) := by
    rw [scaleBy, if_neg (by omega), Int.neg_neg, Int.toNat_natCast, Nat.one_mul]
    rfl
  have hone : ((1 : Nat).log2 : Int) = 0 := rfl
  rw [nearest?, if_neg hpositive]
  simp only [hone, Int.sub_zero, hscaled, if_pos (Nat.log2_self_le hpositive)]
  -- The mantissa may be rounded up to the next power of two, but the exponent only grows.
  split <;> rw [if_pos (by omega)]

/-- Whether a whole number is the shortest form of the binary number that its digits read as. This
    is the form in which documents have their numbers. -/
def IsHeld (n : Nat) : Prop :=
  (Decimal.ofNat n).rounded? = some (Decimal.ofNat n)

instance : DecidablePred IsHeld := fun n =>
  inferInstanceAs (Decidable ((Decimal.ofNat n).rounded? = some (Decimal.ofNat n)))

/-- A mantissa holds all whole numbers up to here. -/
theorem isHeld_of_le {n : Nat} (hn : n ≤ 2 ^ 53) : IsHeld n := by
  rw [IsHeld, Decimal.rounded?, canonical_ofNat]
  refine if_pos ?_
  by_cases hzero : n = 0
  · rw [hzero]
    rfl
  obtain ⟨digits, zeros, hvalue, hlast, heq⟩ := exists_ofNat_eq hzero
  have hzeros : zeros < 16 := by
    rw [← Nat.pow_lt_pow_iff_right (a := 10) (by decide)]
    calc 10 ^ zeros ≤ n := hvalue ▸ Nat.le_mul_of_pos_left _ (by omega)
      _ < 10 ^ 16 := lt_of_le_of_lt hn (by decide)
  have hmantissa : digits * Nat.pow 10 zeros ≤ Nat.pow 2 53 := hvalue ▸ hn
  rw [heq, Decimal.isPlainlyShortest]
  simp only [Int.toNat_natCast, hmantissa, decide_true, Bool.and_true, Bool.or_eq_true,
    Bool.and_eq_true, decide_eq_true_eq]
  omega

/-- Every three decimal digits take at most ten binary ones. -/
theorem log2_mul_pow_lt {digits zeros count : Nat} (hdigits : digits < 10 ^ 15)
    (hcount : 15 + zeros ≤ 3 * count) : (digits * 10 ^ zeros).log2 < 10 * count := by
  by_cases hzero : digits * 10 ^ zeros = 0
  · rw [hzero, Nat.log2_zero]
    omega
  rw [Nat.log2_lt hzero]
  calc digits * 10 ^ zeros < 10 ^ 15 * 10 ^ zeros :=
        Nat.mul_lt_mul_of_pos_right hdigits (Nat.pow_pos (by decide))
    _ ≤ 10 ^ (3 * count) := by
        rw [← Nat.pow_add]
        exact Nat.pow_le_pow_right (by decide) hcount
    _ ≤ 2 ^ (10 * count) := by
        rw [Nat.pow_mul, Nat.pow_mul]
        exact Nat.pow_le_pow_left (by decide) count

/-- A decimal digit in front takes at least three binary ones. -/
theorem le_log2_of_pow_le {n count : Nat} (hn : 10 ^ count ≤ n) : 3 * count ≤ n.log2 := by
  have hpositive : 0 < n := lt_of_lt_of_le (Nat.pow_pos (by decide)) hn
  rw [Nat.le_log2 hpositive.ne', Nat.pow_mul]
  exact le_trans (Nat.pow_le_pow_left (by decide) count) hn

theorem pow_le_mul_pow {digits zeros count : Nat} (hdigits : digits ≠ 0)
    (hcount : count < zeros + (Nat.toDigits 10 digits).length) :
    10 ^ count ≤ digits * 10 ^ zeros := by
  by_cases hzeros : count ≤ zeros
  · calc 10 ^ count ≤ 10 ^ zeros := Nat.pow_le_pow_right (by decide) hzeros
      _ ≤ digits * 10 ^ zeros := Nat.le_mul_of_pos_left _ (Nat.pos_of_ne_zero hdigits)
  · obtain ⟨places, rfl⟩ := Nat.exists_eq_add_of_lt (Nat.lt_of_not_le hzeros)
    have hlong : ¬ (Nat.toDigits 10 digits).length ≤ places + 1 := by omega
    rw [Nat.length_toDigits_le_iff (by decide) (by omega), not_lt] at hlong
    rw [Nat.add_assoc, Nat.add_comm, Nat.pow_add]
    exact Nat.mul_le_mul_right _ hlong

/-- No decimal reads as a number beyond the range. -/
theorem rounded?_eq_none {n : Nat} (hlog : 1024 ≤ n.log2) : (Decimal.ofNat n).rounded? = none := by
  have hpositive : n ≠ 0 := by
    rintro rfl
    contradiction
  obtain ⟨digits, zeros, hvalue, hlast, heq⟩ := exists_ofNat_eq hpositive
  have hplain : (Decimal.ofNat n).isPlainlyShortest = false := by
    have hmantissa : 2 ^ 53 < n := by
      by_contra hsmall
      have hlow := Nat.log2_lt hpositive |>.mpr (show n < 2 ^ 54 by omega)
      omega
    have hplaces : digits < 10 ^ 15 → 290 < zeros := by
      intro hdigits
      by_contra hzeros
      have hlow : (digits * 10 ^ zeros).log2 < 10 * 102 := log2_mul_pow_lt hdigits (by omega)
      rw [← hvalue] at hlow
      omega
    rw [heq, Decimal.isPlainlyShortest, Int.toNat_natCast, Nat.pow_eq, Nat.pow_eq, Nat.pow_eq,
      ← hvalue]
    simp only [Bool.or_eq_false_iff, Bool.and_eq_false_iff, decide_eq_false_iff_not]
    omega
  rw [Decimal.rounded?, canonical_ofNat, hplain, if_neg Bool.false_ne_true, heq, Decimal.nearest?,
    if_pos (Int.natCast_nonneg _), Int.toNat_natCast, Nat.pow_eq, ← hvalue, nearest?_eq_none hlog]
  rfl

end NamedParams.Number

namespace NamedParams.Json

open NamedParams.Number

/-- A whole number is read back as it is exactly when a document can hold it. -/
theorem numberOf_ofNat_iff {n : Nat} :
    numberOf false (Decimal.ofNat n).digits (Decimal.ofNat n).exponent =
      .finite false (Decimal.ofNat n) ↔ IsHeld n := by
  by_cases hzero : n = 0
  · rw [hzero]
    exact iff_of_true rfl (isHeld_of_le (by decide))
  obtain ⟨digits, zeros, hvalue, hlast, heq⟩ := exists_ofNat_eq hzero
  have hdigits : digits ≠ 0 := by omega
  rw [IsHeld, heq, numberOf, if_neg hdigits]
  dsimp only
  split
  · rename_i hlarge
    have hlog : 1024 ≤ n.log2 := by
      have hlow : 10 ^ 400 ≤ digits * 10 ^ zeros := pow_le_mul_pow hdigits (by omega)
      rw [← hvalue] at hlow
      have hdigitsLog := le_log2_of_pow_le hlow
      omega
    rw [← heq, rounded?_eq_none hlog]
    simp
  · rw [if_neg (by omega)]
    cases (Decimal.mk digits zeros).rounded? with
    | none => simp
    | some decimal => simp

theorem toInt_ofNat (n : Nat) : (JsonNumber.finite false (Decimal.ofNat n)).toInt = n := by
  by_cases hzero : n = 0
  · rw [hzero]
    rfl
  obtain ⟨digits, zeros, hvalue, -, heq⟩ := exists_ofNat_eq hzero
  rw [heq, JsonNumber.toInt]
  simp [← hvalue]

theorem reread_ofNat_iff {n : Nat} : (Json.ofNat n).reread = Json.ofNat n ↔ IsHeld n := by
  rw [← numberOf_ofNat_iff]
  simp [Json.ofNat, reread]

end NamedParams.Json
