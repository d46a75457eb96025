import Mathlib.Algebra.Order.Field.Power
import Mathlib.Data.Rat.Cast.Order
import Mathlib.Tactic.Linarith
import Mathlib.Tactic.Positivity
import Mathlib.Tactic.Ring
import NamedParams.Number.Nearest

namespace NamedParams.Number

/-- The mantissa and the exponent of a double represent a number. -/
structure Represents (mantissa exponent : ℤ) (x : ℚ) : Prop where
  value : x = mantissa * 2 ^ exponent
  digits : |mantissa| < 2 ^ 53
  least : leastExponent ≤ exponent
  greatest : exponent ≤ 971

/-- A finite number that a double can be. -/
def IsDouble (x : ℚ) : Prop :=
  ∃ mantissa exponent, Represents mantissa exponent x

/-- Whether the mantissa of a double is even, if it uses as many of its digits as it can. -/
def HasEvenMantissa (x : ℚ) : Prop :=
  ∃ mantissa exponent, Represents mantissa exponent x ∧
    (2 ^ 52 ≤ |mantissa| ∨ exponent = leastExponent) ∧ Even mantissa

/-- A double is nearest to a number if no other one is nearer, and it is even if another one is as
    near. -/
structure IsNearestDouble (v x : ℚ) : Prop where
  isDouble : IsDouble x
  nearest : ∀ y, IsDouble y → |v - x| ≤ |v - y|
  even : ∀ y, IsDouble y → y ≠ x → |v - y| = |v - x| → HasEvenMantissa x

/-- The quotient is off by half a divisor at most, and even if it is off by exactly that. -/
theorem divNearest_near (a : Nat) {b : Nat} (hb : 0 < b) :
    2 * a ≤ 2 * (divNearest a b * b) + b ∧ 2 * (divNearest a b * b) ≤ 2 * a + b ∧
      (2 * a = 2 * (divNearest a b * b) + b ∨ 2 * (divNearest a b * b) = 2 * a + b →
        divNearest a b % 2 = 0) := by
  have hdivision : a / b * b + a % b = a := Nat.div_add_mod' a b
  have hmod := Nat.mod_lt a hb
  have hnext : (a / b + 1) * b = a / b * b + b := Nat.succ_mul _ _
  rw [divNearest]
  simp only [Bool.or_eq_true, Bool.and_eq_true, decide_eq_true_eq, beq_iff_eq]
  split
  · rw [hnext]
    omega
  · omega

/-- How many binary digits of a number are rounded off. -/
def roundedOff (n : Nat) : Nat :=
  n.log2 + 1 - 53

theorem roundNat_eq (n : Nat) :
    roundNat n = divNearest n (2 ^ roundedOff n) * 2 ^ roundedOff n := rfl

theorem lt_of_roundedOff (n : Nat) : n < 2 ^ 53 * 2 ^ roundedOff n := by
  rw [← Nat.pow_add]
  refine lt_of_lt_of_le Nat.lt_log2_self (Nat.pow_le_pow_right (by decide) ?_)
  rw [roundedOff]
  omega

theorem le_of_roundedOff {n : Nat} (hlong : roundedOff n ≠ 0) : 2 ^ 52 * 2 ^ roundedOff n ≤ n := by
  have hn : n ≠ 0 := by
    rintro rfl
    contradiction
  rw [← Nat.pow_add]
  refine le_trans (Nat.pow_le_pow_right (by decide) ?_) (Nat.log2_self_le hn)
  rw [roundedOff] at hlong ⊢
  omega

/-- Short numbers stay as they are. -/
theorem roundNat_of_roundedOff {n : Nat} (hshort : roundedOff n = 0) : roundNat n = n := by
  have hnear := divNearest_near n (b := 2 ^ roundedOff n) (by positivity)
  rw [← roundNat_eq, hshort] at hnear
  omega

/-- What is rounded off is half of the last digit that is kept, at most. -/
theorem abs_sub_roundNat_le_half (n : Nat) :
    |(n : ℚ) - roundNat n| ≤ 2 ^ roundedOff n / 2 := by
  obtain ⟨hbelow, habove, -⟩ := divNearest_near n (b := 2 ^ roundedOff n) (by positivity)
  rw [← roundNat_eq] at hbelow habove
  have hlow : 2 * (n : ℚ) ≤ 2 * roundNat n + 2 ^ roundedOff n := by exact_mod_cast hbelow
  have hhigh : 2 * (roundNat n : ℚ) ≤ 2 * n + 2 ^ roundedOff n := by exact_mod_cast habove
  rw [abs_le]
  constructor <;> linarith

/-- The digits that are kept. There are 53 of them if any are rounded off, and they are even if the
    number was halfway between two. -/
theorem exists_roundNat_eq (n : Nat) :
    ∃ digits, roundNat n = digits * 2 ^ roundedOff n ∧ digits ≤ 2 ^ 53 ∧
      (roundedOff n ≠ 0 → 2 ^ 52 ≤ digits) ∧
      (|(n : ℚ) - roundNat n| = 2 ^ roundedOff n / 2 → digits % 2 = 0) := by
  have hstep : 0 < 2 ^ roundedOff n := by positivity
  obtain ⟨hbelow, habove, heven⟩ := divNearest_near n hstep
  refine ⟨divNearest n (2 ^ roundedOff n), rfl, ?_, ?_, ?_⟩
  · by_contra hlarge
    have hmore := Nat.mul_le_mul_right (2 ^ roundedOff n) (Nat.lt_of_not_le hlarge)
    have hbound := lt_of_roundedOff n
    rw [Nat.succ_mul] at hmore
    omega
  · intro hlong
    by_contra hsmall
    have hless := Nat.mul_le_mul_right (2 ^ roundedOff n) (Nat.lt_of_not_le hsmall)
    have hbound := le_of_roundedOff hlong
    rw [Nat.succ_mul] at hless
    omega
  · intro htie
    refine heven ?_
    rw [← roundNat_eq]
    obtain hover | hunder := (abs_eq (by positivity)).mp htie
    · left
      have hcast : 2 * (n : ℚ) = 2 * roundNat n + 2 ^ roundedOff n := by linarith
      exact_mod_cast hcast
    · right
      have hcast : 2 * (roundNat n : ℚ) = 2 * n + 2 ^ roundedOff n := by linarith
      exact_mod_cast hcast

/-- No number is near to two multiples. -/
theorem le_abs_sub_add_abs_sub {v step : ℚ} (hstep : 0 < step) {i j : ℤ} (hne : i ≠ j) :
    step ≤ |v - i * step| + |v - j * step| := by
  have hone : (1 : ℚ) ≤ |(i : ℚ) - j| := by
    exact_mod_cast Int.one_le_abs (sub_ne_zero.mpr hne)
  calc step ≤ |(i : ℚ) - j| * step := le_mul_of_one_le_left hstep.le hone
    _ = |i * step - j * step| := by rw [← sub_mul, abs_mul, abs_of_pos hstep]
    _ ≤ |i * step - v| + |v - j * step| := abs_sub_le _ _ _
    _ = |v - i * step| + |v - j * step| := by rw [abs_sub_comm]

/-- Two multiples that are half a step away from a number are next to each other. -/
theorem eq_add_one_or_add_one_eq {v step : ℚ} (hstep : 0 < step) {i j : ℤ} (hne : i ≠ j)
    (hi : |v - i * step| = step / 2) (hj : |v - j * step| = step / 2) : i = j + 1 ∨ i + 1 = j := by
  have hcancel : ∀ {a b : ℤ}, (a : ℚ) * step = b * step → a = b := fun hab => by
    exact_mod_cast mul_right_cancel₀ hstep.ne' hab
  obtain hi | hi := (abs_eq (by positivity)).mp hi <;>
    obtain hj | hj := (abs_eq (by positivity)).mp hj
  · exact absurd (hcancel (by linarith)) hne
  · right
    apply hcancel
    push_cast
    linarith
  · left
    apply hcancel
    push_cast
    linarith
  · exact absurd (hcancel (by linarith)) hne

/-- A number with a mantissa of 53 digits is a multiple of any power of two, unless it lies below
    those multiples that need all of the digits. -/
theorem exists_eq_mul_pow_or_lt (count : Nat) {mantissa : ℤ} (exponent : ℤ)
    (hmantissa : |mantissa| < 2 ^ 53) :
    (∃ i : ℤ, (mantissa : ℚ) * 2 ^ exponent = i * 2 ^ count) ∨
      (mantissa : ℚ) * 2 ^ exponent < 2 ^ 52 * 2 ^ count := by
  by_cases hexponent : (count : ℤ) ≤ exponent
  · obtain ⟨zeros, hzeros⟩ := Int.le.dest hexponent
    left
    refine ⟨mantissa * 2 ^ zeros, ?_⟩
    rw [← hzeros, zpow_add₀ two_ne_zero, zpow_natCast, zpow_natCast]
    push_cast
    ring
  · have hbound : (mantissa : ℚ) < 2 ^ 53 := by exact_mod_cast (abs_lt.mp hmantissa).2
    right
    calc (mantissa : ℚ) * 2 ^ exponent < 2 ^ 53 * 2 ^ exponent := by gcongr
      _ = 2 ^ 52 * 2 ^ (exponent + 1) := by
        rw [zpow_add₀ two_ne_zero, zpow_one]
        ring
      _ ≤ 2 ^ 52 * 2 ^ (count : ℤ) := by
        gcongr
        · norm_num
        · omega
      _ = 2 ^ 52 * 2 ^ count := by rw [zpow_natCast]

section Nearest

variable (n : Nat) {mantissa : ℤ} (exponent : ℤ) (hmantissa : |mantissa| < 2 ^ 53)

/-- Of the multiples of the last digit that is kept, none is nearer than the rounded number. -/
theorem abs_sub_roundNat_le_multiple (i : ℤ) :
    |(n : ℚ) - roundNat n| ≤ |(n : ℚ) - i * 2 ^ roundedOff n| := by
  have hhalf := abs_sub_roundNat_le_half n
  obtain ⟨digits, hdigits, -⟩ := exists_roundNat_eq n
  have hvalue : (roundNat n : ℚ) = (digits : ℤ) * 2 ^ roundedOff n := by exact_mod_cast hdigits
  by_cases heq : i = digits
  · rw [heq, hvalue]
  · have hstep : (0 : ℚ) < 2 ^ roundedOff n := by positivity
    have hfar := le_abs_sub_add_abs_sub (v := n) hstep heq
    rw [← hvalue] at hfar
    linarith

include hmantissa

/-- What is no multiple of the last digit that is kept lies below all numbers with as many digits,
    and so it is farther away. -/
theorem lt_or_exists_multiple (hlong : roundedOff n ≠ 0) :
    |(n : ℚ) - roundNat n| < |(n : ℚ) - mantissa * 2 ^ exponent| ∨
      ∃ i : ℤ, (mantissa : ℚ) * 2 ^ exponent = i * 2 ^ roundedOff n := by
  obtain hmultiple | hlt := exists_eq_mul_pow_or_lt (roundedOff n) exponent hmantissa
  · exact .inr hmultiple
  · left
    have hle : (2 : ℚ) ^ 52 * 2 ^ roundedOff n ≤ n := by exact_mod_cast le_of_roundedOff hlong
    have hnear := abs_sub_roundNat_le_multiple n (2 ^ 52)
    rw [Int.cast_pow, Int.cast_ofNat, abs_of_nonneg (sub_nonneg.mpr hle)] at hnear
    rw [abs_of_nonneg (sub_nonneg.mpr (hlt.le.trans hle))]
    linarith

/-- Of the numbers with 53 digits, none is nearer than the rounded one. -/
theorem abs_sub_roundNat_le : |(n : ℚ) - roundNat n| ≤ |(n : ℚ) - mantissa * 2 ^ exponent| := by
  by_cases hshort : roundedOff n = 0
  · rw [roundNat_of_roundedOff hshort, sub_self, abs_zero]
    exact abs_nonneg _
  · obtain hlt | ⟨i, hi⟩ := lt_or_exists_multiple n exponent hmantissa hshort
    · exact hlt.le
    · rw [hi]
      exact abs_sub_roundNat_le_multiple n i

/-- If another one is as near, the number is halfway between two multiples of the last digit that
    is kept. The other one is the odd multiple. -/
theorem tie_roundNat (hne : (mantissa : ℚ) * 2 ^ exponent ≠ roundNat n)
    (htie : |(n : ℚ) - mantissa * 2 ^ exponent| = |(n : ℚ) - roundNat n|) :
    roundedOff n ≠ 0 ∧ |(n : ℚ) - roundNat n| = 2 ^ roundedOff n / 2 ∧
      ∃ i : ℤ, (mantissa : ℚ) * 2 ^ exponent = i * 2 ^ roundedOff n ∧ Odd i ∧ 2 ^ 52 ≤ i := by
  have hlong : roundedOff n ≠ 0 := by
    intro hshort
    rw [roundNat_of_roundedOff hshort, sub_self, abs_zero, abs_eq_zero, sub_eq_zero] at htie
    rw [roundNat_of_roundedOff hshort] at hne
    exact hne htie.symm
  obtain hlt | ⟨i, hi⟩ := lt_or_exists_multiple n exponent hmantissa hlong
  · exact absurd htie hlt.ne'
  have hstep : (0 : ℚ) < 2 ^ roundedOff n := by positivity
  have hhalf := abs_sub_roundNat_le_half n
  obtain ⟨digits, hdigits, -, -, heven⟩ := exists_roundNat_eq n
  have hvalue : (roundNat n : ℚ) = (digits : ℤ) * 2 ^ roundedOff n := by exact_mod_cast hdigits
  rw [hi] at hne htie
  have hother : i ≠ digits := by
    rintro rfl
    exact hne hvalue.symm
  have hfar := le_abs_sub_add_abs_sub (v := n) hstep hother
  rw [← hvalue, htie] at hfar
  have hexact : |(n : ℚ) - roundNat n| = 2 ^ roundedOff n / 2 := by linarith
  refine ⟨hlong, hexact, i, hi, ?_, ?_⟩
  · have hnext := eq_add_one_or_add_one_eq hstep hother (htie.trans hexact) (hvalue ▸ hexact)
    have hdigitsEven := heven hexact
    rw [Int.odd_iff]
    omega
  · have hle : (2 : ℚ) ^ 52 * 2 ^ roundedOff n ≤ n := by exact_mod_cast le_of_roundedOff hlong
    have hbelow := (abs_le.mp (htie.trans hexact).le).2
    by_contra hsmall
    have hless : (i : ℚ) ≤ 2 ^ 52 - 1 := by exact_mod_cast Int.le_sub_one_of_lt (not_le.mp hsmall)
    have hmultiple := mul_le_mul_of_nonneg_right hless hstep.le
    linarith

end Nearest

/-- The rounded number with a mantissa of 53 digits. If all of them had to be carried over, there is
    one zero more behind them. -/
theorem exists_mantissa_roundNat (n : Nat) :
    ∃ mantissa exponent, roundNat n = mantissa * 2 ^ exponent ∧ mantissa < 2 ^ 53 ∧
      (roundedOff n = 0 → exponent = 0) ∧
      (roundedOff n ≠ 0 → 2 ^ 52 ≤ mantissa ∧
        (|(n : ℚ) - roundNat n| = 2 ^ roundedOff n / 2 → mantissa % 2 = 0)) := by
  obtain ⟨digits, hdigits, hmost, hleast, heven⟩ := exists_roundNat_eq n
  by_cases hcarry : digits = 2 ^ 53
  · refine ⟨2 ^ 52, roundedOff n + 1, ?_, by decide, ?_, fun _ => ⟨le_rfl, fun _ => by decide⟩⟩
    · rw [hdigits, hcarry, Nat.pow_succ _ (roundedOff n)]
      omega
    · intro hshort
      have hbound := lt_of_roundedOff n
      rw [roundNat_of_roundedOff hshort, hcarry] at hdigits
      omega
  · exact ⟨digits, roundedOff n, hdigits, by omega, id, fun hlong => ⟨hleast hlong, heven⟩⟩

/-- A rounded number in the range is a double. -/
theorem represents_roundNat {n mantissa exponent : Nat}
    (hvalue : roundNat n = mantissa * 2 ^ exponent) (hmantissa : mantissa < 2 ^ 53)
    (hexponent : exponent = 0 ∨ 2 ^ 52 ≤ mantissa) (hrange : roundNat n < overflowBound) :
    Represents mantissa exponent (roundNat n) := by
  refine ⟨by exact_mod_cast hvalue, by exact_mod_cast hmantissa, ?_, ?_⟩
  · rw [leastExponent]
    omega
  · obtain rfl | hfull := hexponent
    · decide
    · by_contra hlarge
      have hover : overflowBound ≤ mantissa * 2 ^ exponent :=
        calc overflowBound = 2 ^ 52 * 2 ^ 972 := by decide +kernel
          _ ≤ mantissa * 2 ^ exponent :=
            Nat.mul_le_mul hfull (Nat.pow_le_pow_right (by decide) (by omega))
      rw [hvalue] at hrange
      exact hover.not_gt hrange

/-- Rounding keeps every number that has 53 digits apart from zeros at the end. -/
theorem roundNat_eq_self {mantissa : Nat} (hmantissa : mantissa < 2 ^ 53) (exponent : Nat) :
    roundNat (mantissa * 2 ^ exponent) = mantissa * 2 ^ exponent := by
  have hdigits : |(mantissa : ℤ)| < 2 ^ 53 := by exact_mod_cast hmantissa
  have hnear := abs_sub_roundNat_le (mantissa * 2 ^ exponent) exponent hdigits
  push_cast at hnear
  rw [zpow_natCast, sub_self, abs_zero] at hnear
  have heq := sub_eq_zero.mp (abs_nonpos_iff.mp hnear)
  exact_mod_cast heq.symm

/-- What a mantissa holds without an exponent. -/
theorem roundNat_of_le {n : Nat} (hn : n ≤ 2 ^ 53) : roundNat n = n := by
  obtain hlt | rfl := Nat.lt_or_eq_of_le hn
  · have hself := roundNat_eq_self hlt 0
    rwa [Nat.pow_zero, Nat.mul_one] at hself
  · exact roundNat_eq_self (show 2 ^ 52 < 2 ^ 53 by decide) 1

theorem abs_sub_roundNat_le_roundNat (a b : Nat) :
    |(a : ℚ) - roundNat a| ≤ |(a : ℚ) - roundNat b| := by
  obtain ⟨mantissa, exponent, hvalue, hmantissa, -⟩ := exists_mantissa_roundNat b
  have hdigits : |(mantissa : ℤ)| < 2 ^ 53 := by exact_mod_cast hmantissa
  have hnear := abs_sub_roundNat_le a exponent hdigits
  rw [zpow_natCast] at hnear
  rw [hvalue]
  exact_mod_cast hnear

/-- Two numbers whose rounded ones were the other way round would each be nearer to the rounded one
    of the other. -/
theorem roundNat_mono : Monotone roundNat := by
  intro a b hab
  obtain rfl | hlt := Nat.eq_or_lt_of_le hab
  · exact le_rfl
  by_contra hcross
  have hvalues : (0 : ℚ) < b - a := sub_pos.mpr (by exact_mod_cast hlt)
  have hrounded : (0 : ℚ) < roundNat a - roundNat b :=
    sub_pos.mpr (by exact_mod_cast not_le.mp hcross)
  have hproduct := mul_pos hvalues hrounded
  have hfirst := sq_le_sq.mpr (abs_sub_roundNat_le_roundNat a b)
  have hsecond := sq_le_sq.mpr (abs_sub_roundNat_le_roundNat b a)
  linarith

/-- Rounding does not lose a number. -/
theorem roundNat_eq_zero_iff {n : Nat} : roundNat n = 0 ↔ n = 0 := by
  constructor
  · intro hrounded
    by_contra hpositive
    have hone : 1 ≤ roundNat n := roundNat_mono (Nat.one_le_iff_ne_zero.mpr hpositive)
    omega
  · rintro rfl
    rfl

/-- Numbers from here on are rounded to infinity. It is halfway between the greatest double and the
    next power of two, which would be the even one of both. -/
def infiniteFrom : Nat :=
  2 ^ 1024 - 2 ^ 970

theorem overflowBound_le_roundNat_iff {n : Nat} : overflowBound ≤ roundNat n ↔ infiniteFrom ≤ n := by
  constructor
  · intro hover
    by_contra hsmall
    have hbelow : roundNat (infiniteFrom - 1) < overflowBound := by decide +kernel
    have hmono := roundNat_mono (Nat.le_sub_one_of_lt (not_le.mp hsmall))
    omega
  · intro hlarge
    have hat : roundNat infiniteFrom = overflowBound := by decide +kernel
    exact hat ▸ roundNat_mono hlarge

/-- No double with an even mantissa is an odd multiple that needs all digits. -/
theorem not_even_of_odd_multiple {count : Nat} {i mantissa exponent : ℤ} (hodd : Odd i)
    (hi : 2 ^ 52 ≤ i) (hmantissa : |mantissa| < 2 ^ 53)
    (hvalue : (mantissa : ℚ) * 2 ^ exponent = i * 2 ^ count) : ¬ Even mantissa := by
  have hpower : ∀ count : Nat, (2 : ℚ) ^ count ≠ 0 := fun count => pow_ne_zero _ two_ne_zero
  intro heven
  by_cases hexponent : (count : ℤ) ≤ exponent
  · -- The multiple would be even as well.
    obtain ⟨zeros, hzeros⟩ := Int.le.dest hexponent
    rw [← hzeros, zpow_add₀ two_ne_zero, zpow_natCast, zpow_natCast, mul_left_comm,
      mul_comm] at hvalue
    have hmultiple : mantissa * 2 ^ zeros = i := by
      exact_mod_cast mul_right_cancel₀ (hpower count) hvalue
    rw [← hmultiple] at hodd
    exact Int.not_even_iff_odd.mpr hodd (heven.mul_right _)
  · -- The mantissa would have a digit too many.
    obtain ⟨zeros, hzeros⟩ := Int.le.dest (Int.add_one_le_of_lt (not_le.mp hexponent))
    have hsplit : (2 : ℚ) ^ count = 2 ^ (zeros + 1) * 2 ^ exponent := by
      rw [← zpow_natCast, ← zpow_natCast, ← zpow_add₀ two_ne_zero]
      congr 1
      push_cast
      omega
    rw [hsplit, ← mul_assoc] at hvalue
    have hmultiple : mantissa = i * 2 ^ (zeros + 1) := by
      exact_mod_cast mul_right_cancel₀ (zpow_ne_zero exponent two_ne_zero) hvalue
    have htwo : (2 : ℤ) ≤ 2 ^ (zeros + 1) := by
      rw [pow_succ]
      have hone : (1 : ℤ) ≤ 2 ^ zeros := one_le_pow₀ (by decide)
      omega
    have hlarge : (2 : ℤ) ^ 52 * 2 ≤ i * 2 ^ (zeros + 1) :=
      mul_le_mul hi htwo (by decide) (by omega)
    rw [← hmultiple] at hlarge
    have hsmall := (abs_lt.mp hmantissa).2
    omega

/-- A number that does not reach the bound is rounded to the nearest double. -/
theorem isNearestDouble_roundNat {n : Nat} (hrange : roundNat n < overflowBound) :
    IsNearestDouble n (roundNat n) := by
  obtain ⟨mantissa, exponent, hvalue, hmantissa, hshort, hlong⟩ := exists_mantissa_roundNat n
  have hrepresents : Represents mantissa exponent (roundNat n) := by
    refine represents_roundNat hvalue hmantissa ?_ hrange
    by_cases hnone : roundedOff n = 0
    · exact .inl (hshort hnone)
    · exact .inr (hlong hnone).1
  refine ⟨⟨_, _, hrepresents⟩, ?_, ?_⟩
  · rintro y ⟨mantissa', exponent', hy⟩
    rw [hy.value]
    exact abs_sub_roundNat_le n _ hy.digits
  · rintro y ⟨mantissa', exponent', hy⟩ hne htie
    rw [hy.value] at hne htie
    obtain ⟨hsome, hhalf, -⟩ := tie_roundNat n _ hy.digits hne htie
    obtain ⟨hfull, heven⟩ := hlong hsome
    refine ⟨mantissa, exponent, hrepresents, .inl ?_, ?_⟩
    · rw [Nat.abs_cast]
      exact_mod_cast hfull
    · exact_mod_cast Nat.even_iff.mpr (heven hhalf)

/-- There is no other nearest double. -/
theorem IsNearestDouble.eq_roundNat {n : Nat} {x : ℚ} (hx : IsNearestDouble n x)
    (hrange : roundNat n < overflowBound) : x = roundNat n := by
  have hrounded := isNearestDouble_roundNat hrange
  by_contra hne
  have htie : |(n : ℚ) - x| = |(n : ℚ) - roundNat n| :=
    le_antisymm (hx.nearest _ hrounded.isDouble) (hrounded.nearest x hx.isDouble)
  obtain ⟨mantissa', exponent', hmantissa', -, heven⟩ :=
    hx.even _ hrounded.isDouble (Ne.symm hne) htie.symm
  rw [hmantissa'.value] at hne htie
  obtain ⟨-, -, i, hi, hodd, hfull⟩ := tie_roundNat n _ hmantissa'.digits hne htie
  exact not_even_of_odd_multiple hodd hfull hmantissa'.digits hi heven

end NamedParams.Number
