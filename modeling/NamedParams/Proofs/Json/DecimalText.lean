import Mathlib.Tactic.Positivity
import NamedParams.Json.Reader

namespace NamedParams.Number

theorem stripZeros_mul_pow {digits : Nat} (hdigits : digits ≠ 0) (zeros count : Nat)
    (exponent : Int) : stripZeros (zeros + count) ⟨digits * 10 ^ zeros, exponent⟩ =
      stripZeros count ⟨digits, exponent + zeros⟩ := by
  induction zeros generalizing exponent with
  | zero => simp
  | succ zeros ih =>
    have hsplit : digits * 10 ^ (zeros + 1) = digits * 10 ^ zeros * 10 := by
      rw [Nat.pow_succ, Nat.mul_assoc]
    have hpositive : digits * 10 ^ zeros ≠ 0 := by positivity
    rw [Nat.add_right_comm, stripZeros, hsplit, if_neg (by omega), if_pos (by omega),
      Nat.mul_div_cancel _ (by decide), ih]
    congr 2
    omega

/-- There are never more zeros to move than binary digits. -/
theorem stripZeros_congr {digits count other : Nat} (hdigits : digits ≠ 0)
    (hcount : digits < 2 ^ count) (hother : digits < 2 ^ other) (exponent : Int) :
    stripZeros count ⟨digits, exponent⟩ = stripZeros other ⟨digits, exponent⟩ := by
  induction count generalizing digits other exponent with
  | zero => omega
  | succ count ih =>
    cases other with
    | zero => omega
    | succ other =>
      rw [stripZeros, stripZeros, if_neg hdigits, if_neg hdigits]
      split
      · rw [Nat.pow_succ] at hcount hother
        exact ih (by omega) (by omega) (by omega) _
      · rfl

/-- Zeros may be written out. -/
theorem canonical_mul_pow {digits : Nat} (hdigits : digits ≠ 0) (zeros : Nat) :
    (Decimal.mk (digits * 10 ^ zeros) 0).canonical = (Decimal.mk digits zeros).canonical := by
  rw [Decimal.canonical, Decimal.canonical]
  dsimp only
  have hbinary : digits * 2 ^ zeros < 2 ^ ((digits * 10 ^ zeros).log2 + 1) :=
    lt_of_le_of_lt (Nat.mul_le_mul_left _ (Nat.pow_le_pow_left (by decide) _)) Nat.lt_log2_self
  have hzeros : zeros ≤ (digits * 10 ^ zeros).log2 + 1 := by
    rw [← Nat.pow_le_pow_iff_right (a := 2) (by decide)]
    exact le_trans (Nat.le_mul_of_pos_left _ (by omega)) hbinary.le
  obtain ⟨count, hcount⟩ := Nat.exists_eq_add_of_le hzeros
  rw [hcount, stripZeros_mul_pow hdigits, Int.zero_add]
  rw [hcount, Nat.pow_add, Nat.mul_comm] at hbinary
  exact stripZeros_congr hdigits (Nat.lt_of_mul_lt_mul_left hbinary) Nat.lt_log2_self _

theorem isDigit_of_mem_digitText {decimal : Decimal} {c : Char} (hc : c ∈ decimal.digitText) :
    c.isDigit = true :=
  Nat.isDigit_of_mem_toDigits (by decide) (by decide) hc

theorem head?_toDigits {n : Nat} (hn : n ≠ 0) : (Nat.toDigits 10 n).head? ≠ some '0' := by
  induction n using Nat.strongRecOn with
  | ind n ih =>
    by_cases hsmall : n < 10
    · have hdigit : ∀ n < 10, n ≠ 0 → n.digitChar ≠ '0' := by decide
      rw [Nat.toDigits_of_lt_base hsmall, List.head?_cons, Ne, Option.some.injEq]
      exact hdigit n hsmall hn
    · rw [Nat.toDigits_of_base_le (by decide) (by omega),
        List.head?_append, Option.or_of_isSome (List.isSome_head?.mpr Nat.toDigits_ne_nil)]
      exact ih (n / 10) (by omega) (by omega)

theorem toDigits_mul_pow {n : Nat} (hn : n ≠ 0) (zeros : Nat) :
    Nat.toDigits 10 (n * 10 ^ zeros) = Nat.toDigits 10 n ++ List.replicate zeros '0' := by
  induction zeros with
  | zero => simp
  | succ zeros ih =>
    have hlast := Nat.toDigits_append_toDigits (b := 10) (n := n * 10 ^ zeros) (d := 0)
      (by decide) (by positivity) (by decide)
    rw [ih, Nat.toDigits_zero, Nat.add_zero] at hlast
    rw [Nat.pow_succ, ← Nat.mul_assoc, Nat.mul_comm _ 10, ← hlast, List.append_assoc,
      List.replicate_succ']

end NamedParams.Number

namespace NamedParams.Json

open NamedParams.Number

/-- Whether the digits of a number end before a text. -/
def EndsDigits (rest : List Char) : Prop :=
  ∀ c, rest.head? = some c → c.isDigit = false

/-- Whether no number goes on with a text. -/
def EndsNumber (rest : List Char) : Prop :=
  ∀ c, rest.head? = some c → c.isDigit = false ∧ c ≠ '.' ∧ c ≠ 'e' ∧ c ≠ 'E'

theorem EndsNumber.digits {rest : List Char} (hrest : EndsNumber rest) : EndsDigits rest :=
  fun c hc => (hrest c hc).1

theorem readDigits_append {digits rest : List Char} (hdigits : ∀ c ∈ digits, c.isDigit = true)
    (hrest : EndsDigits rest) (value count : Nat) :
    readDigits value count (digits ++ rest) =
      (Nat.ofDigitChars 10 digits value, count + digits.length, rest) := by
  induction digits generalizing value count with
  | nil =>
    cases rest with
    | nil => rfl
    | cons c rest =>
      rw [List.nil_append, readDigits, if_neg (by simp [hrest c rfl])]
      rfl
  | cons d digits ih =>
    obtain ⟨hd, hdigits⟩ := List.forall_mem_cons.mp hdigits
    rw [List.cons_append, readDigits, if_pos hd, ih hdigits, Nat.ofDigitChars_cons,
      List.length_cons, Nat.add_right_comm, Nat.add_assoc count]

theorem readExponent_of_endsNumber {rest : List Char} (hrest : EndsNumber rest) :
    readExponent rest = some (0, rest) := by
  cases rest with
  | nil => rfl
  | cons c rest =>
    obtain ⟨-, -, hlower, hupper⟩ := hrest c rfl
    simp [readExponent, hlower, hupper]

theorem readExponent_written (exponent : Int) {rest : List Char} (hrest : EndsDigits rest) :
    readExponent ('e' :: (if exponent < 0 then '-' else '+') ::
      (Nat.toDigits 10 exponent.natAbs ++ rest)) = some (exponent, rest) := by
  have hdigit : ∀ c ∈ Nat.toDigits 10 exponent.natAbs, c.isDigit = true :=
    fun c hc => Nat.isDigit_of_mem_toDigits (by decide) (by decide) hc
  have hdigits := readDigits_append hdigit hrest 0 0
  rw [Nat.ofDigitChars_ten_toDigits, Nat.zero_add] at hdigits
  obtain ⟨count, hcount⟩ :=
    Nat.exists_eq_succ_of_ne_zero (Nat.length_toDigits_pos (b := 10) (n := exponent.natAbs)).ne'
  rw [hcount] at hdigits
  split
  · simp only [readExponent, hdigits]
    simp only [BEq.rfl, Bool.true_or, if_true, Option.some.injEq, Prod.mk.injEq, and_true]
    omega
  · simp only [readExponent, hdigits]
    simp only [BEq.rfl, Bool.true_or, if_true, Bool.false_eq_true, if_false, Option.some.injEq,
      Prod.mk.injEq, and_true]
    omega

/-- The digits before the point of a number, without a needless zero. -/
structure IsWhole (whole : List Char) : Prop where
  nonempty : whole ≠ []
  digits : ∀ c ∈ whole, c.isDigit = true
  first : 1 < whole.length → whole.head? ≠ some '0'

section Whole

variable {whole : List Char} (hwhole : IsWhole whole)
include hwhole

theorem IsWhole.length_pos : 0 < whole.length :=
  List.length_pos_iff.mpr hwhole.nonempty

/-- No number is turned down for the way in which its digits start. -/
theorem IsWhole.accepted (tail : List Char) :
    (whole.length = 0 || (1 < whole.length && (whole ++ tail).head? == some '0')) = false := by
  rw [List.head?_append, Option.or_of_isSome (List.isSome_head?.mpr hwhole.nonempty)]
  have hpositive := hwhole.length_pos
  have hfirst := hwhole.first
  grind

theorem readMagnitude_whole {tail rest : List Char} (htail : EndsDigits tail)
    (hpoint : tail.head? ≠ some '.') {exponent : Int}
    (hexponent : readExponent tail = some (exponent, rest)) (negative : Bool) :
    readMagnitude negative (whole ++ tail) =
      some (numberOf negative (Nat.ofDigitChars 10 whole 0) exponent, rest) := by
  rw [readMagnitude, readDigits_append hwhole.digits htail, Nat.zero_add]
  dsimp only
  rw [hwhole.accepted, if_neg Bool.false_ne_true]
  split
  · contradiction
  · rw [hexponent]
    rfl

theorem readMagnitude_fraction {places tail rest : List Char}
    (hplaces : ∀ c ∈ places, c.isDigit = true) (hsome : places ≠ [])
    (htail : EndsDigits tail) {exponent : Int}
    (hexponent : readExponent tail = some (exponent, rest)) (negative : Bool) :
    readMagnitude negative (whole ++ '.' :: (places ++ tail)) =
      some (numberOf negative (Nat.ofDigitChars 10 (whole ++ places) 0)
        (exponent - places.length), rest) := by
  have hcount : places.length ≠ 0 := (List.length_pos_iff.mpr hsome).ne'
  rw [readMagnitude, readDigits_append hwhole.digits (by rintro _ ⟨⟩; rfl), Nat.zero_add]
  dsimp only
  rw [hwhole.accepted, if_neg Bool.false_ne_true]
  simp only [readDigits_append hplaces htail, Nat.zero_add]
  rw [if_neg hcount, hexponent, Nat.ofDigitChars_append]
  rfl

end Whole

theorem isWhole_toDigits {n : Nat} (hn : n ≠ 0) : IsWhole (Nat.toDigits 10 n) where
  nonempty := Nat.toDigits_ne_nil
  digits := fun _ hc => Nat.isDigit_of_mem_toDigits (by decide) (by decide) hc
  first := fun _ => head?_toDigits hn

theorem isWhole_zero : IsWhole ['0'] where
  nonempty := List.cons_ne_nil _ _
  digits := List.forall_mem_singleton.mpr rfl
  first := fun hlong => absurd hlong (Nat.lt_irrefl 1)

theorem IsWhole.take {whole : List Char} (hwhole : IsWhole whole) {count : Nat}
    (hcount : count ≠ 0) : IsWhole (whole.take count) where
  nonempty := by simp [hwhole.nonempty, hcount]
  digits := fun c hc => hwhole.digits c (List.mem_of_mem_take hc)
  first := by
    intro hlong
    rw [List.length_take] at hlong
    rw [List.head?_take, if_neg hcount]
    exact hwhole.first (by omega)

/-- The number that a written decimal is read as. -/
theorem numberOf_mul_pow (negative : Bool) {digits : Nat} (hdigits : digits ≠ 0) (zeros : Nat) :
    numberOf negative (digits * 10 ^ zeros) 0 = numberOf negative digits zeros := by
  have hsome : digits * 10 ^ zeros ≠ 0 := by positivity
  have hlength : (0 : Int) + (Nat.toDigits 10 (digits * 10 ^ zeros)).length =
      zeros + (Nat.toDigits 10 digits).length := by
    rw [toDigits_mul_pow hdigits, List.length_append, List.length_replicate]
    omega
  rw [numberOf, numberOf, if_neg hsome, if_neg hdigits]
  dsimp only
  rw [hlength, Decimal.rounded?, Decimal.rounded?, canonical_mul_pow hdigits]

/-- A number is read with all its digits wherever its point stands among them. -/
theorem readMagnitude_split {whole tail rest : List Char} (hwhole : IsWhole whole) (point : Nat)
    (hpoint : point ≠ 0) (hsome : point < whole.length) (htail : EndsDigits tail) {exponent : Int}
    (hexponent : readExponent tail = some (exponent, rest)) (negative : Bool) :
    readMagnitude negative (whole.take point ++ '.' :: (whole.drop point ++ tail)) =
      some (numberOf negative (Nat.ofDigitChars 10 whole 0) (exponent - (whole.length - point)),
        rest) := by
  rw [readMagnitude_fraction (hwhole.take hpoint)
    (fun c hc => hwhole.digits c (List.mem_of_mem_drop hc)) (by simpa using hsome) htail hexponent,
    List.take_append_drop, List.length_drop, Nat.cast_sub hsome.le]

/-- Zeros behind the point move the digits, and are no digits themselves. -/
theorem readMagnitude_zeros {whole rest : List Char} (hwhole : IsWhole whole)
    (hrest : EndsNumber rest) (zeros : Nat) (negative : Bool) :
    readMagnitude negative ('0' :: '.' :: (List.replicate zeros '0' ++ whole ++ rest)) =
      some (numberOf negative (Nat.ofDigitChars 10 whole 0) (-(zeros + whole.length)), rest) := by
  have hdigits : ∀ c ∈ List.replicate zeros '0' ++ whole, c.isDigit = true :=
    List.forall_mem_append.mpr ⟨fun c hc => List.eq_of_mem_replicate hc ▸ rfl, hwhole.digits⟩
  have hread := readMagnitude_fraction isWhole_zero hdigits (by simp [hwhole.nonempty])
    hrest.digits (readExponent_of_endsNumber hrest) negative
  have hvalue : Nat.ofDigitChars 10 (['0'] ++ (List.replicate zeros '0' ++ whole)) 0 =
      Nat.ofDigitChars 10 whole 0 := by
    rw [Nat.ofDigitChars_append, Nat.ofDigitChars_append, Nat.ofDigitChars_replicate_zero]
    rfl
  rw [hvalue, List.length_append, List.length_replicate, Int.zero_sub, Nat.cast_add] at hread
  exact hread

/-- With an exponent the point stands behind the first digit, if there are more. -/
theorem readMagnitude_scaled {whole rest : List Char} (hwhole : IsWhole whole)
    (hrest : EndsNumber rest) (exponent : Int) (negative : Bool) :
    readMagnitude negative
      (whole.take 1 ++ (if whole.length = 1 then [] else '.' :: whole.drop 1) ++
        ['e', if exponent < 0 then '-' else '+'] ++ Nat.toDigits 10 exponent.natAbs ++ rest) =
      some (numberOf negative (Nat.ofDigitChars 10 whole 0) (exponent - (whole.length - 1)),
        rest) := by
  have hexponent := readExponent_written exponent hrest.digits
  have htail : EndsDigits ('e' :: (if exponent < 0 then '-' else '+') ::
      (Nat.toDigits 10 exponent.natAbs ++ rest)) := by
    rintro _ ⟨⟩
    rfl
  have hpositive := hwhole.length_pos
  by_cases hone : whole.length = 1
  · rw [if_pos hone, List.append_nil, List.take_of_length_le hone.le]
    simp only [List.append_assoc, List.cons_append, List.nil_append]
    rw [readMagnitude_whole hwhole htail (by simp) hexponent, hone, Nat.cast_one, sub_self,
      sub_zero]
  · rw [if_neg hone]
    simp only [List.append_assoc, List.cons_append, List.nil_append]
    exact readMagnitude_split hwhole 1 (by decide) (by omega) htail hexponent negative

/-- A written decimal is read as a number with its digits and its exponent, however it is laid
    out. -/
theorem readMagnitude_text (decimal : Decimal) {rest : List Char} (hrest : EndsNumber rest)
    (negative : Bool) : readMagnitude negative (decimal.text ++ rest) =
      some (numberOf negative decimal.digits decimal.exponent, rest) := by
  obtain ⟨digits, exponent⟩ := decimal
  have hplain := readExponent_of_endsNumber hrest
  have hpoint : rest.head? ≠ some '.' := fun hdot => (hrest _ hdot).2.1 rfl
  rw [Decimal.text, Decimal.digitText]
  dsimp only
  by_cases hzero : digits = 0
  · rw [if_pos hzero, hzero, readMagnitude_whole isWhole_zero hrest.digits hpoint hplain]
    rfl
  rw [if_neg hzero]
  have hwhole := isWhole_toDigits hzero
  have hpositive := hwhole.length_pos
  split
  -- With its zeros written out, the number has other digits, and only rounding makes it the same.
  · rename_i hlarge
    obtain ⟨zeros, rfl⟩ : ∃ zeros : Nat, exponent = zeros :=
      Int.eq_ofNat_of_zero_le (by simp_all)
    have hwritten := isWhole_toDigits (n := digits * 10 ^ zeros) (by positivity)
    rw [Int.toNat_natCast, ← toDigits_mul_pow hzero,
      readMagnitude_whole hwritten hrest.digits hpoint hplain, Nat.ofDigitChars_ten_toDigits,
      numberOf_mul_pow _ hzero]
  rename_i hlarge
  have hvalue : Nat.ofDigitChars 10 (Nat.toDigits 10 digits) 0 = digits :=
    Nat.ofDigitChars_ten_toDigits
  -- In all other layouts the digits themselves are read, so it only matters that they are some.
  generalize Nat.toDigits 10 digits = whole at *
  simp only [Bool.and_eq_true, decide_eq_true_eq] at hlarge ⊢
  split
  · have hread := readMagnitude_split hwhole (whole.length + exponent).toNat (by omega)
      (by omega) hrest.digits hplain negative
    rw [List.append_assoc, List.cons_append, hread, hvalue]
    congr 3
    omega
  split
  · have hread := readMagnitude_zeros hwhole hrest (-(whole.length + exponent)).toNat negative
    rw [List.cons_append, List.cons_append, hread, hvalue]
    congr 3
    omega
  · rw [readMagnitude_scaled hwhole hrest, hvalue]
    congr 3
    omega

end NamedParams.Json
