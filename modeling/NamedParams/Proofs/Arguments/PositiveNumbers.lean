import NamedParams.Arguments
import NamedParams.Proofs.Number.NearestDouble
import NamedParams.Proofs.Text.Blanks

namespace NamedParams

open NamedParams.Number NamedParams.Text

/-- Decimal digits, with or without zeros in front, that write a number. -/
structure IsNumeral (digits : List Char) (value : Nat) : Prop where
  nonempty : digits ≠ []
  isDigit : ∀ c ∈ digits, c.isDigit = true
  value : Nat.ofDigitChars 10 digits 0 = value

/-- Whether a text starts with a number, behind white space and a plus if there are any. All digits
    up to something else belong to it. -/
def OpensWith (text : String) (value : Nat) : Prop :=
  ∃ before sign digits after : List Char, text.toList = before ++ sign ++ digits ++ after ∧
    IsBlank before ∧ (sign = [] ∨ sign = ['+']) ∧ IsNumeral digits value ∧
      ∀ c ∈ after.head?, c.isDigit = false

/-- What is left of a text behind a plus. -/
def withoutPlus : List Char → List Char
  | '+' :: rest => rest
  | text => text

/-- The digits that are read from a text. -/
def openingDigits (text : List Char) : List Char :=
  (withoutPlus (trimStart text)).takeWhile Char.isDigit

theorem isWhite_of_isDigit {c : Char} (hc : c.isDigit = true) : isWhite c = false := by
  have hall : ∀ code < 58, 48 ≤ code → isWhite (Char.ofNat code) = false := by decide
  obtain ⟨hleast, hmost⟩ := Char.isDigit_iff_toNat.mp hc
  have hcode := hall c.toNat (Nat.lt_succ_of_le hmost) hleast
  rwa [Char.ofNat_toNat] at hcode

theorem withoutPlus_append {sign text : List Char} (hsign : sign = [] ∨ sign = ['+'])
    (htext : '+' ∉ text.head?) : withoutPlus (sign ++ text) = text := by
  obtain rfl | rfl := hsign
  · rw [List.nil_append, withoutPlus]
    rintro rest rfl
    exact htext rfl
  · rfl

theorem exists_eq_append_withoutPlus (text : List Char) :
    ∃ sign, (sign = [] ∨ sign = ['+']) ∧ text = sign ++ withoutPlus text := by
  fun_cases withoutPlus text with
  | case1 rest => exact ⟨['+'], .inr rfl, rfl⟩
  | case2 => exact ⟨[], .inl rfl, rfl⟩

/-- A text starts with a number exactly when digits are read from it, and they write the number. -/
theorem opensWith_iff {text : String} {value : Nat} :
    OpensWith text value ↔ IsNumeral (openingDigits text.toList) value := by
  constructor
  · rintro ⟨before, sign, digits, after, heq, hbefore, hsign, hnumeral, hafter⟩
    obtain ⟨first, others, hdigits⟩ := List.exists_cons_of_ne_nil hnumeral.nonempty
    have hfirst : first.isDigit = true := hnumeral.isDigit first (hdigits ▸ List.mem_cons_self)
    have hplus : '+' ∉ (digits ++ after).head? := by
      rw [hdigits]
      rintro ⟨⟩
      contradiction
    have hstart : ∀ c ∈ (sign ++ (digits ++ after)).head?, isWhite c = false := by
      rw [hdigits]
      obtain rfl | rfl := hsign
      · rintro c ⟨⟩
        exact isWhite_of_isDigit hfirst
      · rintro c ⟨⟩
        decide
    have hread : openingDigits text.toList = digits := by
      rw [openingDigits, heq, List.append_assoc, List.append_assoc, trimStart_append hbefore hstart,
        withoutPlus_append hsign hplus, List.takeWhile_append_of_pos hnumeral.isDigit]
      cases after with
      | nil => simp
      | cons c rest => simp [hafter c rfl]
    rwa [hread]
  · intro hnumeral
    obtain ⟨before, hbefore, hstart⟩ := exists_eq_append_trimStart text.toList
    obtain ⟨sign, hsign, hrest⟩ := exists_eq_append_withoutPlus (trimStart text.toList)
    refine ⟨before, sign, _, (withoutPlus (trimStart text.toList)).dropWhile Char.isDigit, ?_,
      hbefore, hsign, hnumeral, ?_⟩
    · rw [openingDigits, List.append_assoc, List.takeWhile_append_dropWhile, List.append_assoc,
        ← hrest, ← hstart]
    · intro c hc
      have hstop := List.head?_dropWhile_not Char.isDigit (withoutPlus (trimStart text.toList))
      rwa [Option.mem_def.mp hc] at hstop

/-- A numeral without anything around it. -/
theorem opensWith_toString (n : Nat) : OpensWith (toString n) n := by
  refine ⟨[], [], Nat.toDigits 10 n, [], ?_, fun c hc => (List.not_mem_nil hc).elim, .inl rfl,
    ⟨Nat.toDigits_ne_nil, ?_, Nat.ofDigitChars_ten_toDigits⟩, fun c hc => by cases hc⟩
  · rw [Nat.toString_eq_repr, Nat.toList_repr, List.append_nil]
    rfl
  · exact fun c hc => Nat.isDigit_of_mem_toDigits (by decide) (by decide) hc

/-- What is read depends only on the number that the digits write. -/
theorem positiveArgument?_eq (text : String) :
    positiveArgument? text =
      if Nat.ofDigitChars 10 (openingDigits text.toList) 0 = 0 ∨
        infiniteFrom ≤ Nat.ofDigitChars 10 (openingDigits text.toList) 0 then none
      else some (roundNat (Nat.ofDigitChars 10 (openingDigits text.toList) 0)) := by
  have hread : positiveArgument? text =
      let n := roundNat (Nat.ofDigitChars 10 (openingDigits text.toList) 0)
      if (n = 0 || overflowBound ≤ n) = true then none else some n := rfl
  rw [hread]
  simp only [Bool.or_eq_true, decide_eq_true_eq, roundNat_eq_zero_iff,
    overflowBound_le_roundNat_iff]

section Opened

variable {text : String} {value : Nat} (hopens : OpensWith text value)
include hopens

theorem OpensWith.read :
    positiveArgument? text =
      if value = 0 ∨ infiniteFrom ≤ value then none else some (roundNat value) := by
  rw [positiveArgument?_eq, (opensWith_iff.mp hopens).value]

theorem OpensWith.read_eq_some_iff {n : Nat} :
    positiveArgument? text = some n ↔
      0 < value ∧ value < infiniteFrom ∧ n = roundNat value := by
  rw [hopens.read]
  split
  · rename_i hnone
    simp only [reduceCtorEq, false_iff, not_and]
    omega
  · rename_i hsome
    rw [Option.some.injEq, eq_comm]
    omega

end Opened

theorem exists_opensWith_of_read {text : String} {n : Nat} (hread : positiveArgument? text = some n) :
    ∃ value, OpensWith text value := by
  refine ⟨_, opensWith_iff.mpr ⟨?_, fun c hc => List.mem_takeWhile_imp hc, rfl⟩⟩
  intro hnil
  rw [positiveArgument?_eq, hnil] at hread
  cases hread

/-- The nearest doubles of whole numbers are whole. -/
theorem isNearestDouble_iff {value n : Nat} (hrange : value < infiniteFrom) :
    IsNearestDouble value n ↔ n = roundNat value := by
  have hbound : roundNat value < overflowBound := by
    rw [← not_le, overflowBound_le_roundNat_iff]
    exact hrange.not_ge
  constructor
  · intro hnearest
    exact_mod_cast hnearest.eq_roundNat hbound
  · rintro rfl
    exact isNearestDouble_roundNat hbound

theorem positiveArgument?_eq_some_iff {text : String} {n : Nat} :
    positiveArgument? text = some n ↔
      ∃ value : Nat, OpensWith text value ∧ 0 < value ∧ value < infiniteFrom ∧
        IsNearestDouble value n := by
  constructor
  · intro hread
    obtain ⟨value, hopens⟩ := exists_opensWith_of_read hread
    obtain ⟨hpositive, hrange, hrounded⟩ := hopens.read_eq_some_iff.mp hread
    exact ⟨value, hopens, hpositive, hrange, (isNearestDouble_iff hrange).mpr hrounded⟩
  · rintro ⟨value, hopens, hpositive, hrange, hnearest⟩
    exact hopens.read_eq_some_iff.mpr ⟨hpositive, hrange, (isNearestDouble_iff hrange).mp hnearest⟩

theorem positiveArgument?_eq_none_iff {text : String} :
    positiveArgument? text = none ↔
      ∀ value, OpensWith text value → value = 0 ∨ infiniteFrom ≤ value := by
  constructor
  · intro hnone value hopens
    by_contra hread
    rw [hopens.read, if_neg hread] at hnone
    cases hnone
  · intro hall
    cases hread : positiveArgument? text with
    | none => rfl
    | some n =>
      obtain ⟨value, hopens⟩ := exists_opensWith_of_read hread
      rw [hopens.read, if_pos (hall value hopens)] at hread
      cases hread

/-- What is read from a text is the double that is nearest to the number with which it starts, if
    that is positive and not rounded to infinity, and there is nothing else that is read. Larger
    numbers are not read as smaller ones, and up to what a mantissa holds they are read as they
    are. -/
theorem positiveArgument?_rounds_opening (text : String) :
    (∀ n : Nat, positiveArgument? text = some n ↔
      ∃ value : Nat, OpensWith text value ∧ 0 < value ∧ value < infiniteFrom ∧
        IsNearestDouble value n) ∧
    (positiveArgument? text = none ↔
      ∀ value, OpensWith text value → value = 0 ∨ infiniteFrom ≤ value) ∧
    (∀ other value larger n m, OpensWith text value → OpensWith other larger → value ≤ larger →
      positiveArgument? text = some n → positiveArgument? other = some m → n ≤ m) ∧
    ∀ n, 1 ≤ n → n ≤ 2 ^ 53 → positiveArgument? (toString n) = some n := by
  refine ⟨fun n => positiveArgument?_eq_some_iff, positiveArgument?_eq_none_iff, ?_, ?_⟩
  · intro other value larger n m hopens hother hle hread hreadOther
    obtain ⟨-, -, rfl⟩ := hopens.read_eq_some_iff.mp hread
    obtain ⟨-, -, rfl⟩ := hother.read_eq_some_iff.mp hreadOther
    exact roundNat_mono hle
  · intro n hpositive hmost
    have hrange : 2 ^ 53 < infiniteFrom := by decide +kernel
    exact (opensWith_toString n).read_eq_some_iff.mpr
      ⟨hpositive, lt_of_le_of_lt hmost hrange, (roundNat_of_le hmost).symm⟩

/-- Two numbers that are halfway between doubles, the first with zeros in front of it and other
    characters around it, and a small one. -/
theorem positiveArgument?_rounds_opening_of_ties :
    OpensWith "\u00a0+0009007199254740993px" 9007199254740993 ∧
      OpensWith "9007199254740995" 9007199254740995 ∧
      (∃ value : Nat, OpensWith "\u00a0+0009007199254740993px" value ∧ 0 < value ∧
        value < infiniteFrom ∧ IsNearestDouble value (9007199254740992 : Nat)) ∧
      9007199254740992 ≤ 9007199254740996 ∧ positiveArgument? (toString 42) = some 42 :=
  have hfirst : OpensWith "\u00a0+0009007199254740993px" 9007199254740993 :=
    ⟨['\u00a0'], ['+'], "0009007199254740993".toList, "px".toList, by decide, by decide,
      .inr rfl, ⟨by decide, List.all_eq_true.mp (by decide), by decide⟩, by simp⟩
  have hsecond : OpensWith "9007199254740995" 9007199254740995 :=
    ⟨[], [], "9007199254740995".toList, [], by decide, by decide, .inl rfl,
      ⟨by decide, List.all_eq_true.mp (by decide), by decide⟩, by simp⟩
  have hread : positiveArgument? "\u00a0+0009007199254740993px" = some 9007199254740992 := by
    decide +kernel
  have hreadSecond : positiveArgument? "9007199254740995" = some 9007199254740996 := by
    decide +kernel
  have hlaws := positiveArgument?_rounds_opening "\u00a0+0009007199254740993px"
  ⟨hfirst, hsecond, (hlaws.1 _).mp hread,
    hlaws.2.2.1 _ _ _ _ _ hfirst hsecond (by decide) hread hreadSecond,
    hlaws.2.2.2 42 (by decide) (by decide)⟩

end NamedParams
