namespace NamedParams.Number

/-- Divides and rounds to the nearest integer; of two that are equally near, the even one. -/
def divNearest (a b : Nat) : Nat :=
  if b < 2 * (a % b) || (2 * (a % b) == b && a / b % 2 == 1) then a / b + 1 else a / b

/-- The nearest integer that 53 binary digits can hold, apart from zeros at the end. -/
def roundNat (n : Nat) : Nat :=
  divNearest n (Nat.pow 2 (n.log2 + 1 - 53)) * Nat.pow 2 (n.log2 + 1 - 53)

/-- Magnitudes from here on are infinite. -/
def overflowBound : Nat := Nat.pow 2 1024

/-- A magnitude that binary floating point can hold: the mantissa times a power of two. -/
structure Magnitude where
  mantissa : Nat
  exponent : Int
deriving DecidableEq, Repr, Inhabited

/-- Scales a fraction by a power of two. -/
def scaleBy (numerator denominator : Nat) (power : Int) : Nat × Nat :=
  if 0 ≤ power then (numerator * Nat.pow 2 power.toNat, denominator)
  else (numerator, denominator * Nat.pow 2 (-power).toNat)

/-- The least exponent of a magnitude. -/
def leastExponent : Int := -1074

/-- The magnitude nearest to a fraction, or `none` when that is infinite. The exponent makes the
    mantissa 53 digits long, unless it is already the least one. -/
def nearest? (numerator denominator : Nat) : Option Magnitude :=
  if numerator = 0 then some ⟨0, 0⟩
  else
    let guess : Int := (numerator.log2 : Int) - (denominator.log2 : Int)
    let scaled := scaleBy numerator denominator (-guess)
    let top := if scaled.2 ≤ scaled.1 then guess else guess - 1
    let exponent := max (top - 52) leastExponent
    let (a, b) := scaleBy numerator denominator (-exponent)
    let mantissa := divNearest a b
    let (mantissa, exponent) :=
      if mantissa = Nat.pow 2 53 then (Nat.pow 2 52, exponent + 1) else (mantissa, exponent)
    if 971 < exponent then none else some ⟨mantissa, exponent⟩

end NamedParams.Number
