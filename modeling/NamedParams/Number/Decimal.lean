import NamedParams.Number.Nearest

namespace NamedParams.Number

/-- A decimal magnitude: the digits, as one number, times a power of ten. -/
structure Decimal where
  digits : Nat
  exponent : Int
deriving DecidableEq, Repr, Inhabited

/-- Moves zeros at the end of the digits into the exponent. -/
def stripZeros : Nat → Decimal → Decimal
  | 0, decimal => decimal
  | count + 1, ⟨digits, exponent⟩ =>
    if digits = 0 then ⟨0, 0⟩
    else if digits % 10 = 0 then stripZeros count ⟨digits / 10, exponent + 1⟩
    else ⟨digits, exponent⟩

/-- The form of a decimal whose digits do not end in zero. -/
def Decimal.canonical (decimal : Decimal) : Decimal :=
  stripZeros (decimal.digits.log2 + 1) decimal

def Decimal.ofNat (n : Nat) : Decimal :=
  Decimal.canonical ⟨n, 0⟩

/-- The magnitude nearest to a decimal. -/
def Decimal.nearest? (decimal : Decimal) : Option Magnitude :=
  if 0 ≤ decimal.exponent then
    Number.nearest? (decimal.digits * Nat.pow 10 decimal.exponent.toNat) 1
  else Number.nearest? decimal.digits (Nat.pow 10 (-decimal.exponent).toNat)

/-- The decimal exponent of the first digit of a fraction below one. -/
def leadingPlace (numerator denominator : Nat) : Nat → Nat → Int
  | 0, places => -places
  | count + 1, places =>
    if denominator ≤ numerator * Nat.pow 10 places then -places
    else leadingPlace numerator denominator count (places + 1)

/-- The decimal exponent of the first digit of a fraction. -/
def firstPlace (numerator denominator : Nat) : Int :=
  if denominator ≤ numerator then ((Nat.toDigits 10 (numerator / denominator)).length : Int) - 1
  else leadingPlace numerator denominator 330 1

/-- A point of a decimal grid that reads back as the magnitude, if one of its two neighbours on
    the grid does; of two, the nearer, and of two equally near the even one. -/
def gridPoint? (magnitude : Magnitude) (place : Int) : Option Decimal :=
  let isLeast := magnitude.mantissa = Nat.pow 2 52 && leastExponent < magnitude.exponent
  let half := if isLeast then 1 else 2
  let (unit, denominator) := scaleBy 1 1 (magnitude.exponent - 2)
  let (unit, grid) :=
    if 0 ≤ place then (unit, denominator * Nat.pow 10 place.toNat)
    else (unit * Nat.pow 10 (-place).toNat, denominator)
  let value := 4 * magnitude.mantissa * unit
  let low := value - half * unit
  let high := value + 2 * unit
  let closed := magnitude.mantissa % 2 = 0
  let inside (point : Nat) : Bool :=
    if closed then low ≤ point * grid && point * grid ≤ high
    else low < point * grid && point * grid < high
  let below := value / grid
  let above := below + 1
  let preferBelow : Bool :=
    let distanceBelow := value - below * grid
    let distanceAbove := above * grid - value
    distanceBelow < distanceAbove || (distanceBelow = distanceAbove && below % 2 = 0)
  if inside below && below != 0 && (preferBelow || !inside above) then some ⟨below, place⟩
  else if inside above then some ⟨above, place⟩
  else none

/-- Tries grids with one digit, two digits and so on. -/
def shortestFrom (magnitude : Magnitude) (first : Int) : Nat → Nat → Decimal
  | 0, _ => ⟨0, 0⟩
  | count + 1, digits =>
    match gridPoint? magnitude (first - digits + 1) with
    | some decimal => decimal.canonical
    | none => shortestFrom magnitude first count (digits + 1)

/-- The decimal with the fewest digits that reads back as the magnitude. Seventeen are enough. -/
def Magnitude.shortest (magnitude : Magnitude) : Decimal :=
  if magnitude.mantissa = 0 then ⟨0, 0⟩
  else
    let (numerator, denominator) := scaleBy magnitude.mantissa 1 magnitude.exponent
    shortestFrom magnitude (firstPlace numerator denominator) 18 1

/-- Decimals that are the shortest form of the magnitude they read as, for one of two plain
    reasons: they have at most fifteen digits, or they are integers that a mantissa holds. -/
def Decimal.isPlainlyShortest (decimal : Decimal) : Bool :=
  (decimal.digits < Nat.pow 10 15 && -290 ≤ decimal.exponent && decimal.exponent ≤ 290) ||
    (0 ≤ decimal.exponent && decimal.exponent ≤ 16 &&
      decimal.digits * Nat.pow 10 decimal.exponent.toNat ≤ Nat.pow 2 53)

/-- The shortest form of what a decimal reads as, or `none` when that is infinite. -/
def Decimal.rounded? (decimal : Decimal) : Option Decimal :=
  let canonical := decimal.canonical
  if canonical.isPlainlyShortest then some canonical
  else canonical.nearest?.map Magnitude.shortest

/-- The digits of a decimal as characters. -/
def Decimal.digitText (decimal : Decimal) : List Char :=
  Nat.toDigits 10 decimal.digits

/-- Writes a decimal: in positional notation while its first digit is between the seventh place
    after the point and the twenty-first before it, else with an exponent. -/
def Decimal.text (decimal : Decimal) : List Char :=
  let digits := decimal.digitText
  let point : Int := digits.length + decimal.exponent
  if decimal.digits = 0 then ['0']
  else if 0 ≤ decimal.exponent && point ≤ 21 then
    digits ++ List.replicate decimal.exponent.toNat '0'
  else if 0 < point && point ≤ 21 then
    digits.take point.toNat ++ '.' :: digits.drop point.toNat
  else if -6 < point && point ≤ 0 then
    '0' :: '.' :: (List.replicate (-point).toNat '0' ++ digits)
  else
    let shown := point - 1
    let sign := if shown < 0 then '-' else '+'
    let fraction := if digits.length = 1 then [] else '.' :: digits.drop 1
    digits.take 1 ++ fraction ++ ['e', sign] ++ Nat.toDigits 10 shown.natAbs

end NamedParams.Number
