import NamedParams.Number.Decimal

namespace NamedParams

open NamedParams.Number

/-- The numbers of a data document, in their shortest decimal form. -/
inductive JsonNumber where
  | finite (negative : Bool) (decimal : Decimal)
  | infinite (negative : Bool)
deriving DecidableEq, Repr, Inhabited

/-- The values of a data document. The members of an object keep their order. -/
inductive Json where
  | null
  | bool (value : Bool)
  | number (value : JsonNumber)
  | string (value : String)
  | array (elements : List Json)
  | object (members : List (String × Json))
deriving Inhabited

namespace Json

def ofNat (n : Nat) : Json :=
  .number (.finite false (Decimal.ofNat n))

/-- The member of an object with the given key. -/
def get? (key : String) : Json → Option Json
  | .object members => (members.find? (·.1 == key)).map Prod.snd
  | _ => none

def string? : Json → Option String
  | .string value => some value
  | _ => none

def array? : Json → Option (List Json)
  | .array elements => some elements
  | _ => none

def object? : Json → Option (List (String × Json))
  | .object members => some members
  | _ => none

end Json

/-- The text of a number. A negative zero has no sign. -/
def JsonNumber.text : JsonNumber → List Char
  | .finite negative decimal =>
    if negative && decimal.digits != 0 then '-' :: decimal.text else decimal.text
  | .infinite negative => if negative then "-Infinity".toList else "Infinity".toList

def JsonNumber.isZero : JsonNumber → Bool
  | .finite _ decimal => decimal.digits = 0
  | .infinite _ => false

/-- The number without its fraction. -/
def JsonNumber.toInt : JsonNumber → Int
  | .finite negative decimal =>
    let magnitude : Nat :=
      if 0 ≤ decimal.exponent then decimal.digits * Nat.pow 10 decimal.exponent.toNat
      else decimal.digits / Nat.pow 10 (-decimal.exponent).toNat
    if negative then -magnitude else magnitude
  | .infinite _ => 0

end NamedParams
