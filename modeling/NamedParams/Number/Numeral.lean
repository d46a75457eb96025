namespace NamedParams.Number

/-- The number that decimal digits write. -/
def numeral (digits : List Char) : Nat :=
  digits.foldl (fun n c => 10 * n + (c.toNat - '0'.toNat)) 0

end NamedParams.Number
