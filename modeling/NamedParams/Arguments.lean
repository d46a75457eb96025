import NamedParams.Number.Nearest
import NamedParams.Number.Numeral
import NamedParams.Text.Blank

namespace NamedParams

open NamedParams.Number NamedParams.Text

/-- The words of a list with commas, without blanks around them; a list without any is none. -/
def listArgument? (value : String) : Option (List String) :=
  let words := ((value.toList.splitOn ',').map trim).filter (!·.isEmpty)
  if words.isEmpty then none else some (words.map String.ofList)

/-- The positive integer with which a text starts, rounded to floating point. Blanks and a plus
    may stand before its digits, and anything after them. -/
def positiveArgument? (value : String) : Option Nat :=
  let text := trimStart value.toList
  let digits := (match text with
    | '+' :: rest => rest
    | rest => rest).takeWhile Char.isDigit
  let n := roundNat (numeral digits)
  if n = 0 || overflowBound ≤ n then none else some n

end NamedParams
