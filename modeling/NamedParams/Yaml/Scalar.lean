import NamedParams.Json.Reader
import NamedParams.Number.Numeral
import NamedParams.Text.Escape

namespace NamedParams.Yaml

open NamedParams.Number NamedParams.Text

/-- The sign of a number, and the rest of its text. -/
def splitSign : List Char → Bool × List Char
  | '-' :: rest => (true, rest)
  | '+' :: rest => (false, rest)
  | text => (false, text)

/-- Digits may be grouped by underscores, but do not end in one. -/
def digits? (isDigit : Char → Bool) (text : List Char) : Option (List Char) :=
  let digits := text.filter (· != '_')
  if digits.isEmpty || !digits.all isDigit || text.getLast? == some '_' then none
  else some digits

/-- The number that digits of a base write. -/
def numberIn (base : Nat) (digits : List Char) : Nat :=
  digits.foldl (fun n c => base * n + (hexDigit? c).getD 0) 0

/-- The size of a whole number, with a base in front or in decimal digits. -/
def wholeNumber? : List Char → Option Nat
  | '0' :: 'b' :: text => (digits? (fun c => c == '0' || c == '1') text).map (numberIn 2)
  | '0' :: 'o' :: text => (digits? (fun c => '0' ≤ c && c ≤ '7') text).map (numberIn 8)
  | '0' :: 'x' :: text => (digits? (fun c => (hexDigit? c).isSome) text).map (numberIn 16)
  | '_' :: _ | '0' :: '_' :: _ => none
  | text => (digits? Char.isDigit text).map numeral

/-- The exponent at the end of a number. -/
def exponent? : List Char → Option Int
  | [] => some 0
  | e :: rest =>
    let (negative, digits) := splitSign rest
    if (e == 'e' || e == 'E') && !digits.isEmpty && digits.all Char.isDigit then
      some (if negative then -(numeral digits : Int) else numeral digits)
    else none

def isGrouped (c : Char) : Bool :=
  c.isDigit || c == '_'

/-- A decimal fraction. Only digits with a point in front need none before it. -/
def fraction? (negative : Bool) (text : List Char) : Option JsonNumber :=
  let whole := text.takeWhile isGrouped
  let (places, rest) := match text.dropWhile isGrouped with
    | '.' :: rest => (rest.takeWhile isGrouped, rest.dropWhile isGrouped)
    | rest => ([], rest)
  let digits := (whole ++ places).filter (· != '_')
  let fine := if whole.isEmpty then !places.isEmpty else whole.head? != some '_'
  if !fine || text.getLast? == some '_' then none
  else (exponent? rest).map fun exponent =>
    Json.numberOf negative (numeral digits)
      (exponent - (places.filter (· != '_')).length)

/-- A whole number with its sign. -/
def integer? (text : List Char) : Option JsonNumber :=
  let (negative, size) := splitSign text
  (wholeNumber? size).map fun n => Json.numberOf negative n 0

/-- A number in decimal digits, or one that is infinite. What is explicitly no number counts as
    infinite. -/
def decimal? (text : List Char) : Option JsonNumber :=
  let (negative, size) := splitSign text
  if [".inf", ".Inf", ".INF"].contains (String.ofList size) then some (.infinite negative)
  else if [".nan", ".NaN", ".NAN"].contains (String.ofList text) then some (.infinite false)
  else if size.head? == some '.' && size.length < text.length then none
  else fraction? negative size

/-- The number that a plain text writes. -/
def number? (text : List Char) : Option JsonNumber :=
  (integer? text).or (decimal? text)

/-- Takes the digits of a field of a date, of which there are at least and at most so many. -/
def dateField (least most : Nat) (text : List Char) : Option (List Char) :=
  let count := min most (text.takeWhile Char.isDigit).length
  if least ≤ count then some (text.drop count) else none

/-- Takes a character in front of a text. -/
def after (c : Char) : List Char → Option (List Char)
  | d :: rest => if c == d then some rest else none
  | [] => none

/-- Whether a text is a day. -/
def isDay (text : List Char) : Bool :=
  ((((dateField 4 4 text).bind (after '-')).bind (dateField 2 2)).bind (after '-')).bind
    (dateField 2 2) == some []

/-- Whether a text is an offset from universal time, if it is anything. -/
def isZone (text : List Char) : Bool :=
  match text.dropWhile isTimeBlank with
  | [] => text.isEmpty
  | ['Z'] => true
  | sign :: rest =>
    (sign == '-' || sign == '+') &&
      match dateField 1 2 rest with
      | some [] => true
      | some (':' :: rest) => dateField 2 2 rest == some []
      | _ => false
where
  isTimeBlank (c : Char) : Bool := c == ' ' || c == '\t'

/-- Whether a text is a time of a day. -/
def isTime (text : List Char) : Bool :=
  let hour? := match text with
    | 'T' :: rest | 't' :: rest => some rest
    | c :: _ => if c == ' ' || c == '\t' then some (text.dropWhile isZone.isTimeBlank) else none
    | [] => none
  let second? := ((((hour?.bind (dateField 1 2)).bind (after ':')).bind (dateField 2 2)).bind
    (after ':')).bind (dateField 2 2)
  match second? with
  | some ('.' :: rest) => isZone (rest.dropWhile Char.isDigit)
  | some rest => isZone rest
  | none => false

/-- Whether a text is a point in time: a day, or a day and a time. -/
def isTimestamp (text : List Char) : Bool :=
  isDay text ||
    match (((dateField 4 4 text).bind (after '-')).bind (dateField 1 2)).bind (after '-') |>.bind
        (dateField 1 2) with
    | some rest => isTime rest
    | none => false

/-- What a plain text stands for. -/
inductive PlainValue where
  | text
  | mergeKey
  | data (value : Json)
deriving Inhabited

/-- Reads a plain text: null, a truth value, a number, a point in time (a value without members)
    or the key that merges mappings. All others are texts. -/
def plainValue (text : String) : PlainValue :=
  if ["~", "null", "Null", "NULL"].contains text then .data .null
  else if ["true", "True", "TRUE"].contains text then .data (.bool true)
  else if ["false", "False", "FALSE"].contains text then .data (.bool false)
  else match number? text.toList with
    | some number => .data (.number number)
    | none =>
      if isTimestamp text.toList then .data (.object [])
      else if text = "<<" then .mergeKey
      else .text

end NamedParams.Yaml
