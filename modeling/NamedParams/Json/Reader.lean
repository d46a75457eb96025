import NamedParams.Json.Value
import NamedParams.Text.Escape

namespace NamedParams.Json

open NamedParams.Number NamedParams.Text

/-- The white space of data documents. -/
def isSpace (c : Char) : Bool :=
  c == ' ' || c == '\t' || c == '\n' || c == '\r'

def skipSpace (text : List Char) : List Char :=
  text.dropWhile isSpace

/-- The character that a backslash and a letter stand for. -/
def escaped? : Char → Option Char
  | '\x22' => some '\x22'
  | '\\' => some '\\'
  | '/' => some '/'
  | 'b' => some '\x08'
  | 'f' => some '\x0c'
  | 'n' => some '\n'
  | 'r' => some '\r'
  | 't' => some '\t'
  | _ => none

/-- Reads the inside of a quoted text up to its closing quote, as code points and code units. -/
def readQuoted (taken : List Nat) : List Char → Option (List Nat × List Char)
  | [] => none
  | '\x22' :: rest => some (taken.reverse, rest)
  | '\\' :: 'u' :: a :: b :: c :: d :: rest =>
    match hexDigit? a, hexDigit? b, hexDigit? c, hexDigit? d with
    | some a, some b, some c, some d =>
      readQuoted ((4096 * a + 256 * b + 16 * c + d) :: taken) rest
    | _, _, _, _ => none
  | '\\' :: c :: rest =>
    match escaped? c with
    | some c => readQuoted (c.toNat :: taken) rest
    | none => none
  | c :: rest => if c.toNat < 0x20 then none else readQuoted (c.toNat :: taken) rest

/-- Reads a quoted text after its opening quote. -/
def readString (text : List Char) : Option (String × List Char) :=
  (readQuoted [] text).map fun (codes, rest) => (String.ofList (pairSurrogates codes), rest)

/-- Reads digits into a number, with how many they are. -/
def readDigits (value count : Nat) : List Char → Nat × Nat × List Char
  | [] => (value, count, [])
  | c :: rest =>
    if c.isDigit then readDigits (10 * value + (c.toNat - '0'.toNat)) (count + 1) rest
    else (value, count, c :: rest)

/-- Reads an exponent, if there is one. -/
def readExponent : List Char → Option (Int × List Char)
  | c :: rest =>
    if c == 'e' || c == 'E' then
      let (negative, rest) :=
        match rest with
        | '-' :: rest => (true, rest)
        | '+' :: rest => (false, rest)
        | rest => (false, rest)
      match readDigits 0 0 rest with
      | (_, 0, _) => none
      | (value, _, rest) => some (if negative then -(value : Int) else value, rest)
    else some (0, c :: rest)
  | [] => some (0, [])

/-- A decimal as the number that it reads as. Exponents far beyond the range need no digits. -/
def numberOf (negative : Bool) (digits : Nat) (exponent : Int) : JsonNumber :=
  if digits = 0 then .finite negative ⟨0, 0⟩
  else
    let first := exponent + (Nat.toDigits 10 digits).length
    if 400 < first then .infinite negative
    else if first < -400 then .finite negative ⟨0, 0⟩
    else
      match (Decimal.mk digits exponent).rounded? with
      | some decimal => .finite negative decimal
      | none => .infinite negative

/-- Reads the digits, fraction and exponent of a number. No number starts with a needless zero. -/
def readMagnitude (negative : Bool) (text : List Char) : Option (JsonNumber × List Char) :=
  let (whole, count, rest) := readDigits 0 0 text
  if count = 0 || (1 < count && text.head? == some '0') then none
  else
    match rest with
    | '.' :: rest =>
      let (digits, places, rest) := readDigits whole 0 rest
      if places = 0 then none
      else (readExponent rest).map fun (exponent, rest) =>
        (numberOf negative digits (exponent - places), rest)
    | rest =>
      (readExponent rest).map fun (exponent, rest) =>
        (numberOf negative whole exponent, rest)

/-- Whether a key is the position of an element: such keys come first in an object. -/
def index? (key : String) : Option Nat :=
  match key.toList with
  | [] => none
  | ['0'] => some 0
  | digits =>
    if digits.all Char.isDigit && digits.head? != some '0' && digits.length ≤ 10 then
      let n := (readDigits 0 0 digits).1
      if n < 4294967295 then some n else none
    else none

/-- The place of a new key among the members of an object. -/
def insertMember (key : String) (value : Json) : List (String × Json) → List (String × Json)
  | [] => [(key, value)]
  | (other, old) :: rest =>
    match index? key, index? other with
    | some n, some m => if n < m then (key, value) :: (other, old) :: rest
      else (other, old) :: insertMember key value rest
    | some _, none => (key, value) :: (other, old) :: rest
    | none, _ => (other, old) :: insertMember key value rest

/-- Adds a member. A later value of a key replaces the earlier one in its place; keys that are
    positions come first, in rising order, and all others in the order of their first mention. -/
def setMember (members : List (String × Json)) (key : String) (value : Json) :
    List (String × Json) :=
  if members.any (·.1 == key) then
    members.map fun member => if member.1 == key then (key, value) else member
  else insertMember key value members

/-- What the reader expects next, for a limited depth of nesting. -/
inductive Expected where
  | value
  | elements (done : List Json)
  | members (done : List (String × Json))

/-- Reads what is expected. `fuel` bounds the number of steps. -/
def readExpected : Nat → Expected → List Char → Option (Json × List Char)
  | 0, _, _ => none
  | fuel + 1, .value, text =>
    match skipSpace text with
    | 'n' :: 'u' :: 'l' :: 'l' :: rest => some (.null, rest)
    | 't' :: 'r' :: 'u' :: 'e' :: rest => some (.bool true, rest)
    | 'f' :: 'a' :: 'l' :: 's' :: 'e' :: rest => some (.bool false, rest)
    | '\x22' :: rest => (readString rest).map fun (value, rest) => (.string value, rest)
    | '[' :: rest =>
      match skipSpace rest with
      | ']' :: rest => some (.array [], rest)
      | rest => readExpected fuel (.elements []) rest
    | '\x7b' :: rest =>
      match skipSpace rest with
      | '\x7d' :: rest => some (.object [], rest)
      | rest => readExpected fuel (.members []) rest
    | '-' :: rest => (readMagnitude true rest).map fun (value, rest) => (.number value, rest)
    | rest => (readMagnitude false rest).map fun (value, rest) => (.number value, rest)
  | fuel + 1, .elements done, text =>
    (readExpected fuel .value text).bind fun (element, rest) =>
      match skipSpace rest with
      | ',' :: rest => readExpected fuel (.elements (element :: done)) rest
      | ']' :: rest => some (.array (element :: done).reverse, rest)
      | _ => none
  | fuel + 1, .members done, text =>
    match skipSpace text with
    | '\x22' :: rest =>
      (readString rest).bind fun (key, rest) =>
        match skipSpace rest with
        | ':' :: rest =>
          (readExpected fuel .value rest).bind fun (value, rest) =>
            let members := setMember done key value
            match skipSpace rest with
            | ',' :: rest => readExpected fuel (.members members) rest
            | '\x7d' :: rest => some (.object members, rest)
            | _ => none
        | _ => none
    | _ => none

/-- Reads a document. Every step takes a character, so twice its length bounds their number. -/
def parse (text : String) : Option Json :=
  match readExpected (2 * text.length + 2) .value text.toList with
  | some (value, rest) => if (skipSpace rest).isEmpty then some value else none
  | none => none

end NamedParams.Json
