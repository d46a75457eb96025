import NamedParams.Source.Characters

namespace NamedParams.Source

open NamedParams.Text

/-- How far a quoted literal reaches after its opening quote, the closing quote included.
    A backslash hides the character after it. -/
def quotedLength (quote : Char) : List Char → Nat
  | [] => 0
  | '\\' :: _ :: rest => 2 + quotedLength quote rest
  | c :: rest => if c == quote then 1 else 1 + quotedLength quote rest

/-- How far a piece of a template reaches, with the mark that ends it, and whether that mark
    opens a substitution. -/
def templateLength : List Char → Nat × Bool
  | [] => (0, false)
  | '\\' :: _ :: rest => let (n, opens) := templateLength rest; (n + 2, opens)
  | '$' :: '\x7b' :: _ => (2, true)
  | c :: rest =>
    if c == '\x60' then (1, false)
    else let (n, opens) := templateLength rest; (n + 1, opens)

/-- How far the body of a regular expression reaches after its opening slash, the closing slash
    included. A slash inside brackets does not close it. -/
def regexLength (bracketed : Bool) : List Char → Nat
  | [] => 0
  | '\\' :: _ :: rest => 2 + regexLength bracketed rest
  | c :: rest =>
    if c == '/' && !bracketed then 1
    else if c == '[' then 1 + regexLength true rest
    else if c == ']' then 1 + regexLength false rest
    else 1 + regexLength bracketed rest

/-- The number of leading characters that satisfy `p`. -/
def countWhile (p : Char → Bool) : List Char → Nat
  | [] => 0
  | c :: rest => if p c then 1 + countWhile p rest else 0

def isDecimalPart (c : Char) : Bool :=
  c.isDigit || c == '_'

/-- How far an exponent reaches, if there is one. -/
def exponentLength : List Char → Nat
  | e :: sign :: digit :: rest =>
    if e == 'e' || e == 'E' then
      if sign.isDigit then 1 + countWhile isDecimalPart (sign :: digit :: rest)
      else if (sign == '+' || sign == '-') && digit.isDigit then
        2 + countWhile isDecimalPart (digit :: rest)
      else 0
    else 0
  | [e, digit] => if (e == 'e' || e == 'E') && digit.isDigit then 2 else 0
  | _ => 0

/-- How far a fraction reaches, with its point. -/
def fractionLength : List Char → Nat
  | '.' :: rest => 1 + countWhile isDecimalPart rest
  | _ => 0

/-- How far a numeric literal reaches: a radix mark and digits, or digits with an optional
    fraction and exponent, and a suffix `n` for large integers. -/
def numberLength (text : List Char) : Nat :=
  match text with
  | '0' :: mark :: rest =>
    if mark == 'x' || mark == 'X' || mark == 'o' || mark == 'O' || mark == 'b' || mark == 'B' then
      2 + countWhile isNamePart rest
    else decimal
  | _ => decimal
where
  decimal : Nat :=
    let whole := countWhile isDecimalPart text
    let afterWhole := text.drop whole
    let fraction := fractionLength afterWhole
    let exponent := exponentLength (afterWhole.drop fraction)
    let length := whole + fraction + exponent
    if (text.drop length).head? == some 'n' then length + 1 else length

/-- The character that a backslash followed by a single letter stands for. -/
def simpleEscape (c : Char) : Char :=
  match c with
  | 'n' => '\n'
  | 't' => '\t'
  | 'r' => '\r'
  | 'b' => '\x08'
  | 'v' => '\x0b'
  | 'f' => '\x0c'
  | '0' => '\x00'
  | _ => c

/-- The code points and code units that the inside of a quoted literal stands for. The first
    `inside` characters belong to an escape that is already read. -/
def literalCodes (inside : Nat) : List Char → List Nat
  | [] => []
  | c :: rest =>
    if 0 < inside then literalCodes (inside - 1) rest
    else if c == '\\' then
      match rest with
      | [] => []
      | '\r' :: '\n' :: _ => literalCodes 2 rest
      | 'x' :: a :: b :: _ =>
        match hexDigit? a, hexDigit? b with
        | some a, some b => (16 * a + b) :: literalCodes 3 rest
        | _, _ => 'x'.toNat :: literalCodes 1 rest
      | e :: _ =>
        match unicodeEscape? rest with
        | some (code, taken) => code :: literalCodes taken rest
        | none =>
          if isLineBreak e then literalCodes 1 rest
          else (simpleEscape e).toNat :: literalCodes 1 rest
    else c.toNat :: literalCodes 0 rest

/-- The text that a quoted literal stands for, quotes included in the spelling. -/
def literalValue (spelling : List Char) : String :=
  String.ofList (pairSurrogates (literalCodes 0 (spelling.drop 1).dropLast))

end NamedParams.Source
