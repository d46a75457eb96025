import NamedParams.Terminal.Picture

namespace NamedParams.Terminal

def isEscape (c : Char) : Bool := c == '\x1b' || c == '\u009b'

/-- The characters after which a terminal code is complete. -/
def endsCode (c : Char) : Bool :=
  c.isDigit || ('A' ≤ c && c ≤ 'P') || ('R' ≤ c && c ≤ 'T') || c == 'Z' || c == 'c' ||
  ('f' ≤ c && c ≤ 'n') || ('q' ≤ c && c ≤ 'u') || c == 'y' || c == '=' || c == '>' || c == '<' ||
  c == '~' || c == 'r'

/-- The length of the numbers of a code: up to four digits each, after the first none at all. -/
def numbersLength : Nat → Nat → List Char → Nat
  | 0, _, _ => 0
  | fuel + 1, digits, c :: rest =>
    if c.isDigit then if digits < 4 then 1 + numbersLength fuel (digits + 1) rest else 0
    else if c == ';' then 1 + numbersLength fuel 0 rest
    else 0
  | _, _, [] => 0

/-- The length of the longest code among the first `limit` characters, its last one included. -/
def longestCode (text : List Char) : Nat → Nat
  | 0 => match text with
    | c :: _ => if endsCode c then 1 else 0
    | [] => 0
  | limit + 1 =>
    match text[limit + 1]? with
    | some c => if endsCode c then limit + 2 else longestCode text limit
    | none => longestCode text limit

/-- The length of a terminal code after its escape, or zero if there is none. -/
def codeLength (text : List Char) : Nat :=
  let start := (text.takeWhile "[]()#;?".toList.contains).length
  let rest := text.drop start
  let link := (rest.takeWhile fun c => c != '\x07' && !isEscape c).length
  if (rest.drop link).head? == some '\x07' then start + link + 1
  else
    let numbers := match rest with
      | c :: _ => if c.isDigit then numbersLength rest.length 0 rest else 0
      | [] => 0
    let length := longestCode rest numbers
    if length = 0 then 0 else start + length

/-- The text without terminal codes. -/
def stripCodes : Nat → List Char → List Char
  | 0, text => text
  | fuel + 1, c :: rest =>
    let length := codeLength rest
    if isEscape c && length != 0 then stripCodes fuel (rest.drop length)
    else c :: stripCodes fuel rest
  | _, [] => []

/-- The characters that take two columns. -/
def wideCharacters : Characters :=
  [(0x1100, 0x115F), (0x2329, 0x232A), (0x2E80, 0x303E), (0x3040, 0x3247), (0x3250, 0x4DBF),
    (0x4E00, 0xA4C6), (0xA960, 0xA97C), (0xAC00, 0xD7A3), (0xF900, 0xFAFF), (0xFE10, 0xFE19),
    (0xFE30, 0xFE6B), (0xFF01, 0xFF60), (0xFFE0, 0xFFE6), (0x1B000, 0x1B001), (0x1F200, 0x1F251),
    (0x20000, 0x3FFFD)]

def isWide (c : Char) : Bool := isIn wideCharacters c

/-- The columns of a character by itself. Control characters and accents take none. -/
def columnsOf (c : Char) : Nat :=
  if c.toNat ≤ 0x1F || (0x7F ≤ c.toNat && c.toNat ≤ 0x9F) then 0
  else if 0x300 ≤ c.toNat && c.toNat ≤ 0x36F then 0
  else if isWide c then 2
  else 1

/-- The columns of a text without terminal codes. A picture takes two. -/
def columnsFrom : Nat → List Char → Nat
  | 0, _ => 0
  | fuel + 1, c :: rest =>
    let taken := picture (c :: rest)
    if taken = 0 then columnsOf c + columnsFrom fuel rest
    else 2 + columnsFrom fuel (rest.drop (taken - 1))
  | _, [] => 0

/-- The columns that a text takes on a terminal. -/
def width (text : List Char) : Nat :=
  let shown := stripCodes text.length text
  columnsFrom shown.length shown

end NamedParams.Terminal
