import NamedParams.Text.Escape

namespace NamedParams.Source

open NamedParams.Text

/-- The characters that end a line between tokens. -/
def isLineBreak (c : Char) : Bool :=
  c == '\n' || c == '\r' || c == '\u2028' || c == '\u2029'

/-- White space inside a line. -/
def isBlank (c : Char) : Bool :=
  c == ' ' || c == '\t' || c == '\x0b' || c == '\x0c' || c == '\u00a0' || c == '\u0085' ||
  c == '\u1680' || (0x2000 ≤ c.toNat && c.toNat ≤ 0x200b) || c == '\u202f' || c == '\u205f' ||
  c == '\u3000' || c == '\ufeff'

/-- The characters that start a name. Outside literals and comments a text has no other
    characters beyond ASCII than those of names and white space, so all the rest are letters. -/
def isNameStart (c : Char) : Bool :=
  c.isAlpha || c == '$' || c == '_' || (0x80 ≤ c.toNat && !isBlank c && !isLineBreak c)

/-- The characters that continue a name. -/
def isNamePart (c : Char) : Bool :=
  isNameStart c || c.isDigit

/-- Reads the digits of a braced escape up to its closing brace, with the number of characters
    read. -/
def bracedEscape? (value taken : Nat) : List Char → Option (Nat × Nat)
  | [] => none
  | c :: rest =>
    if c == '\x7d' then some (value, taken + 1)
    else match hexDigit? c with
      | some digit => bracedEscape? (16 * value + digit) (taken + 1) rest
      | none => none

/-- Reads a Unicode escape that follows a backslash: the code unit or point that it names, and
    the number of characters it takes after the backslash. -/
def unicodeEscape? : List Char → Option (Nat × Nat)
  | 'u' :: '\x7b' :: rest => bracedEscape? 0 2 rest
  | 'u' :: a :: b :: c :: d :: _ =>
    match hexDigit? a, hexDigit? b, hexDigit? c, hexDigit? d with
    | some a, some b, some c, some d => some (4096 * a + 256 * b + 16 * c + d, 5)
    | _, _, _, _ => none
  | _ => none

/-- How far a name reaches, when the first `inside` characters still belong to an escape. -/
def nameLength (inside : Nat) : List Char → Nat
  | [] => 0
  | c :: rest =>
    if 0 < inside then 1 + nameLength (inside - 1) rest
    else if isNamePart c then 1 + nameLength 0 rest
    else if c == '\\' then
      match unicodeEscape? rest with
      | some (_, taken) => 1 + nameLength taken rest
      | none => 0
    else 0

theorem nameLength_le_length (inside : Nat) (text : List Char) :
    nameLength inside text ≤ text.length := by
  induction text generalizing inside with
  | nil => simp [nameLength]
  | cons c rest ih =>
    unfold nameLength
    split
    · have hrest := ih (inside - 1)
      simp only [List.length_cons]
      omega
    · split
      · have hrest := ih 0
        simp only [List.length_cons]
        omega
      · split
        · split
          · next taken _ =>
            have hrest := ih taken
            simp only [List.length_cons]
            omega
          · omega
        · omega

/-- The name that a spelling stands for: its escapes are replaced by their characters. -/
def unescapeName (inside : Nat) : List Char → List Char
  | [] => []
  | c :: rest =>
    if 0 < inside then unescapeName (inside - 1) rest
    else if c == '\\' then
      match unicodeEscape? rest with
      | some (code, taken) => Char.ofNat code :: unescapeName taken rest
      | none => c :: unescapeName 0 rest
    else c :: unescapeName 0 rest

/-- Whether a name starts here, with a letter or an escape. -/
def startsName : List Char → Bool
  | [] => false
  | c :: rest => isNameStart c || (c == '\\' && (unicodeEscape? rest).isSome)

end NamedParams.Source
