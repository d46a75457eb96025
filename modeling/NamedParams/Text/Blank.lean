namespace NamedParams.Text

/-- White space around words: that of all scripts, the ends of lines and the byte order mark. -/
def isWhite (c : Char) : Bool :=
  c == ' ' || ('\t' ≤ c && c ≤ '\r') || c == '\u00a0' || c == '\u1680' ||
  (0x2000 ≤ c.toNat && c.toNat ≤ 0x200a) || c == '\u2028' || c == '\u2029' || c == '\u202f' ||
  c == '\u205f' || c == '\u3000' || c == '\ufeff'

def trimStart (text : List Char) : List Char :=
  text.dropWhile isWhite

def trimEnd (text : List Char) : List Char :=
  (text.reverse.dropWhile isWhite).reverse

/-- The text without white space at its ends. -/
def trim (text : List Char) : List Char :=
  trimEnd (trimStart text)

end NamedParams.Text
