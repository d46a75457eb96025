import NamedParams.Text.Units

namespace NamedParams.Glob

open NamedParams.Text

/-- The named character classes. -/
inductive NamedClass where
  | alnum | alpha | ascii | blank | cntrl | digit | graph | lower | print | punct | space | upper
  | word | xdigit
deriving DecidableEq, Repr

/-- The letters beyond ASCII, as far as blocks of symbols, marks and spaces tell. -/
def isFarLetter (c : Char) : Bool :=
  c == '\u00aa' || c == '\u00b5' || c == '\u00ba' ||
  (0xC0 ≤ c.toNat && c.toNat < 0x300 && c != '\u00d7' && c != '\u00f7') ||
  (0x370 ≤ c.toNat && c.toNat < 0x2000) ||
  (0x2C00 ≤ c.toNat && c.toNat < 0x2E00) ||
  (0x3040 ≤ c.toNat && c.toNat < 0xD800) ||
  (0xF900 ≤ c.toNat && c.toNat < 0xFE00) ||
  (0xFF21 ≤ c.toNat && c.toNat < 0xFFE0) ||
  (0x20000 ≤ c.toNat && c.toNat < 0xE0000)

def isFarSpace (c : Char) : Bool :=
  c == '\u00a0' || c == '\u1680' || (0x2000 ≤ c.toNat && c.toNat ≤ 0x200a) || c == '\u202f' ||
  c == '\u205f' || c == '\u3000'

/-- The characters that separate lines and paragraphs. -/
def isSeparator (c : Char) : Bool :=
  c == '\u2028' || c == '\u2029'

def isControl (c : Char) : Bool :=
  c.toNat < 0x20 || (0x7f ≤ c.toNat && c.toNat < 0xa0)

def isAsciiPunctuation (c : Char) : Bool :=
  0x20 < c.toNat && c.toNat < 0x7f && !c.isAlphanum

/-- Whether a character is in a named class of a filter. Letters, spaces and the like are those of
    all scripts, but other than in ASCII they are told by blocks and not one by one, so characters
    that a block does not fit, as far digits or unassigned ones, are taken for others. Printed
    characters are the wrong way round, as filters have them. -/
def NamedClass.contains (name : NamedClass) (c : Char) : Bool :=
  match name with
  | alnum => c.isAlphanum || isFarLetter c
  | alpha => c.isAlpha || isFarLetter c
  | ascii => c.toNat < 0x80
  | blank => c == ' ' || c == '\t' || isFarSpace c
  | cntrl => isControl c
  | digit => c.isDigit
  | graph => !isControl c && c != ' ' && !isFarSpace c && !isSeparator c
  | lower => c.isLower || c == '\u00b5' || (isFarLetter c && 0xdf ≤ c.toNat && c.toNat < 0x100)
  | print => isControl c
  | punct => isAsciiPunctuation c && !"$+<=>^\x60|~".toList.contains c
  | space => c == ' ' || ('\t' ≤ c && c ≤ '\r') || isFarSpace c || isSeparator c
  | upper => c.isUpper || (0xc0 ≤ c.toNat && c.toNat < 0xdf && c != '\u00d7')
  | word => c.isAlphanum || c == '_' || isFarLetter c
  | xdigit => c.isDigit || ('a' ≤ c && c ≤ 'f') || ('A' ≤ c && c ≤ 'F')

/-- Whether a character is in a named class of a search. These classes need no more than ASCII. -/
def NamedClass.containsAscii (name : NamedClass) (c : Char) : Bool :=
  c.toNat < 0x80 &&
    match name with
    | print => !isControl c
    | punct => isAsciiPunctuation c && c != '\\'
    | _ => name.contains c

/-- The codes of a text: of its characters if `wide`, else its code units. -/
def codes (wide : Bool) (text : List Char) : List Nat :=
  if wide then text.map Char.toNat else encode text

inductive ClassItem where
  | range (first last : Nat)
  | named (everyScript : Bool) (name : NamedClass)
deriving DecidableEq, Repr

/-- Whether a code is in a class. No surrogate is in a named one. -/
def ClassItem.contains (item : ClassItem) (code : Nat) : Bool :=
  match item with
  | range first last => first ≤ code && code ≤ last
  | named everyScript name =>
    let c := Char.ofNat code
    c.toNat == code && if everyScript then name.contains c else name.containsAscii c

/-- How often a group may occur. -/
inductive Times where
  | once
  | atMostOnce
  | atLeastOnce
  | anyNumber
deriving DecidableEq, Repr

/-- The pieces of a pattern for one segment of a path, which they see as a list of codes. The last
    three stand for no text and look at what follows. -/
inductive Piece where
  | literal (code : Nat)
  | one
  | many
  | oneOf (negated : Bool) (items : List ClassItem)
  | group (times : Times) (alternatives : List (List Piece))
  /-- Any text, unless an alternative fits here; it has to fit the whole rest if `whole`. -/
  | except (whole : Bool) (alternatives : List (List Piece))
  /-- The segment does not go on with a point. -/
  | visible
  /-- What is left is not the name of a directory itself or of the one above it. -/
  | noDots
  | nonEmpty
deriving Repr, Inhabited

/-- The code of a point. -/
def point : Nat := '.'.toNat

/-- Whether some end of the text is accepted. -/
def anySuffix (next : List Nat → Bool) : List Nat → Bool
  | [] => next []
  | code :: rest => next (code :: rest) || anySuffix next rest

/-- Takes a step again and again, each time for a longer text, and then goes on. -/
def repeatThen (step : (List Nat → Bool) → List Nat → Bool) (next : List Nat → Bool) :
    Nat → List Nat → Bool
  | 0, text => next text
  | fuel + 1, text =>
    next text ||
      step (fun rest => rest.length < text.length && repeatThen step next fuel rest) text

mutual

/-- Whether a piece fits the start of a text such that `next` accepts what is left. -/
def Piece.run : Piece → (List Nat → Bool) → List Nat → Bool
  | .literal code, next, text =>
    match text with
    | first :: rest => first == code && next rest
    | [] => false
  | .one, next, text =>
    match text with
    | _ :: rest => next rest
    | [] => false
  | .many, next, text => anySuffix next text
  | .oneOf negated items, next, text =>
    match text with
    | first :: rest => (items.any (·.contains first)) != negated && next rest
    | [] => false
  | .group .once alternatives, next, text => runAny alternatives next text
  | .group .atMostOnce alternatives, next, text => next text || runAny alternatives next text
  | .group .atLeastOnce alternatives, next, text =>
    runAny alternatives (repeatThen (runAny alternatives) next text.length) text
  | .group .anyNumber alternatives, next, text =>
    repeatThen (runAny alternatives) next text.length text
  | .except whole alternatives, next, text =>
    !runAny alternatives (if whole then next else fun _ => true) text && anySuffix next text
  | .visible, next, text => text.head? != some point && next text
  | .noDots, next, text => text != [point] && text != [point, point] && next text
  | .nonEmpty, next, text => !text.isEmpty && next text

/-- Whether pieces fit one after the other. -/
def runAll : List Piece → (List Nat → Bool) → List Nat → Bool
  | [], next, text => next text
  | piece :: rest, next, text => piece.run (runAll rest next) text

/-- Whether one of several alternatives fits. -/
def runAny : List (List Piece) → (List Nat → Bool) → List Nat → Bool
  | [], _, _ => false
  | pieces :: rest, next, text => runAll pieces next text || runAny rest next text

end

/-- A pattern for some segments of a path. -/
inductive Part where
  /-- Any number of segments. Hidden ones are those that start with a point. -/
  | deep (hidden : Bool)
  /-- One segment, of which the pieces see the characters if `wide`, else the code units. -/
  | segment (wide : Bool) (pieces : List Piece)
deriving Repr, Inhabited

/-- The segments that a pattern for any number of them may pass over. -/
def passable (hidden : Bool) (segment : List Char) : Bool :=
  if hidden then segment != ['.'] && segment != ['.', '.'] else segment.head? != some '.'

/-- Passes over segments until the rest of the path is accepted. -/
def passThen (hidden : Bool) (next : List (List Char) → Bool) : List (List Char) → Bool
  | [] => next []
  | segment :: rest =>
    next (segment :: rest) || (passable hidden segment && passThen hidden next rest)

/-- Whether the parts of a pattern fit all segments of a path. -/
def fits : List Part → List (List Char) → Bool
  | [], path => path.isEmpty
  | .deep hidden :: rest, path => passThen hidden (fits rest) path
  | .segment wide pieces :: rest, path =>
    match path with
    | segment :: more => runAll pieces List.isEmpty (codes wide segment) && fits rest more
    | [] => false

end NamedParams.Glob
