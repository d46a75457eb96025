namespace NamedParams.Yaml

def isBreak (c : Char) : Bool :=
  c == '\n' || c == '\r'

def isBlank (c : Char) : Bool :=
  c == ' ' || c == '\t'

/-- Whether a character, if there is one, separates words. -/
def isSeparator (c : Option Char) : Bool :=
  c.any fun c => isBlank c || isBreak c

/-- The characters that build lists and mappings inside of a line. -/
def isFlowSign (c : Char) : Bool :=
  c == ',' || c == '[' || c == ']' || c == '\x7b' || c == '\x7d'

/-- A place in a document, with what is in its line up to there: how far the line is indented,
    and whether a tab has stood between words. -/
structure Cursor where
  rest : List Char
  line : Nat
  column : Nat
  indent : Nat
  hasTab : Bool
deriving Repr, Inhabited

/-- What is skipped at a place between words. -/
inductive Gap where
  | indentation
  | blanks
  | comment
deriving DecidableEq, Repr

namespace Cursor

def peek (place : Cursor) : Option Char :=
  place.rest.head?

/-- The character behind the next one. -/
def following (place : Cursor) : Option Char :=
  (place.rest.drop 1).head?

/-- The place some characters further in the line. -/
def skip (place : Cursor) (count : Nat) : Cursor :=
  { place with rest := place.rest.drop count, column := place.column + count }

/-- The start of the next line. -/
def nextLine (place : Cursor) : Cursor :=
  { place with line := place.line + 1, column := 0, indent := 0, hasTab := false }

/-- The place one character further, in one of the gaps between words. -/
def stepOver (place : Cursor) (gap : Gap) (c : Char) : Cursor :=
  { place with
    column := place.column + 1
    indent := if gap = .indentation then place.indent + 1 else place.indent
    hasTab := place.hasTab || (gap = .blanks && c == '\t') }

/-- Skips a gap between words in the rest of a text, across lines. -/
def skipGap (withComments : Bool) (gap : Gap) (place : Cursor) : List Char → Cursor
  | [] => { place with rest := [] }
  | '\r' :: '\n' :: rest => skipGap withComments .indentation place.nextLine rest
  | c :: rest =>
    if isBreak c then skipGap withComments .indentation place.nextLine rest
    else if gap = .comment then skipGap withComments .comment (place.stepOver .comment c) rest
    else if gap = .indentation && c == ' ' then
      skipGap withComments .indentation (place.stepOver .indentation c) rest
    else if isBlank c then skipGap withComments .blanks (place.stepOver .blanks c) rest
    else if withComments && c == '#' then
      skipGap withComments .comment (place.stepOver .comment c) rest
    else { place with rest := c :: rest }

/-- The next word, behind blanks, line breaks and comments. -/
def nextWord (place : Cursor) : Cursor :=
  place.skipGap true .blanks place.rest

/-- The next character of a text, behind blanks and line breaks. -/
def nextText (place : Cursor) : Cursor :=
  place.skipGap false .blanks place.rest

/-- The place behind the blanks of a line. -/
def skipBlanks (place : Cursor) : Cursor :=
  place.skip (place.rest.takeWhile isBlank).length

/-- The end of the line. -/
def lineEnd (place : Cursor) : Cursor :=
  place.skip (place.rest.takeWhile (!isBreak ·)).length

/-- The start of the next line, if this one is over. -/
def breakLine? (place : Cursor) : Option Cursor :=
  match place.rest with
  | '\r' :: '\n' :: rest => some { place.nextLine with rest }
  | c :: rest => if isBreak c then some { place.nextLine with rest } else none
  | [] => none

/-- Whether a line is the mark between documents. -/
def isDocumentMark (place : Cursor) : Bool :=
  place.column = 0 &&
    match place.rest with
    | a :: b :: c :: rest =>
      (a == '-' || a == '.') && a == b && b == c && (rest.isEmpty || isSeparator rest.head?)
    | _ => false

/-- The characters up to a separator, and the place behind them. -/
def takeWord (place : Cursor) (isEnd : Char → Bool) : List Char × Cursor :=
  let word := place.rest.takeWhile fun c => !isBlank c && !isBreak c && !isEnd c
  (word, place.skip word.length)

end Cursor

end NamedParams.Yaml
