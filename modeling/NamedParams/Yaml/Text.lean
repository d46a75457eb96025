import NamedParams.Text.Escape
import NamedParams.Yaml.Cursor

namespace NamedParams.Yaml

open NamedParams.Text

/-- What some line breaks in a row become inside of a text: one is a space, and of more the first
    is dropped. -/
def foldBreaks (count : Nat) : List Char :=
  if count = 1 then [' '] else List.replicate (count - 1) '\n'

/-- Whether a character may stand outside of quotes. -/
def isPrintable (c : Char) : Bool :=
  !(c.toNat < 0x09 || c == '\x0b' || c == '\x0c' || (0x0e ≤ c.toNat && c.toNat < 0x20) ||
    (0x7f ≤ c.toNat && c.toNat < 0x85) || (0x86 ≤ c.toNat && c.toNat < 0xa0) ||
    c == '\ufffe' || c == '\uffff')

/-- Whether a character may stand inside of quotes. -/
def isQuotable (c : Char) : Bool :=
  c == '\t' || 0x20 ≤ c.toNat

/-! Plain texts -/

/-- Whether a plain text can start at a place. -/
def startsPlain (inFlow : Bool) (place : Cursor) : Bool :=
  match place.peek with
  | none => false
  | some c =>
    if isSeparator c || isFlowSign c || "#&*!|>'\x22%@\x60".toList.contains c then false
    else if c == '?' || c == '-' then
      !(isSeparator place.following || (inFlow && place.following.any isFlowSign))
    else true

/-- Whether a plain text ends between a character and the rest of its line. -/
def endsPlain (inFlow : Bool) (before : Char) : List Char → Bool
  | [] => true
  | ':' :: rest => isSeparator rest.head? || (inFlow && rest.head?.any isFlowSign)
  | '#' :: _ => isSeparator before
  | c :: _ => inFlow && isFlowSign c

/-- The characters of a plain text in the rest of a line. -/
def plainLine (inFlow : Bool) (before : Char) : List Char → List Char
  | [] => []
  | c :: rest =>
    if isBreak c || endsPlain inFlow before (c :: rest) then []
    else c :: plainLine inFlow c rest

/-- Reads a plain text whose lines are indented by at least `indent`. `fuel` bounds the number of
    lines. -/
def readPlainLines (indent : Int) (inFlow : Bool) : Nat → Cursor → List Char × Cursor
  | 0, place => ([], place)
  | fuel + 1, place =>
    let line := plainLine inFlow ' ' place.rest
    let shown := (line.reverse.dropWhile isBlank).reverse
    let stop := place.skip line.length
    if stop.peek.any isBreak then
      let next := stop.nextText
      if indent ≤ next.indent then
        if endsPlain inFlow ' ' next.rest || next.isDocumentMark then (shown, next)
        else
          let (more, stop) := readPlainLines indent inFlow fuel next
          (shown ++ foldBreaks (next.line - place.line) ++ more, stop)
      else (shown, place.skip shown.length)
    else (shown, stop)

/-- Reads a plain text, if there is one. -/
def readPlain (indent : Int) (inFlow : Bool) (place : Cursor) : Option (List Char × Cursor) :=
  if !startsPlain inFlow place || place.isDocumentMark then none
  else
    let (text, place) := readPlainLines indent inFlow (place.rest.length + 1) place
    if text.isEmpty then none else some (text, place)

/-! Quoted texts -/

/-- The character that a backslash and a letter stand for. -/
def escape? : Char → Option Nat
  | '0' => some 0
  | 'a' => some 7
  | 'b' => some 8
  | 't' | '\t' => some 9
  | 'n' => some 10
  | 'v' => some 11
  | 'f' => some 12
  | 'r' => some 13
  | 'e' => some 27
  | ' ' => some 32
  | '\x22' => some 34
  | '/' => some 47
  | '\\' => some 92
  | 'N' => some 0x85
  | '_' => some 0xa0
  | 'L' => some 0x2028
  | 'P' => some 0x2029
  | _ => none

/-- How many digits follow a backslash and a letter to give a code. -/
def codeLength? : Char → Option Nat
  | 'x' => some 2
  | 'u' => some 4
  | 'U' => some 8
  | _ => none

/-- Reads a code of some hexadecimal digits. -/
def readCode (count : Nat) (place : Cursor) : Option (Nat × Cursor) :=
  let digits := (place.rest.take count).filterMap hexDigit?
  if digits.length = count then some (digits.foldl (16 * · + ·) 0, place.skip count) else none

/-- Reads a text in single quotes from behind its first quote, as codes. Two quotes stand for
    one. `fuel` bounds the number of steps. -/
def readSingleQuoted : Nat → Cursor → Option (List Nat × Cursor)
  | 0, _ => none
  | fuel + 1, place =>
    match place.rest with
    | [] => none
    | '\'' :: '\'' :: _ =>
      (readSingleQuoted fuel (place.skip 2)).map fun (more, stop) => ('\''.toNat :: more, stop)
    | '\'' :: _ => some ([], place.skip 1)
    | c :: _ =>
      if isBreak c then
        let next := place.nextText
        (readSingleQuoted fuel next).map fun (more, stop) =>
          ((foldBreaks (next.line - place.line)).map Char.toNat ++ more, stop)
      else if place.isDocumentMark || !isQuotable c then none
      else (readSingleQuoted fuel (place.skip 1)).map fun (more, stop) => (c.toNat :: more, stop)

/-- Reads a text in double quotes from behind its first quote, as codes. A backslash joins lines
    or writes a character by its name or its code. `fuel` bounds the number of steps. -/
def readDoubleQuoted : Nat → Cursor → Option (List Nat × Cursor)
  | 0, _ => none
  | fuel + 1, place =>
    match place.rest with
    | [] => none
    | '\x22' :: _ => some ([], place.skip 1)
    | '\\' :: c :: _ =>
      if isBreak c then readDoubleQuoted fuel (place.skip 1).nextText
      else match escape? c, codeLength? c with
        | some code, _ =>
          (readDoubleQuoted fuel (place.skip 2)).map fun (more, stop) => (code :: more, stop)
        | none, some count =>
          (readCode count (place.skip 2)).bind fun (code, place) =>
            (readDoubleQuoted fuel place).map fun (more, stop) => (code :: more, stop)
        | none, none => none
    | c :: _ =>
      if isBreak c then
        let next := place.nextText
        (readDoubleQuoted fuel next).map fun (more, stop) =>
          ((foldBreaks (next.line - place.line)).map Char.toNat ++ more, stop)
      else if place.isDocumentMark || !isQuotable c then none
      else (readDoubleQuoted fuel (place.skip 1)).map fun (more, stop) => (c.toNat :: more, stop)

/-- Reads a text in quotes. -/
def readQuotedText (place : Cursor) : Option (List Char × Cursor) :=
  let fuel := place.rest.length + 1
  let codes := if place.peek == some '\'' then readSingleQuoted fuel (place.skip 1)
    else readDoubleQuoted fuel (place.skip 1)
  codes.map fun (codes, place) => (pairSurrogates codes, place)

/-! Blocks of lines -/

/-- What becomes of the line breaks at the end of a block. -/
inductive Chomping where
  | strip
  | clip
  | keep
deriving DecidableEq, Repr, Inhabited

/-- The signs in front of a block: whether its lines are folded, what becomes of its end, and how
    far its lines are indented at least. -/
structure BlockStyle where
  folds : Bool
  chomping : Option Chomping
  width : Option Nat
deriving Repr, Inhabited

/-- Reads the signs in front of a block. None comes twice, and no width is zero. -/
def readBlockStyle (style : BlockStyle) (place : Cursor) : List Char → Option (BlockStyle × Cursor)
  | [] => some (style, place)
  | c :: rest =>
    if c == '+' || c == '-' then
      if style.chomping.isSome then none
      else
        let chomping := if c == '+' then Chomping.keep else .strip
        readBlockStyle { style with chomping := some chomping } (place.skip 1) rest
    else if c.isDigit then
      if c == '0' || style.width.isSome then none
      else
        readBlockStyle { style with width := some (c.toNat - '0'.toNat) } (place.skip 1) rest
    else some (style, place)

/-- The place behind the signs of a block, at the end of their line. -/
def blockHeadEnd? (place : Cursor) : Option Cursor :=
  let next := place.skipBlanks
  let stop := if place.column < next.column && next.peek == some '#' then next.lineEnd else next
  if stop.rest.isEmpty || stop.peek.any isBreak then some stop else none

/-- What is known about a block after some of its lines. -/
structure BlockProgress where
  text : List Char
  indent : Nat
  isIndentKnown : Bool
  hasText : Bool
  emptyLines : Nat
  isInset : Bool
deriving Repr, Inhabited

namespace BlockProgress

/-- The line breaks in front of a line with text. Lines that start with a blank are not
    folded. -/
def breaksBefore (progress : BlockProgress) (folds : Bool) (c : Option Char) : List Char :=
  let all := List.replicate
    (if progress.hasText then progress.emptyLines + 1 else progress.emptyLines) '\n'
  if !folds || c.any isBlank then all
  else if progress.isInset then List.replicate (progress.emptyLines + 1) '\n'
  else if progress.emptyLines = 0 then if progress.hasText then [' '] else []
  else List.replicate progress.emptyLines '\n'

/-- The line breaks at the end. -/
def ending (progress : BlockProgress) (chomping : Chomping) : List Char :=
  match chomping with
  | .strip => []
  | .clip => if progress.hasText then ['\n'] else []
  | .keep =>
    List.replicate (if progress.hasText then progress.emptyLines + 1 else progress.emptyLines) '\n'

end BlockProgress

/-- The place behind the spaces that indent a line of a block. -/
def blockLineStart (progress : BlockProgress) (line : Cursor) : Cursor :=
  let spaces := (line.rest.takeWhile (· == ' ')).length
  let count := if progress.isIndentKnown then min spaces progress.indent else spaces
  { line.skip count with indent := count }

/-- Reads the lines of a block from the end of the line before them. A line that is indented less
    ends it. `fuel` bounds the number of lines. -/
def readBlockLines (folds : Bool) (chomping : Chomping) :
    Nat → BlockProgress → Cursor → Option (List Char × Cursor)
  | 0, _, _ => none
  | fuel + 1, progress, place =>
    if place.rest.isEmpty then some (progress.text, place)
    else
      place.breakLine?.bind fun line =>
        let line := blockLineStart progress line
        let indent :=
          if progress.isIndentKnown then progress.indent else max progress.indent line.indent
        if line.peek.any isBreak then
          readBlockLines folds chomping fuel
            { progress with indent, emptyLines := progress.emptyLines + 1 } line
        else if line.indent < indent then
          some (progress.text ++ progress.ending chomping, line)
        else
          let shown := line.rest.takeWhile (!isBreak ·)
          if !shown.all isPrintable then none
          else
            readBlockLines folds chomping fuel
              { text := progress.text ++ progress.breaksBefore folds line.peek ++ shown
                indent
                isIndentKnown := true
                hasText := true
                emptyLines := 0
                isInset := folds && line.peek.any isBlank }
              line.lineEnd

/-- Reads a block of lines that are indented by at least `indent`, from its first sign on. -/
def readBlock (indent : Nat) (place : Cursor) : Option (List Char × Cursor) :=
  let folds := place.peek == some '>'
  (readBlockStyle ⟨folds, none, none⟩ (place.skip 1) (place.rest.drop 1)).bind
    fun (style, place) =>
      let start : BlockProgress :=
        { text := []
          indent := match style.width with
            | some width => indent + width - 1
            | none => indent
          isIndentKnown := style.width.isSome
          hasText := false
          emptyLines := 0
          isInset := false }
      (blockHeadEnd? place).bind
        (readBlockLines folds (style.chomping.getD .clip) (place.rest.length + 1) start)

end NamedParams.Yaml
