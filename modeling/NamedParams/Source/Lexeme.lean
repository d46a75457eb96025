import NamedParams.Source.Token

namespace NamedParams.Source

/-- The dialect of a file, which follows from its name: whether elements may stand in
    expressions, and whether type arguments and type assertions may. -/
structure Dialect where
  elements : Bool
  types : Bool
deriving DecidableEq, Repr, Inhabited

/-- What the text between two tokens is: blanks and line breaks, a line comment, or a block
    comment. -/
inductive Between where
  | blank
  | lineComment
  | blockComment
deriving DecidableEq, Repr

/-- How far white space and comments reach. -/
def triviaLength : Between → List Char → Nat
  | .blank, '/' :: '/' :: rest => 2 + triviaLength .lineComment rest
  | .blank, '/' :: '*' :: rest => 2 + triviaLength .blockComment rest
  | .blank, c :: rest => if isBlank c || isLineBreak c then 1 + triviaLength .blank rest else 0
  | .lineComment, c :: rest =>
    if isLineBreak c then 1 + triviaLength .blank rest else 1 + triviaLength .lineComment rest
  | .blockComment, '*' :: '/' :: rest => 2 + triviaLength .blank rest
  | .blockComment, _ :: rest => 1 + triviaLength .blockComment rest
  | _, [] => 0

/-- White space and comments at the start of a file, where an interpreter line may come first. -/
def openingTriviaLength : List Char → Nat
  | '#' :: '!' :: rest => 2 + triviaLength .lineComment rest
  | text => triviaLength .blank text

/-- The operators and punctuation marks, longest first. A closing angle bracket is always read
    alone, because it may close a list of type arguments. -/
def marks : List (List Char × String) :=
  ["...", "**=", "===", "!==", "<<=", "&&=", "||=", "??=", "=>", "**", "++", "--", "==", "!=",
   "<<", "<=", "&&", "||", "??", "?.", "+=", "-=", "*=", "/=", "%=", "&=", "|=", "^=",
   "\x7b", "\x7d", "(", ")", "[", "]", ";", ",", "<", ">", "=", "!", "+", "-", "*", "/", "%",
   "&", "|", "^", "~", "?", ":", ".", "@", "#"].map fun mark => (mark.toList, mark)

/-- The operators that begin with a closing angle bracket, longest first. -/
def closingOperators : List (List Char × String) :=
  [">>>=", ">>>", ">>=", ">>", ">=", ">"].map fun mark => (mark.toList, mark)

/-- What the first token of a text is, read in one of the ways that the grammar asks for. The
    lengths cut the token and what stands before it out of the text. -/
structure Lexeme (ahead : List Char) where
  kind : TokenKind
  before : Nat
  length : Nat
  value : String
  spelled : kind = .name →
    0 < length ∧ nameLength 0 (ahead.drop before) = length

namespace Lexeme

variable {ahead : List Char}

/-- A lexeme of a class that is not a name. -/
def plain (kind : TokenKind) (before length : Nat) (hkind : kind ≠ .name) :
    Lexeme ahead where
  kind := kind
  before := before
  length := length
  value := String.ofList ((ahead.drop before).take length)
  spelled := fun hname => absurd hname hkind

/-- The mark at the start of the text after the trivia, from a table. -/
def mark (before : Nat) (table : List (List Char × String)) : Lexeme ahead :=
  match table.find? fun entry => entry.1.isPrefixOf (ahead.drop before) with
  | some entry =>
    { kind := .mark, before, length := entry.1.length, value := entry.2, spelled := nofun }
  | none => plain .unknown before 1 (by decide)

/-- A name at the start of the text after the trivia. -/
def name (before : Nat) : Lexeme ahead :=
  if hlength : 0 < nameLength 0 (ahead.drop before) then
    { kind := .name
      before
      length := nameLength 0 (ahead.drop before)
      value := String.ofList
        (unescapeName 0 ((ahead.drop before).take (nameLength 0 (ahead.drop before))))
      spelled := fun _ => ⟨hlength, rfl⟩ }
  else plain .unknown before 1 (by decide)

/-- Cuts a piece of a template that starts with a backquote or a closing brace. -/
def templatePiece (before : Nat) (opened : Bool) (inside : List Char) : Lexeme ahead :=
  let piece := templateLength inside
  match opened, piece.2 with
  | true, true => plain .templateHead before (1 + piece.1) (by decide)
  | true, false => plain .template before (1 + piece.1) (by decide)
  | false, true => plain .templateMiddle before (1 + piece.1) (by decide)
  | false, false => plain .templateTail before (1 + piece.1) (by decide)

/-- Reads the token that follows `before` characters of trivia. -/
def scanAfter (dialect : Dialect) (before : Nat) : Lexeme ahead :=
  match ahead.drop before with
  | [] => plain .endOfFile before 0 (by decide)
  | c :: rest =>
    if c == '\x22' || c == '\x27' then plain .string before (1 + quotedLength c rest) (by decide)
    else if c == '\x60' then templatePiece before true rest
    else if c.isDigit || (c == '.' && (rest.head?.any Char.isDigit)) then
      plain .number before (numberLength (c :: rest)) (by decide)
    else if startsName (c :: rest) then name before
    else if c == '#' && startsName rest then
      plain .privateName before (1 + nameLength 0 rest) (by decide)
    else if c == '?' && rest.head? == some '.' && ((rest.drop 1).head?.any Char.isDigit) then
      plain .mark before 1 (by decide)
    else if dialect.elements && c == '<' && rest.head? == some '/' &&
        (rest.drop 1).head? != some '*' then
      plain .mark before 2 (by decide)
    else mark before marks

/-- The ways in which the grammar can ask for the next token. -/
inductive Reading where
  | usual
  | regex
  | templateRest
  | closingOperator
  | openingAngle
  | elementChild
  | elementName
  | elementString
deriving DecidableEq, Repr

/-- Reads a regular expression at a slash. -/
def regex (before : Nat) : Lexeme ahead :=
  let body := (ahead.drop before).drop 1
  let length := regexLength false body
  plain .regex before (1 + length + countWhile isNamePart (body.drop length)) (by decide)

/-- Reads the text of an element up to a brace or an angle bracket, or that mark itself. No
    character of it is trivia. -/
def elementChild : Lexeme ahead :=
  match ahead with
  | [] => plain .endOfFile 0 0 (by decide)
  | '\x7b' :: _ => plain .mark 0 1 (by decide)
  | '<' :: '/' :: _ => plain .mark 0 2 (by decide)
  | '<' :: _ => plain .mark 0 1 (by decide)
  | text => plain .jsxText 0 (countWhile (fun c => c != '\x7b' && c != '<') text) (by decide)

/-- Reads the first token of the text in the given way. -/
def read (dialect : Dialect) (reading : Reading) : Lexeme ahead :=
  let before := triviaLength .blank ahead
  match reading with
  | .usual => scanAfter dialect before
  | .regex => regex before
  | .templateRest => templatePiece before false ((ahead.drop before).drop 1)
  | .closingOperator => mark before closingOperators
  | .openingAngle => plain .mark before 1 (by decide)
  | .elementChild => elementChild
  | .elementName =>
    plain .jsxName before (countWhile (fun c => isNamePart c || c == '-') (ahead.drop before))
      (by decide)
  | .elementString =>
    let text := ahead.drop before
    match text with
    | quote :: rest =>
      plain .jsxString before (2 + countWhile (fun c => c != quote) rest) (by decide)
    | [] => plain .endOfFile before 0 (by decide)

/-- Whether a line ends between the token before and this one. -/
def afterLineBreak (lexeme : Lexeme ahead) : Bool :=
  (ahead.take lexeme.before).any isLineBreak

/-- The token that a lexeme stands for, when its trivia starts at offset `place`. -/
def token (lexeme : Lexeme ahead) (place : Nat) : Token where
  kind := lexeme.kind
  trivia := ahead.take lexeme.before
  text := (ahead.drop lexeme.before).take lexeme.length
  start := place + Text.units (ahead.take lexeme.before)

/-- What remains of the text after the token. -/
def rest (lexeme : Lexeme ahead) : List Char :=
  (ahead.drop lexeme.before).drop lexeme.length

theorem token_append_rest (lexeme : Lexeme ahead) (place : Nat) :
    (lexeme.token place).trivia ++ ((lexeme.token place).text ++ lexeme.rest) = ahead := by
  simp only [token, rest, List.take_append_drop]

theorem token_spelled (lexeme : Lexeme ahead) (place : Nat)
    (hname : (lexeme.token place).kind = .name) :
    0 < (lexeme.token place).text.length ∧
      nameLength 0 ((lexeme.token place).text ++ lexeme.rest) =
        (lexeme.token place).text.length := by
  obtain ⟨hpos, hlength⟩ := lexeme.spelled hname
  have hsplit : (lexeme.token place).text ++ lexeme.rest = ahead.drop lexeme.before := by
    simp only [token, rest, List.take_append_drop]
  have hle : lexeme.length ≤ (ahead.drop lexeme.before).length := by
    rw [← hlength]
    exact nameLength_le_length 0 _
  have htext : (lexeme.token place).text.length = lexeme.length := by
    simp only [token, List.length_take]
    omega
  rw [hsplit, htext]
  exact ⟨hpos, hlength⟩

end Lexeme

end NamedParams.Source
