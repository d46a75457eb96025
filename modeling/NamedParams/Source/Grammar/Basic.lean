import NamedParams.Source.Cursor

namespace NamedParams.Source

/-- The constructs that contain each other, and so are read through a table. `returnType` says
    whether an arrow function may state its return type where a colon could also end the middle
    part of a conditional; `above` is the precedence that the operators of an operand exceed. -/
inductive Rule where
  | expression
  | assignment (returnType : Bool)
  | operand (above : Nat)
  | unary
  | leftHandSide
  | type
  | bindingTarget
  | statement
  | element
deriving DecidableEq, Repr

/-- A reader for each construct that contains others. -/
abbrev Rules (source : List Char) := Rule → Reader source Unit

namespace Lexeme

variable {ahead : List Char}

def isMark (lexeme : Lexeme ahead) (spelling : String) : Bool :=
  lexeme.kind == .mark && lexeme.value == spelling

def isWord (lexeme : Lexeme ahead) (word : String) : Bool :=
  lexeme.kind == .name && lexeme.value == word

/-- Names, reserved or not, and private names. -/
def isNameLike (lexeme : Lexeme ahead) : Bool :=
  lexeme.kind == .name || lexeme.kind == .privateName

/-- A name that is no reserved word may be bound everywhere. -/
def isBindingIdentifier (lexeme : Lexeme ahead) : Bool :=
  lexeme.kind == .name && !reservedNames.contains lexeme.value

def startsTemplate (lexeme : Lexeme ahead) : Bool :=
  lexeme.kind == .template || lexeme.kind == .templateHead

end Lexeme

namespace Reader

variable {source : List Char}

def atMark (spelling : String) : Reader source Bool :=
  asks fun next => next.isMark spelling

def atAnyMark (spellings : List String) : Reader source Bool :=
  asks fun next => next.kind == .mark && spellings.contains next.value

def atWord (word : String) : Reader source Bool :=
  asks fun next => next.isWord word

def atAnyWord (words : List String) : Reader source Bool :=
  asks fun next => next.kind == .name && words.contains next.value

def atKind (kind : TokenKind) : Reader source Bool :=
  asks fun next => next.kind == kind

def atNameLike : Reader source Bool :=
  asks fun next => next.isNameLike

def atBindingIdentifier : Reader source Bool :=
  asks fun next => next.isBindingIdentifier

/-- A name that stands for a variable: inside asynchronous functions `await` is an operator, and
    inside generators `yield` is. -/
def atIdentifier : Reader source Bool := fun context cursor =>
  let next := cursor.next
  some (next.isBindingIdentifier && !(context.inAwait && next.value == "await") &&
    !(context.inYield && next.value == "yield"), cursor)

/-- Whether the next token is on the same line as the one before it. -/
def onSameLine : Reader source Bool :=
  asks fun next => !next.afterLineBreak

def expect (spelling : String) : Reader source Unit := do
  if (← atMark spelling) then take else fail

def expectWord (word : String) : Reader source Unit := do
  if (← atWord word) then take else fail

/-- Takes a mark if it is next, and says whether it was. -/
def accept (spelling : String) : Reader source Bool := do
  if (← atMark spelling) then
    take
    return true
  else return false

/-- Takes a word if it is next, and says whether it was. -/
def acceptWord (word : String) : Reader source Bool := do
  if (← atWord word) then
    take
    return true
  else return false

/-- Takes a string literal. -/
def stringLiteral : Reader source Unit := do
  if (← atKind .string) then take else fail

def identifier : Reader source Unit := do
  if (← atIdentifier) then take else fail

def bindingIdentifier : Reader source Unit := do
  if (← atBindingIdentifier) then take else fail

/-- Any name, reserved or not. -/
def anyName : Reader source Unit := do
  if (← atKind .name) then take else fail

/-- Whether the token after the next one satisfies a question. -/
def followedBy (question : Reader source Bool) : Reader source Bool :=
  looksAt do
    take
    question

/-- Elements separated by commas, up to the mark that closes the list. The mark is left. -/
def commaList (close : String) (elementReader : Reader source Unit) : Reader source Unit :=
  loop do
    if (← atMark close) then return false
    elementReader
    accept ","

/-- A statement ends at a semicolon, before a closing brace, at the end of the file, or where the
    line ends. -/
def canEndStatement : Reader source Bool :=
  asks fun next =>
    next.isMark ";" || next.isMark "\x7d" || next.kind == .endOfFile || next.afterLineBreak

def endStatement : Reader source Unit := do
  if (← canEndStatement) then
    let _ ← accept ";"
  else fail

/-- Inside brackets of any kind, `in` is an operator and decorators have ended. -/
def bracketed {α : Type} (reader : Reader source α) : Reader source α :=
  within (fun context => { context with noIn := false, inDecorator := false }) reader

/-- Sets whether `await` and `yield` are operators. -/
def inFunction {α : Type} (isAsync isGenerator : Bool) (reader : Reader source α) :
    Reader source α :=
  within (fun context => { context with inAwait := isAsync, inYield := isGenerator }) reader

end Reader

end NamedParams.Source
