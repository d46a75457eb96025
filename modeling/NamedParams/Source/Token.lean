import NamedParams.Text.Units
import NamedParams.Source.Literal

namespace NamedParams.Source

open NamedParams.Text

/-- The classes of tokens. Keywords are names; the grammar tells them apart by spelling. -/
inductive TokenKind where
  | name
  | privateName
  | number
  | string
  | template
  | templateHead
  | templateMiddle
  | templateTail
  | regex
  | mark
  | jsxText
  | jsxName
  | jsxString
  | endOfFile
  | unknown
deriving DecidableEq, Repr, Inhabited

/-- A token with the white space and comments before it. `start` is the offset of its own first
    character. -/
structure Token where
  kind : TokenKind
  trivia : List Char
  text : List Char
  start : Nat
deriving Repr, Inhabited

/-- The name that an identifier or keyword spells, with its escapes replaced. -/
def Token.name (token : Token) : String :=
  String.ofList (unescapeName 0 token.text)

/-- The spelling of a token in the source. -/
def Token.spelling (token : Token) : String :=
  String.ofList token.text

/-- The text that the token stands for: the name of a name, else its spelling. -/
def Token.displayName (token : Token) : String :=
  if token.kind = .name then token.name else token.spelling

def Token.isMark (token : Token) (spelling : String) : Bool :=
  token.kind = .mark && token.spelling == spelling

/-- The keywords that never name a variable. -/
def reservedNames : List String :=
  ["break", "case", "catch", "class", "const", "continue", "debugger", "default", "delete", "do",
   "else", "enum", "export", "extends", "false", "finally", "for", "function", "if", "import",
   "in", "instanceof", "new", "null", "return", "super", "switch", "this", "throw", "true", "try",
   "typeof", "var", "void", "while", "with"]

/-- An identifier is a name that is no reserved word. -/
def Token.isIdentifier (token : Token) : Bool :=
  token.kind = .name && !reservedNames.contains token.name

/-- The tokens lie side by side from offset `at` on: they spell `text` up to `rest`, each starts
    where the measure of the text before it says, and a name reaches as far as its letters do. -/
inductive Tiles : (place : Nat) → (text : List Char) → List Token → (stop : Nat) →
    (rest : List Char) → Prop where
  | nil (place : Nat) (text : List Char) : Tiles place text [] place text
  | cons {place stop : Nat} {more rest : List Char} {token : Token} {tokens : List Token}
      (start_eq : token.start = place + units token.trivia)
      (spelled : token.kind = .name →
        0 < token.text.length ∧ nameLength 0 (token.text ++ more) = token.text.length)
      (tail : Tiles (token.start + units token.text) more tokens stop rest) :
      Tiles place (token.trivia ++ (token.text ++ more)) (token :: tokens) stop rest

/-- Tiling is closed under adding one more token at the end. -/
theorem Tiles.snoc {place stop : Nat} {text more : List Char} {tokens : List Token} {token : Token}
    (htiles : Tiles place text tokens stop (token.trivia ++ (token.text ++ more)))
    (hstart : token.start = stop + units token.trivia)
    (hspelled : token.kind = .name →
      0 < token.text.length ∧ nameLength 0 (token.text ++ more) = token.text.length) :
    Tiles place text (tokens ++ [token]) (token.start + units token.text) more := by
  generalize hrest : token.trivia ++ (token.text ++ more) = rest at htiles
  induction htiles with
  | nil place text =>
    subst hrest
    exact .cons hstart hspelled (.nil _ _)
  | cons start_eq spelled tail ih =>
    exact .cons start_eq spelled (ih hstart hrest)

end NamedParams.Source
