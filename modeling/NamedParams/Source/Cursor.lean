import NamedParams.Source.Tree
import NamedParams.Source.Lexeme

namespace NamedParams.Source

open NamedParams.Text

/-- How far a text has been read into trees. `items` are the trees read so far, the newest first;
    their tokens tile the text up to `ahead`, whatever shape the grammar gives to the trees. -/
structure Cursor (source : List Char) where
  items : List Tree
  depth : Nat
  place : Nat
  ahead : List Char
  next : Lexeme ahead
  tiles : Tiles 0 source (Tree.tokensOf items.reverse) place ahead

namespace Cursor

variable {source : List Char}

/-- The cursor before the first token. -/
def start (dialect : Dialect) (source : List Char) : Cursor source where
  items := []
  depth := 0
  place := 0
  ahead := source
  next := Lexeme.scanAfter dialect (openingTriviaLength source)
  tiles := .nil 0 source

/-- Reads the next token again, in another way. -/
def reread (cursor : Cursor source) (dialect : Dialect) (reading : Lexeme.Reading) :
    Cursor source :=
  { cursor with next := Lexeme.read dialect reading }

/-- Takes the next token as a leaf. -/
def advance (cursor : Cursor source) (dialect : Dialect) : Cursor source where
  items := .leaf (cursor.next.token cursor.place) :: cursor.items
  depth := cursor.depth + 1
  place := cursor.place + units (cursor.ahead.take cursor.next.before) +
    units ((cursor.ahead.drop cursor.next.before).take cursor.next.length)
  ahead := cursor.next.rest
  next := Lexeme.read dialect .usual
  tiles := by
    have htiles : Tiles 0 source (Tree.tokensOf cursor.items.reverse) cursor.place
        ((cursor.next.token cursor.place).trivia ++
          ((cursor.next.token cursor.place).text ++ cursor.next.rest)) := by
      rw [Lexeme.token_append_rest]
      exact cursor.tiles
    have hsnoc := htiles.snoc rfl (cursor.next.token_spelled cursor.place)
    have hleaf :
        Tree.tokensOf (Tree.leaf (cursor.next.token cursor.place) :: cursor.items).reverse =
        Tree.tokensOf cursor.items.reverse ++ [cursor.next.token cursor.place] := by simp
    rw [hleaf]
    exact hsnoc

/-- Makes a node of the newest trees, down to the given depth. -/
def group (cursor : Cursor source) (depth : Nat) (kind : NodeKind) : Cursor source :=
  let count := cursor.depth - depth
  { cursor with
    items := .node kind (cursor.items.take count).reverse :: cursor.items.drop count
    depth := depth + 1
    tiles := by
      have hsplit : Tree.tokensOf (Tree.node kind (cursor.items.take count).reverse ::
          cursor.items.drop count).reverse = Tree.tokensOf cursor.items.reverse := by
        rw [List.reverse_cons, Tree.tokensOf_append, Tree.tokensOf_cons, Tree.tokens_node,
          Tree.tokensOf_nil, List.append_nil, ← Tree.tokensOf_append, ← List.reverse_append,
          List.take_append_drop]
      rw [hsplit]
      exact cursor.tiles }

end Cursor

/-- The surroundings on which the reading of a construct depends. `limit` is more than the number
    of characters in the text. -/
structure Context where
  dialect : Dialect
  limit : Nat
  inAwait : Bool
  inYield : Bool
  noIn : Bool
  inDecorator : Bool
  noConditionalType : Bool

/-- Reads a construct: from a cursor to a cursor further on, or no reading. -/
def Reader (source : List Char) (α : Type) := Context → Cursor source → Option (α × Cursor source)

instance (source : List Char) : Monad (Reader source) where
  pure a := fun _ cursor => some (a, cursor)
  bind reader next := fun context cursor =>
    match reader context cursor with
    | none => none
    | some (a, cursor) => next a context cursor

namespace Reader

variable {source : List Char} {α : Type}

/-- There is no reading. -/
def fail : Reader source α := fun _ _ => none

/-- Asks a question about the next token. -/
def asks (question : {ahead : List Char} → Lexeme ahead → α) : Reader source α :=
  fun _ cursor => some (question cursor.next, cursor)

/-- Asks a question about the surroundings. -/
def context (question : Context → α) : Reader source α :=
  fun context cursor => some (question context, cursor)

/-- Reads a construct in other surroundings. -/
def within (change : Context → Context) (reader : Reader source α) : Reader source α :=
  fun context cursor => reader (change context) cursor

/-- The answer of a reading, which is then forgotten; `none` when there is no reading. -/
def ahead? (reader : Reader source α) : Reader source (Option α) := fun context cursor =>
  match reader context cursor with
  | none => some (none, cursor)
  | some (a, _) => some (some a, cursor)

/-- Whether a question, asked further on, is answered with yes. Nothing is taken. -/
def looksAt (question : Reader source Bool) : Reader source Bool := fun context cursor =>
  match question context cursor with
  | some (true, _) => some (true, cursor)
  | _ => some (false, cursor)

/-- Takes what a construct reads, when it is there. -/
def attempt (reader : Reader source Unit) : Reader source Bool := fun context cursor =>
  match reader context cursor with
  | none => some (false, cursor)
  | some (_, cursor) => some (true, cursor)

/-- Takes the next token. -/
def take : Reader source Unit := fun context cursor =>
  some ((), cursor.advance context.dialect)

/-- Reads the next token in another way. -/
def reread (reading : Lexeme.Reading) : Reader source Unit := fun context cursor =>
  some ((), cursor.reread context.dialect reading)

/-- The number of trees read so far, as a place to which `group` can return. -/
def depth : Reader source Nat := fun _ cursor => some (cursor.depth, cursor)

/-- Makes a node of all trees read since the given depth. -/
def group (depth : Nat) (kind : NodeKind) : Reader source Unit := fun _ cursor =>
  some ((), cursor.group depth kind)

/-- Makes a node of what a construct reads. -/
def node (kind : NodeKind) (reader : Reader source Unit) : Reader source Unit := do
  let start ← depth
  reader
  group start kind

/-- Repeats a step for as long as it says to go on and takes something. -/
def rounds (step : Reader source Bool) : Nat → Reader source Unit
  | 0 => pure ()
  | count + 1 => fun context cursor =>
    match step context cursor with
    | none => none
    | some (true, further) =>
      if cursor.place < further.place then rounds step count context further
      else some ((), further)
    | some (false, further) => some ((), further)

/-- Repeats a step for as long as it says to go on. No more rounds can take something than the
    text has characters. -/
def loop (step : Reader source Bool) : Reader source Unit := fun context cursor =>
  rounds step context.limit context cursor

end Reader

end NamedParams.Source
