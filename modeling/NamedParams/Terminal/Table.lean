import NamedParams.Terminal.Slice
import NamedParams.Text.Blank

namespace NamedParams.Terminal

open NamedParams.Text

inductive Alignment where
  | left
  | right
deriving DecidableEq, Repr

structure Column where
  width : Nat
  alignment : Alignment
deriving DecidableEq, Repr

inductive TableError where
  | controlCharacter
  | tooWide
deriving DecidableEq, Repr

def TableError.message : TableError → String
  | controlCharacter => "Table data must not contain control characters."
  | tooWide => "Subject parameter value width cannot be greater than the container width."

/-- The control characters that a cell cannot hold. -/
def isForbidden (c : Char) : Bool :=
  0 < c.toNat && c.toNat ≤ 0x1a && c != '\x07' && c != '\n'

/-- Ends of lines are single characters in cells. -/
def unifyLines : List Char → List Char
  | '\r' :: '\n' :: rest => '\n' :: unifyLines rest
  | c :: rest => c :: unifyLines rest
  | [] => []

/-- The lines of a cell, each cut out of its text by the columns of the lines before it. -/
def linesFrom (text : List Char) (start : Nat) : List (List Char) → List (List Char)
  | [] => []
  | line :: rest =>
    let columns := width line
    let cut := if columns = 0 then [] else slice text start (some (start + columns))
    cut :: linesFrom text (start + columns + 1) rest

def cellLines (text : List Char) : List (List Char) :=
  linesFrom text 0 ((stripCodes text.length text).splitOn '\n')

/-- Cuts a line into pieces of the given width. Blanks around a cut are dropped from what follows
    it. -/
def cutLine (columns : Nat) : Nat → List Char → List (List Char)
  | 0, line => [line]
  | fuel + 1, line =>
    let piece := slice line 0 (some columns)
    let rest := trim (slice line columns none)
    if width rest = 0 then [piece] else piece :: cutLine columns fuel rest

/-- The lines that a cell is shown on. -/
def wrapCell (column : Column) (text : List Char) : List (List Char) :=
  (cellLines text).flatMap fun line => cutLine column.width (line.length + 1) line

/-- Fills a line with blanks up to the width of its column. -/
def align (column : Column) (line : List Char) : Except TableError (List Char) :=
  let columns := width line
  if column.width < columns then .error .tooWide
  else
    let blanks := List.replicate (column.width - columns) ' '
    .ok (match columns, column.alignment with
      | 0, _ => blanks
      | _, .left => line ++ blanks
      | _, .right => blanks ++ line)

/-- A line of the table, with its cells between borders. -/
def tableLine (columns : List Column) (cells : List (List Char)) : Except TableError String := do
  let cells ← (columns.zip cells).mapM fun (column, cell) => align column cell
  return "║" ++ "│".intercalate (cells.map fun cell => " " ++ String.ofList cell ++ " ") ++ "║\n"

/-- A line between rows. -/
def ruler (columns : List Column) (left middle right fill : String) : String :=
  left ++ middle.intercalate (columns.map fun column =>
    String.join (List.replicate (column.width + 2) fill)) ++ right ++ "\n"

/-- The lines of a row. Its cells are as high as the highest of them. -/
def tableRow (columns : List Column) (cells : List (List Char)) : Except TableError String := do
  let wrapped := (columns.zip cells).map fun (column, cell) => wrapCell column cell
  let height := (wrapped.map List.length).foldl max 0
  let lines ← (List.range height).mapM fun i =>
    tableLine columns (wrapped.map fun lines => lines[i]?.getD [])
  return String.join lines

/-- A table with borders around all cells. -/
def table (columns : List Column) (rows : List (List String)) : Except TableError String := do
  let cells := rows.map (·.map fun cell => unifyLines cell.toList)
  if cells.any (·.any (·.any isForbidden)) then throw .controlCharacter
  let rows ← cells.mapM (tableRow columns)
  let between := ruler columns "╟" "┼" "╢" "─"
  return ruler columns "╔" "╤" "╗" "═" ++ between.intercalate rows ++
    ruler columns "╚" "╧" "╝" "═"

end NamedParams.Terminal
