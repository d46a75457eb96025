import NamedParams.Glob.Brace
import NamedParams.Glob.Segment

namespace NamedParams.Glob

/-- Splits a path at its slashes. Several slashes in a row separate like one. -/
def splitPath (path : List Char) : List (List Char) :=
  match path.splitOn '/' with
  | first :: rest => first :: (rest.dropLast.filter (!·.isEmpty) ++ rest.getLast?.toList)
  | [] => []

/-- Adds a segment to a pattern: a step up takes the segment before it away, unless that is
    no plain step down. -/
def pushSegment (done : List (List Char)) (segment : List Char) : List (List Char) :=
  match done.getLast? with
  | some last =>
    if segment == ['*', '*'] && last == ['*', '*'] then done
    else if segment == ['.', '.'] && !last.isEmpty && last != ['.', '.'] && last != ['.'] &&
        last != ['*', '*'] then
      done.dropLast
    else done ++ [segment]
  | none => [segment]

/-- The parts of a filter pattern. At its end, two stars stand for at least one segment. -/
def filterParts : List (List Char) → List Part
  | [] => []
  | [['*', '*']] => [.deep true, .segment false [.noDots, .many]]
  | ['*', '*'] :: rest => .deep true :: filterParts rest
  | segment :: rest => readSegment .filter true segment :: filterParts rest

/-- Whether a pattern without braces matches a path. The path may end in a slash. -/
def matchesSimple (pattern path : List Char) : Bool :=
  let segments := (splitPath pattern).foldl pushSegment []
  let parts := filterParts (if segments.isEmpty then [[]] else segments)
  let file := splitPath path
  fits parts file || (file.getLast? == some [] && fits parts file.dropLast)

/-- Splits off the exclamation marks at the start; an odd number of them negates. -/
def splitNegation (pattern : List Char) : Bool × List Char :=
  let rest := pattern.dropWhile (· == '!')
  ((pattern.length - rest.length) % 2 == 1, rest)

/-- Whether a filter pattern matches a path. Patterns that start with a number sign are comments,
    and match nothing. No pattern is refused, not even one with a class of all scripts in a segment
    that has a hyphen, a comma, a number sign or a blank of its own outside of classes. -/
def matchesPath (pattern path : String) : Bool :=
  match pattern.toList with
  | [] => path.isEmpty
  | '#' :: _ => false
  | text =>
    let (negated, rest) := splitNegation text
    (expandBraces false rest).any (matchesSimple · path.toList) != negated

end NamedParams.Glob
