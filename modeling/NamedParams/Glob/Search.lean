import NamedParams.Glob.Brace
import NamedParams.Glob.Segment

namespace NamedParams.Glob

/-- Whether two stars before a text stand for any depth all the same. -/
def keepsDepth : List Char → Bool
  | '@' :: '(' :: c :: _ => c != '?'
  | ')' :: _ => true
  | _ => false

/-- The parts for one segment of a search pattern. Two stars next to other text mean one. -/
def segmentParts (hidden last : Bool) (segment : List Char) : List Part :=
  let read := readSegment (.search last) hidden
  match segment with
  | ['*', '*'] => [.deep hidden]
  | '*' :: '*' :: tail =>
    if keepsDepth tail then [.deep hidden, read ('*' :: tail)] else [read segment]
  | _ => [read segment]

def Part.endsInMany : Part → Bool
  | .segment _ pieces => pieces.getLast?.any fun | .many => true | _ => false
  | .deep _ => false

/-- The parts of a search pattern. Two stars at its end stand for at least one segment if a star is
    right before them. -/
def searchParts (hidden : Bool) : List (List Char) → List Part
  | [] => []
  | [segment] => segmentParts hidden true segment
  | [segment, ['*', '*']] =>
    let parts := segmentParts hidden false segment
    let atLeastOne := if parts.any Part.endsInMany then segmentParts hidden true ['*'] else []
    parts ++ .deep hidden :: atLeastOne
  | segment :: rest => segmentParts hidden false segment ++ searchParts hidden rest

/-- Whether a text consists of extensions. -/
def areExtensions : List Char → Bool
  | '.' :: rest => (rest.splitOn '.').all fun extension =>
    !extension.isEmpty && extension.all fun c => c.isAlphanum || c == '_'
  | _ => false

/-- Some whole patterns have a meaning of their own: two stars before extensions stand for any
    depth, and between two stars a point is not the last character. -/
def wholePattern (text : List Char) : List Char :=
  match text with
  | ['*', '.', '*'] => ['*', '.', '?', '*']
  | ['*', '*', '/', '*', '.', '*'] => ['*', '*', '/', '*', '.', '?', '*']
  | '*' :: '*' :: tail => if areExtensions tail then '*' :: '*' :: '/' :: '*' :: tail else text
  | _ => text

/-- A pattern that a search compares with paths below its directory. Not followed are bars outside
    of parentheses and quotes, which stand for themselves here, and two stars behind a parenthesis,
    which are one. -/
structure SearchPattern where
  negated : Bool
  parts : List Part
deriving Repr, Inhabited

/-- The exclamation marks at the start of a pattern, other than that of an exception. -/
def negationMarks : List Char → Nat
  | ['!'] => 1
  | '!' :: c :: rest => if c == '(' then 0 else 1 + negationMarks (c :: rest)
  | _ => 0

/-- Reads a search pattern without braces. Its wildcards match hidden names if `hidden`. -/
def SearchPattern.read (hidden : Bool) (text : List Char) : SearchPattern :=
  let text := match text with
    | '.' :: '/' :: rest => rest
    | _ => text
  let marks := negationMarks text
  { negated := marks % 2 == 1
    parts := searchParts hidden ((wholePattern text).drop marks |>.splitOn '/') }

def SearchPattern.matchesPath (pattern : SearchPattern) (path : String) : Bool :=
  fits pattern.parts (path.toList.splitOn '/') != pattern.negated

/-- Several slashes in a row mean one, other than at the start. -/
def singleSlashes : List Char → List Char
  | '/' :: '/' :: rest => singleSlashes ('/' :: rest)
  | c :: rest => c :: singleSlashes rest
  | [] => []

def cleanPattern : List Char → List Char
  | c :: rest => c :: singleSlashes rest
  | [] => []

/-- The patterns without braces that a search pattern stands for. -/
def searchAlternatives (pattern : String) : List (List Char) :=
  ((expandBraces true pattern.toList).filter (!·.isEmpty)).map cleanPattern

end NamedParams.Glob
