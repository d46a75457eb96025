import NamedParams.Glob.Piece

namespace NamedParams.Glob

/-- Patterns that filter given paths and patterns that search a directory are read by slightly
    different rules. Some of those for searches depend on whether a segment is the last one. -/
inductive Purpose where
  | filter
  | search (last : Bool)
deriving DecidableEq, Repr

def classNames : List (String × NamedClass) :=
  [("alnum", .alnum), ("alpha", .alpha), ("ascii", .ascii), ("blank", .blank), ("cntrl", .cntrl),
    ("digit", .digit), ("graph", .graph), ("lower", .lower), ("print", .print), ("punct", .punct),
    ("space", .space), ("upper", .upper), ("word", .word), ("xdigit", .xdigit)]

/-- Reads the name of a class in its brackets and colons. -/
def className? (text : List Char) : Option (NamedClass × List Char) :=
  classNames.findSome? fun (name, found) =>
    let written := ("[:" ++ name ++ ":]").toList
    if written.isPrefixOf text then some (found, text.drop written.length) else none

def classChar? : List Char → Option (Char × List Char)
  | '\\' :: c :: rest => some (c, rest)
  | c :: rest => some (c, rest)
  | [] => none

/-- Whether a text names a class that holds characters of all scripts. Its segment is compared by
    characters. -/
def namesScripts : List Char → Bool
  | [] => false
  | c :: rest =>
    (className? (c :: rest)).any (fun (name, _) => name != .ascii && name != .xdigit) ||
      namesScripts rest

/-- The members of a class for a character, each of its codes for itself. -/
def singleItems (wide : Bool) (c : Char) : List ClassItem :=
  (codes wide [c]).map fun code => .range code code

/-- The members of a class for a range between characters, of which the codes next to the hyphen
    are the ends. The wrong way round there is nothing between them. -/
def rangeItems (wide : Bool) (first last : Char) : List ClassItem :=
  match (codes wide [first]).reverse, codes wide [last] with
  | low :: before, high :: after =>
    (before ++ after).map (fun code => .range code code) ++
      if low ≤ high then [.range low high] else []
  | _, _ => []

/-- Reads a class up to its closing bracket, which cannot be its first character. A named class
    cannot end a range: then the class is empty and nothing follows it. -/
def readClass (purpose : Purpose) (wide : Bool) : Nat → Bool → List ClassItem → List Char →
    Option (List ClassItem × List Char)
  | 0, _, _, _ => none
  | fuel + 1, started, items, text =>
    match className? text with
    | some (name, rest) =>
      readClass purpose wide fuel true (items ++ [.named (purpose == .filter) name]) rest
    | none =>
      if started && text.head? == some ']' then some (items, text.drop 1)
      else
        match classChar? text with
        | none => none
        | some (c, '-' :: ']' :: rest) =>
          readClass purpose wide fuel true
            (items ++ singleItems wide c ++ singleItems wide '-') (']' :: rest)
        | some (c, '-' :: rest) =>
          if (className? rest).isSome then some ([], [])
          else
            match classChar? rest with
            | some (last, rest) =>
              readClass purpose wide fuel true (items ++ rangeItems wide c last) rest
            | none => none
        | some (c, rest) => readClass purpose wide fuel true (items ++ singleItems wide c) rest

/-- Classes of plain characters in searches stand for their own text as well. -/
def isPlainClass (text : List Char) : Bool :=
  !text.any "-*+?.^$\x7b\x7d(|)[\\]".toList.contains

/-- The pieces for a text that stands for itself. -/
def literals (wide : Bool) (text : List Char) : List Piece :=
  (codes wide text).map .literal

/-- Reads a class after its opening bracket. -/
def readBracket (purpose : Purpose) (wide : Bool) (text : List Char) : Option (Piece × List Char) :=
  let (negated, inside) := match text with
    | '!' :: rest => (true, rest)
    | '^' :: rest => (true, rest)
    | rest => (false, rest)
  (readClass purpose wide (inside.length + 1) false [] inside).map fun (items, rest) =>
    let written := text.take (text.length - rest.length - 1)
    match purpose, negated, items with
    | .filter, _, [] => (.oneOf false [], rest)
    | .filter, false, [.range a b] =>
      (if a = b then .literal a else .oneOf false items, rest)
    | .search _, false, _ =>
      if isPlainClass written then
        (.group .once [literals wide ('[' :: written ++ [']']), [.oneOf false items]], rest)
      else (.oneOf false items, rest)
    | _, _, _ => (.oneOf negated items, rest)

def times? : Char → Option Times
  | '@' => some .once
  | '?' => some .atMostOnce
  | '+' => some .atLeastOnce
  | '*' => some .anyNumber
  | _ => none

/-- Whether the text after a closing parenthesis is only an extension. -/
def isExtension : List Char → Bool
  | '.' :: rest => !rest.isEmpty && rest.all fun c => c != '.' && c != '/' && c != '\\'
  | _ => false

/-- The piece for alternatives in parentheses after a sign. In searches, an exception need not
    reach to the end of the segment unless that is the end of the pattern, and the exception stands
    there or starts with anything. -/
def groupPiece (purpose : Purpose) (sign : Char) (alternatives : List (List Piece))
    (rest : List Char) : Piece :=
  match times? sign with
  | some times => .group times alternatives
  | none =>
    let hasMany := alternatives.any (·.any fun | .many => true | _ => false)
    let reaches := rest.all (· == ')') || (hasMany && isExtension rest)
    let whole := match purpose with
      | .filter => true
      | .search last => last && reaches
    .except whole alternatives

/-- What follows a group, and what it makes of it. In searches, a question mark behind a group is no
    character: it lets the group be left out. -/
def closeGroup (purpose : Purpose) (piece : Piece) (rest : List Char) : Piece × List Char :=
  match purpose, rest with
  | .search _, '?' :: '(' :: _ => (piece, rest)
  | .search _, '?' :: rest =>
    match piece with
    | .group .once alternatives => (.group .atMostOnce alternatives, rest)
    | .except _ _ => (.group .atMostOnce [[piece]], rest)
    | _ => (piece, rest)
  | _, _ => (piece, rest)

def isSign (c : Char) : Bool :=
  c == '!' || (times? c).isSome

/-- Reads the alternatives of a group up to its closing parenthesis, or a whole segment. Signs
    and brackets that are not closed stand for themselves. -/
def readPieces (purpose : Purpose) (wide : Bool) : Nat → Bool → List (List Piece) → List Piece →
    List Char → Option (List (List Piece) × List Char)
  | 0, _, _, _, _ => none
  | fuel + 1, inside, done, pieces, text =>
    let next (piece : Piece) (rest : List Char) :=
      readPieces purpose wide fuel inside done (pieces ++ [piece]) rest
    let close (group : Piece) (rest : List Char) :=
      let (piece, rest) := closeGroup purpose group rest
      next piece rest
    let plain (c : Char) (rest : List Char) :=
      readPieces purpose wide fuel inside done (pieces ++ literals wide [c]) rest
    let single (c : Char) (rest : List Char) :=
      if c == '*' then
        match pieces.getLast? with
        | some .many => readPieces purpose wide fuel inside done pieces rest
        | _ => next .many rest
      else if c == '?' then next .one rest
      else plain c rest
    match text with
    | [] => if inside then none else some (done ++ [pieces], [])
    | '\\' :: c :: rest => plain c rest
    | ')' :: rest => if inside then some (done ++ [pieces], rest) else plain ')' rest
    | '|' :: rest =>
      if inside then readPieces purpose wide fuel inside (done ++ [pieces]) [] rest
      else plain '|' rest
    | '[' :: rest =>
      match readBracket purpose wide rest with
      | some (piece, rest) => next piece rest
      | none => plain '[' rest
    | '(' :: rest =>
      match purpose, readPieces purpose wide fuel true [] [] rest with
      | .search _, some (alternatives, rest) => close (.group .once alternatives) rest
      | _, _ => plain '(' rest
    | sign :: '(' :: rest =>
      if isSign sign then
        match readPieces purpose wide fuel true [] [] rest with
        | some (alternatives, more) => close (groupPiece purpose sign alternatives more) more
        | none => single sign ('(' :: rest)
      else single sign ('(' :: rest)
    | c :: rest => single c rest

/-- After wildcards alone, a filter takes a text without further signs as it stands. -/
def verbatimTail? (purpose : Purpose) (wide : Bool) (text : List Char) : Option (List Piece) :=
  let wildcards (c : Char) (piece : Piece) : Option (List Piece) :=
    let tail := text.dropWhile (· == c)
    if purpose == .filter && text.head? == some c && !tail.any "+@!?*[(".toList.contains then
      let count := if c == '*' then 1 else text.length - tail.length
      some (List.replicate count piece ++ literals wide tail)
    else none
  (wildcards '*' .many).orElse fun _ => wildcards '?' .one

def isPoint : Piece → Bool
  | .literal code => code == point
  | _ => false

def isWildcard : Piece → Bool
  | .many | .one => true
  | .oneOf _ _ => true
  | _ => false

/-- Wildcards at the start of a segment do not stand for every point: a filter keeps them off the
    two names of points alone, and a search for visible files off all names that start so. -/
def guarded (purpose : Purpose) (hidden : Bool) (pieces : List Piece) : List Piece :=
  let guard : Piece := if hidden then .noDots else .visible
  match purpose, pieces with
  | _, [.many] => guard :: .nonEmpty :: pieces
  | .search _, .many :: _ => guard :: .nonEmpty :: pieces
  | .search _, .one :: _ => guard :: pieces
  | .search _, _ => pieces
  | .filter, first :: rest =>
    let tail :=
      if !isPoint first then pieces
      else if rest.head?.any isPoint then rest.tail
      else rest
    if tail.head?.any isWildcard then guard :: pieces else pieces
  | .filter, [] => []

def isGroup : Piece → Bool
  | .group _ _ | .except _ _ => true
  | _ => false

/-- In filters, stars with only groups or nothing around them stand for at least one character.
    `alone` tells whether nothing else is right before. -/
def fillStars (alone : Bool) : List Piece → List Piece
  | [] => []
  | .many :: rest =>
    if alone && rest.head?.all isGroup then .one :: .many :: fillStars false rest
    else .many :: fillStars false rest
  | piece :: rest => piece :: fillStars (isGroup piece) rest

/-- Reads the pattern for one segment of a path. -/
def readSegment (purpose : Purpose) (hidden : Bool) (text : List Char) : Part :=
  let wide := purpose == .filter && namesScripts text
  let pieces := match verbatimTail? purpose wide text with
    | some pieces => pieces
    | none =>
      match readPieces purpose wide (text.length + 1) false [] [] text with
      | some ([pieces], _) => if purpose == .filter then fillStars true pieces else pieces
      | _ => literals wide text
  .segment wide (guarded purpose hidden pieces)

end NamedParams.Glob
