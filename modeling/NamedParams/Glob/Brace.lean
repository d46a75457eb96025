import NamedParams.Number.Numeral

namespace NamedParams.Glob

open NamedParams.Number

/-- A character of a pattern. Behind a backslash it stands for itself. -/
structure Letter where
  char : Char
  quoted : Bool
deriving DecidableEq, Repr, Inhabited

def Letter.is (letter : Letter) (c : Char) : Bool :=
  letter.char == c && !letter.quoted

def plain (text : List Char) : List Letter :=
  text.map fun c => ⟨c, false⟩

/-- Pairs the characters of a pattern with their backslashes, for those characters that mean
    something to braces. Other backslashes are letters. -/
def letters (special : Char → Bool) : List Char → List Letter
  | '\\' :: c :: rest =>
    if special c then ⟨c, true⟩ :: letters special rest
    else ⟨'\\', false⟩ :: letters special (c :: rest)
  | c :: rest => ⟨c, false⟩ :: letters special rest
  | [] => []
termination_by text => text.length

/-- The text of letters, with or without the backslashes of the quoted ones. -/
def spell (keepBackslashes : Bool) (pattern : List Letter) : List Char :=
  pattern.flatMap fun letter =>
    if letter.quoted && keepBackslashes then ['\\', letter.char] else [letter.char]

/-- Splits what follows an opening brace at the brace that closes it. -/
def splitClosing (depth : Nat) (inside : List Letter) :
    List Letter → Option (List Letter × List Letter)
  | [] => none
  | letter :: rest =>
    if letter.is '\x7d' then
      if depth = 0 then some (inside.reverse, rest)
      else splitClosing (depth - 1) (letter :: inside) rest
    else splitClosing (if letter.is '\x7b' then depth + 1 else depth) (letter :: inside) rest

/-- A text split at its first opening brace that is closed. -/
structure Braces where
  before : List Letter
  inside : List Letter
  after : List Letter
deriving Inhabited

def findBraces (before : List Letter) : List Letter → Option Braces
  | [] => none
  | letter :: rest =>
    if letter.is '\x7b' then
      match splitClosing 0 [] rest with
      | some (inside, after) => some ⟨before.reverse, inside, after⟩
      | none => findBraces (letter :: before) rest
    else findBraces (letter :: before) rest

def opening : Letter := ⟨'\x7b', false⟩

def closing : Letter := ⟨'\x7d', false⟩

/-- Joins two split texts, the last piece of the first to the first piece of the second. -/
def joinPieces : List (List Letter) → List (List Letter) → List (List Letter)
  | [], more => more
  | [last], first :: more => (last ++ first) :: more
  | [last], [] => [last]
  | piece :: rest, more => piece :: joinPieces rest more

def splitCommas (text : List Letter) : List (List Letter) :=
  text.splitOn ⟨',', false⟩

/-- Splits at the commas that are outside of all braces. -/
def options : Nat → List Letter → List (List Letter)
  | 0, text => splitCommas text
  | fuel + 1, text =>
    match findBraces [] text with
    | none => splitCommas text
    | some braces =>
      joinPieces (splitCommas braces.before)
        (joinPieces [opening :: braces.inside ++ [closing]] (options fuel braces.after))

/-- The integer that a text writes, with an optional minus. -/
def integer? : List Char → Option Int
  | '-' :: digits =>
    if !digits.isEmpty && digits.all Char.isDigit then some (-(numeral digits : Int)) else none
  | digits =>
    if !digits.isEmpty && digits.all Char.isDigit then some (numeral digits) else none

/-- Splits at two points in a row. -/
def splitPoints (piece : List Char) : List Char → List (List Char)
  | '.' :: '.' :: rest => piece.reverse :: splitPoints [] rest
  | c :: rest => splitPoints (c :: piece) rest
  | [] => [piece.reverse]

/-- The numbers from one to another, both included, in steps. -/
def steps (start : Int) (down : Bool) (step count : Nat) : List Int :=
  (List.range count).map fun i =>
    if down then start - (step * i : Nat) else start + (step * i : Nat)

def progression (start stop : Int) (step : Nat) : List Int :=
  if step = 0 then []
  else steps start (stop < start) step ((stop - start).natAbs / step + 1)

def isPadded : List Char → Bool
  | '-' :: '0' :: c :: _ => c.isDigit
  | '0' :: c :: _ => c.isDigit
  | _ => false

/-- Writes an integer with zeros in front, up to a width. -/
def writePadded (width : Nat) (n : Int) : List Char :=
  let digits := (toString n.natAbs).toList
  let sign := if n < 0 then ['-'] else []
  sign ++ List.replicate (width - (sign.length + digits.length)) '0' ++ digits

/-- The members of a range of numbers or letters: two ends and an optional step. -/
def range? (text : List Letter) : Option (List (List Letter)) :=
  let ends := splitPoints [] (spell true text)
  let step? := match ends with
    | [_, _] => some 1
    | [_, _, step] => (integer? step).map Int.natAbs
    | _ => none
  match ends, step? with
  | first :: last :: _, some step =>
    match integer? first, integer? last with
    | some start, some stop =>
      let width := if ends.any isPadded then max first.length last.length else 0
      some ((progression start stop step).map fun n => plain (writePadded width n))
    | _, _ =>
      match first, last with
      | [a], [b] =>
        if a.isAlpha && b.isAlpha then
          some ((progression a.toNat b.toNat step).map fun n =>
            if n = 92 then [] else plain [Char.ofNat n.toNat])
        else none
      | _, _ => none
  | _, _ => none

/-- A comma follows later, other than before another comma, and then a closing brace. -/
def reopens : List Letter → Bool
  | [] => false
  | letter :: rest =>
    (letter.is ',' && !(rest.head?.any (·.is ',')) && rest.any (·.is '\x7d')) || reopens rest

def embrace (text : List Letter) : List Letter :=
  opening :: text ++ [closing]

/-- All texts that a pattern with braces stands for. Braces without a comma or a range are kept,
    and so are those after a dollar sign. -/
def expand : Nat → Bool → List Letter → List (List Letter)
  | 0, _, text => [text]
  | fuel + 1, top, text =>
    match findBraces [] text with
    | none => [text]
    | some braces =>
      let after := if braces.after.isEmpty then [[]] else expand fuel false braces.after
      let isOptions := braces.inside.any (·.is ',')
      match braces.before.getLast?, range? braces.inside with
      | some ⟨'$', _⟩, _ => after.map (braces.before ++ embrace braces.inside ++ ·)
      | _, some members =>
        members.flatMap fun member => after.map (braces.before ++ member ++ ·)
      | _, none =>
        if !isOptions then
          if reopens braces.after then
            expand fuel false
              (braces.before ++ opening :: braces.inside ++ ⟨'\x7d', true⟩ :: braces.after)
          else [text]
        else
          let members := options braces.inside.length braces.inside
          let inner := match members with
            | [only] => (expand fuel false only).map embrace
            | _ => members
          match members, inner with
          | [_], [only] => after.map (braces.before ++ only ++ ·)
          | _, _ =>
            (inner.flatMap (expand fuel false)).flatMap fun member =>
              (after.map (braces.before ++ member ++ ·)).filter fun result =>
                !top || !result.isEmpty

/-- The letters that braces give a meaning to. -/
def isBraceSpecial (c : Char) : Bool :=
  c == '\\' || c == '\x7b' || c == '\x7d' || c == ',' || c == '.'

/-- Some opening brace is closed later. -/
def hasBraces (pattern : List Char) : Bool :=
  (pattern.dropWhile (· != '\x7b')).contains '\x7d'

/-- Empty braces at the start of a pattern are kept. -/
def keepLeading : List Letter → List Letter
  | ⟨'\x7b', false⟩ :: ⟨'\x7d', false⟩ :: rest => ⟨'\x7b', true⟩ :: ⟨'\x7d', true⟩ :: rest
  | pattern => pattern

/-- The patterns without alternatives in braces that a pattern stands for. -/
def expandBraces (keepBackslashes : Bool) (pattern : List Char) : List (List Char) :=
  if hasBraces pattern then
    let special := if keepBackslashes then fun _ => true else isBraceSpecial
    let start := keepLeading (letters special pattern)
    (expand (2 * start.length + 1) true start).map (spell keepBackslashes)
  else [pattern]

end NamedParams.Glob
