import NamedParams.Text.Units

namespace NamedParams.CommandLine

open NamedParams.Text

/-- How many single edits, of which one may swap neighbours, turn the start of one word that ends
    in `a` into each start of another. `above` and `previous` are the answers for one and for two
    characters less of the first word. -/
def editRow (a : Nat) (before : Option Nat) (b : List Nat) (above previous : List Nat) :
    List Nat :=
  let rec go (left : Nat) (last : Option Nat) : List Nat → List Nat → List Nat → List Nat
    | c :: b, diagonal :: up :: above, previous =>
      let plain := min (min (up + 1) (left + 1)) (diagonal + if a = c then 0 else 1)
      let best := match previous with
        | swapped :: _ =>
          if before = some c && last = some a then min plain (swapped + 1) else plain
        | [] => plain
      best :: go best (some c) b (up :: above) (if last.isSome then previous.drop 1 else previous)
    | _, _, _ => []
  let first := (above.head?.getD 0) + 1
  first :: go first none b above previous

/-- How many single edits turn one word into another, if no character is edited twice. -/
def editDistance (a b : List Nat) : Nat :=
  let rec go (before : Option Nat) (above previous : List Nat) : List Nat → List Nat
    | [] => above
    | c :: rest => go (some c) (editRow c before b above previous) above rest
  ((go none (List.range (b.length + 1)) [] a).getLast?).getD 0

/-- At most this many edits lead to a word that is meant. -/
def mostEdits : Nat := 3

/-- The edits that lead to a candidate, if it can be meant: more than two fifths of the longer word
    have to stay. -/
def edits? (word candidate : List Nat) : Option Nat :=
  let longer := max word.length candidate.length
  let distance :=
    if mostEdits < longer - min word.length candidate.length then longer
    else editDistance word candidate
  if 1 < candidate.length && 2 * longer < 5 * (longer - distance) && distance ≤ mostEdits then
    some distance
  else none

/-- The candidates that are closest to a word, in order. -/
def similar (word : String) (candidates : List String) : List String :=
  let rated := candidates.eraseDups.filterMap fun candidate =>
    (edits? (encode word.toList) (encode candidate.toList)).map (·, candidate)
  let best := (rated.map Prod.fst).foldl min mostEdits
  ((rated.filter (·.1 = best)).map Prod.snd).mergeSort unitsLE

/-- The question behind a complaint about a word: which of some candidates it was meant to be. -/
def suggestion (word : String) (candidates : List String) : String :=
  let dashes := ['-', '-']
  let isOption := dashes.isPrefixOf word.toList
  let bare (text : String) := if isOption then String.ofList (text.toList.drop 2) else text
  let meant := (similar (bare word) (candidates.map bare)).map fun name =>
    if isOption then "--" ++ name else name
  match meant with
  | [] => ""
  | [name] => "\n(Did you mean " ++ name ++ "?)"
  | names => "\n(Did you mean one of " ++ ", ".intercalate names ++ "?)"

end NamedParams.CommandLine
