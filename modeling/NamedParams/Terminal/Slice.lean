import NamedParams.Number.Numeral
import NamedParams.Terminal.Width

namespace NamedParams.Terminal

open NamedParams.Number

/-- The code that ends what a code starts. -/
def closers : List ((Nat × Nat) × Nat) :=
  [((0, 0), 0), ((1, 2), 22), ((3, 3), 23), ((4, 4), 24), ((7, 7), 27), ((8, 8), 28), ((9, 9), 29),
    ((30, 37), 39), ((40, 47), 49), ((90, 97), 39), ((100, 107), 49)]

/-- A code with several numbers counts as the colours that its first digit starts. -/
def closerOf? (code : List Char) : Option (List Char) :=
  let code := if code.contains ';' then code.take 1 ++ ['0'] else code
  let number := numeral (code.takeWhile Char.isDigit)
  (closers.find? fun ((first, last), _) => first ≤ number && number ≤ last).map
    fun (_, closer) => (toString closer).toList

def escapeCode (code : List Char) : List Char :=
  '\x1b' :: '[' :: code ++ ['m']

/-- The codes that are still in force. One that is ended later is left out, together with its
    end. -/
def openCodes : Nat → List (List Char) → List (List Char)
  | 0, codes => codes
  | fuel + 1, code :: rest =>
    match closerOf? code with
    | some closer =>
      if rest.contains closer then openCodes fuel (rest.erase closer)
      else code :: openCodes fuel rest
    | none => code :: openCodes fuel rest
  | _, [] => []

/-- Starts again what is in force where a slice begins. -/
def reopen (codes : List (List Char)) : List Char :=
  (openCodes codes.length codes).flatMap escapeCode

/-- Ends what is in force where a slice ends, first of all what the last code started. An unknown
    code makes it end everything. -/
def closeAll (codes : List (List Char)) (last : Option (List Char)) : List Char :=
  let inForce := openCodes codes.length codes
  let known := inForce.takeWhile fun code => (closerOf? code).isSome
  let reset := if known.length < inForce.length then [escapeCode ['0']] else []
  let ends := (known.filterMap closerOf?).map escapeCode ++ reset
  let ends := ends.eraseDups
  let first := (last.bind closerOf?).map escapeCode
  let (front, back) := ends.partition fun code => some code == first
  (front ++ back).flatten

/-- How far a slice has got: the columns seen, the column at which it stops, the codes seen, and
    what it holds. -/
structure Slicing where
  column : Nat
  stop : Nat
  insideCode : Bool
  code : Option (List Char)
  codes : List (List Char)
  taken : List Char
deriving Repr, Inhabited

/-- The number in the code that an escape starts. -/
def codeNumber? (text : List Char) : Option (List Char) :=
  let found := ((text.take 18).dropWhile (!·.isDigit)).takeWhile (· != 'm')
  if found.isEmpty then none else some found

/-- Goes on to the next character. A wide one in the basic plane takes two columns. -/
def Slicing.advance (state : Slicing) (bounded : Bool) (c : Char) (rest : List Char) : Slicing :=
  let escape := isEscape c
  let code := if escape then codeNumber? (c :: rest) else state.code
  let enters := escape && state.column < state.stop
  let leaves := !escape && state.insideCode && c == 'm'
  let inside := enters || (state.insideCode && !leaves)
  let codes := if enters then state.codes ++ code.toList else state.codes
  let wide := c.toNat < 0x10000 && isWide c
  let column := state.column + (if inside || leaves then 0 else 1) + (if wide then 1 else 0)
  let stop := if wide && !bounded then state.stop + 1 else state.stop
  { state with column, stop, insideCode := inside, code, codes }

/-- Takes the characters from one column on up to another. -/
def sliceFrom (start : Nat) (bounded : Bool) (state : Slicing) : List Char → List Char
  | [] => state.taken
  | c :: rest =>
    let state := state.advance bounded c rest
    if start < state.column && state.column ≤ state.stop then
      sliceFrom start bounded { state with taken := state.taken ++ [c] } rest
    else if state.column = start && !state.insideCode && state.code.isSome then
      sliceFrom start bounded { state with taken := reopen state.codes } rest
    else if state.stop ≤ state.column then state.taken ++ closeAll state.codes state.code
    else sliceFrom start bounded state rest

/-- The part of a text between two columns, or from one column on to its end. -/
def slice (text : List Char) (start : Nat) (stop : Option Nat) : List Char :=
  sliceFrom start stop.isSome
    { column := 0
      stop := stop.getD text.length
      insideCode := false
      code := none
      codes := []
      taken := [] } text

end NamedParams.Terminal
