namespace NamedParams

/-- How a text stands out on a terminal. -/
inductive Style where
  | bold
  | gray
  | red
  | green
  | yellow
  | blue
  | cyan
deriving DecidableEq, Repr, Inhabited

namespace Style

/-- A terminal code: what follows the bracket of an escape. -/
def code (number : String) : List Char :=
  '\x1b' :: '[' :: number.toList ++ ['m']

def start : Style → List Char
  | bold => code "1"
  | gray => code "90"
  | red => code "31"
  | green => code "32"
  | yellow => code "33"
  | blue => code "34"
  | cyan => code "36"

def stop : Style → List Char
  | bold => code "22"
  | _ => code "39"

/-- Starts the style again where the text itself ends it, and interrupts it at the end of every
    line. `skip` characters are still part of a code. -/
def paintInside (style : Style) : Nat → List Char → List Char
  | skip, '\r' :: '\n' :: rest =>
    style.stop ++ '\r' :: '\n' :: style.start ++ paintInside style (skip - 2) rest
  | skip, '\n' :: rest => style.stop ++ '\n' :: style.start ++ paintInside style (skip - 1) rest
  | skip, c :: rest =>
    let skip := if style.stop.isPrefixOf (c :: rest) then style.stop.length else skip
    if skip = 1 then c :: style.start ++ paintInside style 0 rest
    else c :: paintInside style (skip - 1) rest
  | _, [] => []

end Style

/-- Shows a text in a style, if styles are on. An empty text stays empty. -/
def paint (color : Bool) (style : Style) (text : String) : String :=
  if color && !text.isEmpty then
    String.ofList (style.start ++ style.paintInside 0 text.toList ++ style.stop)
  else text

end NamedParams
