import NamedParams.Text.Units

namespace NamedParams.Text

/-- A place in a text: the offset counts code units from zero, line and column count from one. -/
structure Position where
  offset : Nat
  line : Nat
  column : Nat
deriving DecidableEq, Repr, Inhabited

/-- Moves a line and column past one character. Only a line feed ends a line, but columns are
    counted from the last line feed or carriage return. -/
def Position.past (place : Position) (c : Char) : Position :=
  if c = '\n' then ⟨place.offset + unitsOf c, place.line + 1, 1⟩
  else if c = '\r' then ⟨place.offset + unitsOf c, place.line, 1⟩
  else ⟨place.offset + unitsOf c, place.line, place.column + unitsOf c⟩

/-- The place at which a text starts. -/
def Position.origin : Position := ⟨0, 1, 1⟩

/-- Walks from `place` over the text until the offset is reached. -/
def Position.walk (place : Position) (offset : Nat) : List Char → Position
  | [] => place
  | c :: rest => if offset ≤ place.offset then place else (place.past c).walk offset rest

/-- The line and column of an offset. -/
def positionAt (text : List Char) (offset : Nat) : Position :=
  Position.origin.walk offset text

end NamedParams.Text
