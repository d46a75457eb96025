import NamedParams.Source.Grammar.Statements

namespace NamedParams.Source

open Reader Grammar

variable {source : List Char}

/-- The reader of each construct, given readers of the constructs inside it. -/
def Grammar.read (rules : Rules source) : Rules source
  | .expression => expression rules
  | .assignment returnType => assignment rules returnType
  | .operand above => operand rules above
  | .unary => unary rules
  | .leftHandSide => leftHandSide rules
  | .type => type rules
  | .bindingTarget => bindingTarget rules
  | .statement => statement rules
  | .element => element rules

/-- The readers for constructs that contain each other to a limited depth. -/
def Grammar.toDepth : Nat → Rules source
  | 0 => fun _ => fail
  | count + 1 => fun rule => read (toDepth count) rule

/-- Every construct inside another starts later than it or is simpler than it, so the depth of
    constructs in a text is bounded by a multiple of its length. -/
def Grammar.rules (source : List Char) : Rules source :=
  toDepth (8 * (source.length + 2))

/-- A statement of a file. Where there is no statement, a single token stands for itself, so that
    every text can be read to its end. -/
def Grammar.fileStep : Reader source Bool := do
  if (← atKind .endOfFile) then
    take
    return false
  if !(← attempt (Grammar.rules source .statement)) then node .stray take
  return true

end NamedParams.Source
