namespace NamedParams.CommandLine

/-- An option of a command. `value` names the value that it takes, and an immediate option is
    answered before the rest of the line is read. -/
structure OptionInfo where
  short : Option String
  long : String
  value : Option String
  description : String
  isImmediate : Bool
deriving DecidableEq, Repr, Inhabited

namespace OptionInfo

def flag (long description : String) : OptionInfo :=
  ⟨none, long, none, description, false⟩

def withValue (long value description : String) : OptionInfo :=
  ⟨none, long, some value, description, false⟩

/-- How an option is written. -/
def usage (option : OptionInfo) : String :=
  (option.short.map (· ++ ", ")).getD "" ++ option.long ++
    (option.value.map (" <" ++ · ++ ">")).getD ""

def isNamed (option : OptionInfo) (name : String) : Bool :=
  option.long = name || option.short = some name

/-- The option that asks for help. Every command has it. -/
def help : OptionInfo :=
  ⟨some "-h", "--help", none, "display help for command", false⟩

end OptionInfo

/-- A command, with the arguments and options that it takes and what its help says at the end. -/
structure CommandInfo where
  name : String
  description : String
  arguments : List (String × String)
  options : List OptionInfo
  closing : String
deriving DecidableEq, Repr, Inhabited

/-- A program with its own options and its commands. -/
structure ProgramInfo where
  name : String
  description : String
  options : List OptionInfo
  commands : List CommandInfo
deriving DecidableEq, Repr, Inhabited

end NamedParams.CommandLine
