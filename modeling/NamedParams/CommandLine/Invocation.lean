import NamedParams.CommandLine.Help
import NamedParams.CommandLine.Reader
import NamedParams.CommandLine.Similar

namespace NamedParams.CommandLine

/-- What is wrong with a command line. -/
inductive Mistake where
  | valueMissing (option : OptionInfo)
  | unknownOption (name : String) (known : List String)
  | unknownCommand (name : String) (known : List String)
deriving DecidableEq, Repr, Inhabited

def Mistake.message : Mistake → String
  | valueMissing option => "error: option '" ++ option.usage ++ "' argument missing"
  | unknownOption name known =>
    let question := if ['-', '-'].isPrefixOf name.toList then suggestion name known else ""
    "error: unknown option '" ++ name ++ "'" ++ question
  | unknownCommand name known => "error: unknown command '" ++ name ++ "'" ++ suggestion name known

/-- What a command line asks for: the answer of an option, help on a command or on the program, or
    a command. Help that is not asked for stands in for an error. -/
inductive Invocation where
  | answer (option : OptionInfo)
  | help (command : Option CommandInfo) (isWanted : Bool)
  | mistake (mistake : Mistake)
  | run (command : CommandInfo) (global own : Arguments) (operands : List String)
deriving DecidableEq, Repr, Inhabited

def Interruption.invocation : Interruption → Invocation
  | answered option => .answer option
  | valueMissing option => .mistake (.valueMissing option)

/-- The long names of options and of the one for help. -/
def longNames (options : List OptionInfo) : List String :=
  (options ++ [OptionInfo.help]).map (·.long)

def asksForHelp (arguments : List String) : Bool :=
  arguments.any OptionInfo.help.isNamed

namespace ProgramInfo

def command? (program : ProgramInfo) (name : String) : Option CommandInfo :=
  program.commands.find? (·.name = name)

/-- What is asked for behind the name of a command. -/
def invoke (program : ProgramInfo) (command : CommandInfo) (global : Arguments)
    (operands : List String) : Invocation :=
  match parseArguments command.options global.unknown with
  | .error interruption => interruption.invocation
  | .ok own =>
    if asksForHelp own.unknown then .help (some command) true
    else match own.unknown with
      | name :: _ =>
        .mistake (.unknownOption name (longNames command.options ++ longNames program.options))
      | [] => .run command global own (operands ++ own.operands)

/-- What is asked for by the command for help. -/
def invokeHelp (program : ProgramInfo) (name : Option String) : Invocation :=
  match name.filter (· != "") with
  | none => .help none true
  | some name =>
    match program.command? name with
    | some command => .help (some command) true
    | none => .help none false

/-- What a command line asks for. The options of the program are known everywhere in it. -/
def parse (program : ProgramInfo) (arguments : List String) : Invocation :=
  match parseArguments program.options arguments with
  | .error interruption => interruption.invocation
  | .ok global =>
    match global.operands, global.unknown with
    | name :: operands, unknown =>
      match program.command? name with
      | some command => program.invoke command global operands
      | none =>
        if name = "help" then program.invokeHelp operands.head?
        else if asksForHelp unknown then .help none true
        else .mistake (.unknownCommand name (program.commands.map (·.name) ++ ["help"]))
    | [], name :: unknown =>
      if asksForHelp (name :: unknown) then .help none true
      else .mistake (.unknownOption name (longNames program.options))
    | [], [] => .help none false

end ProgramInfo

end NamedParams.CommandLine
