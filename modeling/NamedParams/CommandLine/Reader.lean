import NamedParams.CommandLine.Option

namespace NamedParams.CommandLine

/-- What some arguments set, and what is left of them: the operands before the first option that is
    not known, and everything from there on. -/
structure Arguments where
  settings : List (String × Option String)
  operands : List String
  unknown : List String
deriving DecidableEq, Repr, Inhabited

/-- Why the reading of arguments breaks off. -/
inductive Interruption where
  | answered (option : OptionInfo)
  | valueMissing (option : OptionInfo)
deriving DecidableEq, Repr, Inhabited

namespace Arguments

def none : Arguments := ⟨[], [], []⟩

def set (arguments : Arguments) (option : OptionInfo) (value : Option String) : Arguments :=
  { arguments with settings := arguments.settings ++ [(option.long, value)] }

/-- Adds an argument that is no known option. Nothing behind an unknown option is an operand. -/
def add (arguments : Arguments) (argument : String) (isOption : Bool) : Arguments :=
  if isOption || !arguments.unknown.isEmpty then
    { arguments with unknown := arguments.unknown ++ [argument] }
  else { arguments with operands := arguments.operands ++ [argument] }

/-- Adds the arguments behind two dashes. They are no options, and if there was an unknown one the
    dashes are still needed. -/
def addRest (arguments : Arguments) (rest : List String) : Arguments :=
  if arguments.unknown.isEmpty then { arguments with operands := arguments.operands ++ rest }
  else { arguments with unknown := arguments.unknown ++ "--" :: rest }

/-- The last setting among some options. -/
def last? (arguments : Arguments) (names : List String) : Option (String × Option String) :=
  arguments.settings.reverse.find? fun setting => names.contains setting.1

def isSet (arguments : Arguments) (name : String) : Bool :=
  (arguments.last? [name]).isSome

def value? (arguments : Arguments) (name : String) : Option String :=
  (arguments.last? [name]).bind Prod.snd

end Arguments

/-- Whether an argument looks like an option: a dash alone does not. -/
def isOptionLike (argument : String) : Bool :=
  argument.toList.head? == some '-' && 1 < argument.length

/-- What an argument says about the options of a command. -/
inductive ArgumentForm where
  | option (option : OptionInfo)
  | optionWithValue (option : OptionInfo) (value : String)
  | optionBefore (option : OptionInfo) (rest : String)
  | other
deriving DecidableEq, Repr

/-- Compares an argument with the options: their names, a letter with its value or with more
    letters behind it, and a name with an equals sign and a value. -/
def formOf (options : List OptionInfo) (argument : String) : ArgumentForm :=
  let find (name : String) := options.find? (·.isNamed name)
  match find argument with
  | some option => .option option
  | none =>
    match argument.toList with
    | '-' :: '-' :: text =>
      let name := text.takeWhile (· != '=')
      let found := find (String.ofList ('-' :: '-' :: name))
      match found.filter (·.value.isSome), text.drop name.length with
      | some option, _ :: value => .optionWithValue option (String.ofList value)
      | _, _ => .other
    | '-' :: letter :: c :: text =>
      let rest := String.ofList (c :: text)
      match find (String.ofList ['-', letter]) with
      | some option =>
        if option.value.isSome then .optionWithValue option rest
        else .optionBefore option ("-" ++ rest)
      | none => .other
    | _ => .other

/-- Reads arguments by the options of a command. An option is known wherever it stands in front of
    two dashes. `fuel` bounds the number of steps. -/
def readArguments (options : List OptionInfo) :
    Nat → Arguments → List String → Except Interruption Arguments
  | 0, done, _ => .ok done
  | _ + 1, done, [] => .ok done
  | fuel + 1, done, argument :: rest =>
    if argument = "--" then .ok (done.addRest rest)
    else if !isOptionLike argument then readArguments options fuel (done.add argument false) rest
    else
      match formOf options argument with
      | .other => readArguments options fuel (done.add argument true) rest
      | .optionWithValue option value =>
        readArguments options fuel (done.set option (some value)) rest
      | .optionBefore option more =>
        if option.isImmediate then .error (.answered option)
        else readArguments options fuel (done.set option none) (more :: rest)
      | .option option =>
        if option.isImmediate then .error (.answered option)
        else if option.value.isNone then readArguments options fuel (done.set option none) rest
        else match rest with
          | value :: rest => readArguments options fuel (done.set option (some value)) rest
          | [] => .error (.valueMissing option)

/-- Reads the arguments of a command. Every step takes at least one character or argument. -/
def parseArguments (options : List OptionInfo) (arguments : List String) :
    Except Interruption Arguments :=
  let fuel := arguments.foldl (fun count argument => count + argument.length + 1) 1
  readArguments options fuel .none arguments

end NamedParams.CommandLine
