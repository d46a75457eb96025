import NamedParams.CommandLine.Option

namespace NamedParams.CommandLine

/-- The width of help texts. -/
def helpWidth : Nat := 80

/-- Fills lines with words, of which each line takes as many as fit. -/
def fillLines (width : Nat) (line : String) : List String → List String
  | [] => [line]
  | word :: words =>
    let longer := line ++ " " ++ word
    if longer.length ≤ width then fillLines width longer words
    else line :: fillLines width word words

/-- Breaks a text between words. -/
def wrap (width : Nat) (text : String) : List String :=
  match (text.toList.splitOn ' ').map String.ofList with
  | [] => []
  | word :: words => fillLines width word words

def spaces (count : Nat) : String :=
  String.ofList (List.replicate count ' ')

/-- A term with its description in a column of its own. -/
def item (termWidth : Nat) (term description : String) : List String :=
  let indent := termWidth + 4
  match wrap (helpWidth - indent - 1) description with
  | [] => ["  " ++ term]
  | first :: rest =>
    ("  " ++ term ++ spaces (termWidth + 2 - term.length) ++ first) ::
      rest.map (spaces indent ++ ·)

/-- A titled list of terms, if there are any. -/
def block (termWidth : Nat) (title : String) (items : List (String × String)) : List String :=
  if items.isEmpty then []
  else (title ++ ":") :: items.flatMap (fun (term, text) => item termWidth term text) ++ [""]

/-- The options of a command as terms. -/
def optionItems (options : List OptionInfo) : List (String × String) :=
  (options ++ [OptionInfo.help]).map fun option => (option.usage, option.description)

/-- A help text: the usage, the description and lists of terms. -/
def helpText (usage description : String) (blocks : List (String × List (String × String))) :
    String :=
  let terms := blocks.flatMap fun (_, items) => items.map (·.1.length)
  let termWidth := terms.foldl max 0
  "\n".intercalate
    (["Usage: " ++ usage, "", description, ""] ++
      blocks.flatMap fun (title, items) => block termWidth title items)

/-- How a command is written. -/
def CommandInfo.usage (command : CommandInfo) : String :=
  " ".intercalate
    ([command.name, "[options]"] ++ command.arguments.map fun (name, _) => "[" ++ name ++ "...]")

/-- The help of a command. -/
def CommandInfo.help (program : ProgramInfo) (command : CommandInfo) : String :=
  helpText (program.name ++ " " ++ command.usage) command.description
    [("Arguments", command.arguments), ("Options", optionItems command.options)] ++ command.closing

/-- The help of a program. -/
def ProgramInfo.help (program : ProgramInfo) : String :=
  let commands := program.commands.map fun command => (command.usage, command.description)
  helpText (program.name ++ " [options] [command]") program.description
    [("Options", optionItems program.options),
      ("Commands", commands ++ [("help [command]", "display help for command")])]

end NamedParams.CommandLine
