import NamedParams.Command.Check
import NamedParams.Command.Explain
import NamedParams.CommandLine.Invocation

namespace NamedParams

open NamedParams.CommandLine

/-- What a run of the program prints on both channels, and its status. -/
structure Output where
  out : String
  err : String
  status : Nat
deriving DecidableEq, Repr, Inhabited

namespace Output

/-- A text on one of the channels. -/
def ofText (channel : Channel) (text : String) (status : Nat) : Output :=
  match channel with
  | .out => ⟨text, "", status⟩
  | .err => ⟨"", text, status⟩

/-- The messages on one of the channels, a line each. -/
def messages (channel : Channel) (log : List Entry) : String :=
  String.join ((log.filter (·.channel = channel)).map fun entry => entry.text ++ "\n")

def ofRun (run : CommandRun) : Output :=
  ⟨messages .out run.log, messages .err run.log, run.status⟩

end Output

namespace Program

def jsonOption (description : String) : OptionInfo :=
  ⟨some "-j", "--json", none, description, false⟩

/-- The end of the help on the command that checks files. -/
def checkExamples : String :=
  "\n".intercalate
    ["", "Examples:",
      "  # Check the configured include patterns",
      "  $ paramguard check",
      "",
      "  # Check a directory and print a table",
      "  $ paramguard check src/services --verbose",
      "",
      "  # Treat custom helpers as assertions",
      "  $ paramguard check --assert assert,invariant,check",
      "",
      "  # Machine-readable output",
      "  $ paramguard check --json",
      "",
      "Configuration (.paramguardrc.json):",
      "  \x7b",
      "    \"include\": [\"src/**/*.ts\"],",
      "    \"exclude\": [\"**/*.test.ts\"],",
      "    \"assertionFunctions\": [\"assert\", \"invariant\"]",
      "  \x7d", "", ""]

def check : CommandInfo :=
  { name := "check"
    description := "Check TypeScript files for named parameters that should be @required"
    arguments :=
      [("paths", "files or directories to check (defaults to configured include patterns)")]
    options :=
      [jsonOption "output results as JSON",
        .withValue "--tsconfig" "path" "TypeScript config used to parse files",
        .withValue "--assert" "names" "assertion functions (comma-separated)",
        .withValue "--max-findings" "n" "print at most n findings"]
    closing := checkExamples }

def explain : CommandInfo :=
  { name := "explain"
    description := "Describe the require-non-null-named-params rule"
    arguments := []
    options := [jsonOption "output rule metadata as JSON"]
    closing := "" }

def version : String := "0.1.0"

def info : ProgramInfo :=
  { name := "paramguard"
    description := "Flag named parameters that are asserted non-null but not marked @required"
    options :=
      [⟨some "-V", "--version", none, "output the version number", true⟩,
        .withValue "--config" "path" "specify config file path",
        .flag "--no-config" "ignore config file",
        .withValue "--cwd" "path" "change working directory",
        .flag "--verbose" "enable verbose output",
        .flag "--quiet" "suppress output",
        .flag "--no-color" "disable colored output"]
    commands := [check, explain] }

/-- Which configuration is asked for: the last option that tells. -/
def configChoice (arguments : Arguments) : ConfigChoice :=
  match arguments.last? ["--config", "--no-config"] with
  | some ("--config", some path) => .given path
  | some _ => .off
  | none => .searched

def presence (arguments : Arguments) (name : String) : Option Bool :=
  if arguments.isSet name then some true else none

def programOptions (arguments : Arguments) : ProgramOptions :=
  { config := configChoice arguments
    directory := arguments.value? "--cwd"
    verbose := presence arguments "--verbose"
    quiet := presence arguments "--quiet" }

/-- The command that is asked for, as a function of its environment. -/
def commandOf (tree : FileTree) (root : List String) (time : String) (command : CommandInfo)
    (output : OutputOptions) (own : Arguments) (operands : List String) :
    Environment → CommandRun :=
  if command = explain then runExplain output
  else
    runCheck tree root time
      { paths := operands
        output
        tsconfig := own.value? "--tsconfig"
        assertions := own.value? "--assert"
        maxFindings := own.value? "--max-findings" }

/-- The help on a command, or on the program. -/
def helpOn : Option CommandInfo → String
  | some command => command.help info
  | none => info.help

/-- Runs the program with some arguments in a directory of a file tree. -/
def run (tree : FileTree) (root : List String) (color : Bool) (time : String)
    (arguments : List String) : Output :=
  match info.parse arguments with
  | .answer _ => .ofText .out (version ++ "\n") 0
  | .help command isWanted =>
    if isWanted then .ofText .out (helpOn command) 0 else .ofText .err (helpOn command) 1
  | .mistake mistake => .ofText .err (mistake.message ++ "\n") 1
  | .run command global own operands =>
    let options := programOptions global
    let output : OutputOptions := ⟨none, none, own.isSet "--json"⟩
    .ofRun (runCommand tree root color options output
      (commandOf tree root time command (output.withShared options) own operands))

end Program

end NamedParams
