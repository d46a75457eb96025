import NamedParams.Config.Search

namespace NamedParams

/-- Which configuration the command line asks for: one that is searched for, one at a path, or
    none. -/
inductive ConfigChoice where
  | searched
  | given (path : String)
  | off
deriving DecidableEq, Repr, Inhabited

/-- The options that all commands share. -/
structure ProgramOptions where
  config : ConfigChoice
  directory : Option String
  verbose : Option Bool
  quiet : Option Bool
deriving DecidableEq, Repr, Inhabited

/-- The options of a command that tell how much it prints. -/
structure OutputOptions where
  verbose : Option Bool
  quiet : Option Bool
  json : Bool
deriving DecidableEq, Repr, Inhabited

/-- What a command runs in: the configuration, the directory that its paths start from, and who
    prints the messages of the program around it and its own. -/
structure Environment where
  config : LoadedConfig
  directory : List String
  programLogger : Logger
  logger : Logger
deriving Repr, Inhabited

/-- How a command ends: it comes to its end or stops early, with a status, or something is thrown
    that it does not handle. -/
inductive CommandEnding where
  | completed (status : Nat)
  | stopped (status : Nat)
  | broken (cause : Thrown)
deriving Inhabited

/-- What a command prints, and how it ends. -/
structure CommandRun where
  log : List Entry
  ending : CommandEnding
deriving Inhabited

namespace CommandRun

def status (run : CommandRun) : Nat :=
  match run.ending with
  | .completed status | .stopped status => status
  | .broken _ => 1

/-- A command that stops early because of a failure, with what it has printed before. -/
def stop (log : List Entry) (failure : Failure) (logger : Logger) : CommandRun :=
  ⟨log ++ failure.handle logger true, .stopped failure.code.exitStatus⟩

end CommandRun

namespace OutputOptions

/-- What a command does not say about its output, the options of the program say. -/
def withShared (options : OutputOptions) (shared : ProgramOptions) : OutputOptions :=
  { options with
    verbose := options.verbose.or shared.verbose, quiet := options.quiet.or shared.quiet }

end OutputOptions

namespace ProgramOptions

/-- The directory that the paths of a command start from. -/
def place (shared : ProgramOptions) (root : List String) : List String :=
  Path.resolve root (shared.directory.getD "")

/-- The configuration that the options ask for. -/
def request (shared : ProgramOptions) (root : List String) : ConfigRequest :=
  let directory := shared.place root
  { path := match shared.config with
      | .given path => some (Path.absolute (Path.resolve directory path))
      | _ => none
    start := some (Path.absolute directory)
    isOff := shared.config = .off }

end ProgramOptions

namespace Environment

/-- Sets up what a command runs in. Data on the output must not be mixed with messages. -/
def create (tree : FileTree) (root : List String) (color : Bool) (shared : ProgramOptions)
    (options : OutputOptions) : Except ConfigFailure Environment := do
  let config ← (ConfigLoader.start.load tree root (shared.request root)).1
  let options := options.withShared shared
  return {
    config
    directory := shared.place root
    programLogger := ⟨shared.verbose.getD false, shared.quiet.getD false || options.json, color⟩
    logger := ⟨options.verbose.getD false, options.quiet.getD false || options.json, color⟩ }

/-- The message about the configuration in use. -/
def announcement (environment : Environment) : List Entry :=
  environment.programLogger.debug (match environment.config.file with
    | some file => "Using config " ++ Path.absolute file
    | none => "Using default configuration")

end Environment

/-- Runs a command in its environment. Whatever it does not handle, and whatever goes wrong before
    it starts, is reported even if messages are off. -/
def runCommand (tree : FileTree) (root : List String) (color : Bool) (shared : ProgramOptions)
    (options : OutputOptions) (command : Environment → CommandRun) : CommandRun :=
  let report (log : List Entry) (cause : Thrown) : CommandRun :=
    .stop log (Failure.ofThrown .unknown cause) ⟨shared.verbose.getD false, false, color⟩
  match Environment.create tree root color shared options with
  | .error failure => report [] failure.thrown
  | .ok environment =>
    let run := command environment
    let log := environment.announcement ++ run.log
    match run.ending with
    | .broken cause => report log cause
    | ending => ⟨log, ending⟩

end NamedParams
