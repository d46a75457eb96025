import NamedParams.CompilerSettings
import NamedParams.Detector
import NamedParams.Environment
import NamedParams.FileSearch
import NamedParams.Presentation

namespace NamedParams

/-- The options of the command that checks files. -/
structure CheckOptions where
  paths : List String
  output : OutputOptions
  tsconfig : Option String
  assertions : Option String
  maxFindings : Option String
deriving DecidableEq, Repr, Inhabited

namespace CheckOptions

def isVerbose (options : CheckOptions) : Bool :=
  options.output.verbose.getD false

def isQuiet (options : CheckOptions) : Bool :=
  options.output.quiet.getD false

/-- How the result is shown. -/
def presentation (options : CheckOptions) (environment : Environment) : Presentation :=
  { json := options.output.json
    verbose := options.isVerbose
    quiet := options.isQuiet
    limit := (options.maxFindings.bind positiveArgument?).map Int.ofNat
    directory := environment.directory
    color := environment.logger.color }

/-- The message that a step starts with. -/
def started (options : CheckOptions) (text : String) : List Entry :=
  if options.isQuiet || options.output.json then [] else [⟨.err, "- " ++ text⟩]

/-- The message that a step ends with. -/
def done (options : CheckOptions) (text : String) : List Entry :=
  if options.isQuiet || options.output.json then [] else [⟨.err, "✔ " ++ text⟩]

/-- The message that a step fails with. -/
def failed (options : CheckOptions) (text : String) : List Entry :=
  if options.isQuiet || options.output.json then [] else [⟨.err, "✖ " ++ text⟩]

/-- What to do about findings. -/
def nextSteps (options : CheckOptions) (color : Bool) : List Entry :=
  if options.isQuiet || options.output.json then []
  else
    [⟨.out, paint color .bold "\nNext steps:"⟩,
      ⟨.out, "  • Import " ++ paint color .cyan "required" ++ " from " ++
        paint color .cyan "'meta'" ++ " and decorate the parameter"⟩,
      ⟨.out, "  • Or give the property a default value"⟩,
      ⟨.out, paint color .gray "  Run \"paramguard explain\" for examples"⟩]

end CheckOptions

/-- The error that a message tells of. -/
def Thrown.ofMessage (message : String) : Thrown :=
  .error message ("Error: " ++ message)

/-- The failure to find any file. -/
def noFiles (paths : List String) : Failure :=
  { code := .noFilesFound
    message := "No TypeScript files matched the given paths"
    details := some (.object [("paths", .array (paths.map .string))])
    cause := none }

/-- What is printed at the end of a check, and the status: one if there are findings. -/
def showResult (options : CheckOptions) (environment : Environment) (result : CheckResult)
    (log : List Entry) : CommandRun :=
  let presentation := options.presentation environment
  match result.format presentation with
  | .error error => ⟨log, .broken (.ofMessage error.message)⟩
  | .ok text =>
    let log := log ++ [⟨.out, text⟩]
    if 0 < result.summary.total then
      ⟨log ++ options.nextSteps presentation.color, .completed 1⟩
    else ⟨log, .completed 0⟩

/-- Checks files and shows the findings. Failures to read the targets, to find files or to use the
    settings of the compiler stop it, and are reported even if messages are off. -/
def runCheck (tree : FileTree) (root : List String) (time : String) (options : CheckOptions)
    (environment : Environment) : CommandRun :=
  let color := environment.logger.color
  let errorLogger : Logger := ⟨options.isVerbose, false, color⟩
  let stop (log : List Entry) (text : String) (failure : Failure) : CommandRun :=
    .stop (log ++ options.failed text) failure errorLogger
  let config := environment.config.config.override root (Path.absolute environment.directory)
    options.tsconfig options.assertions
  let log := options.started "Finding TypeScript files..."
  match filesToCheck tree root options.paths config environment.directory with
  | .error message =>
    stop log "Could not read target paths"
      (Failure.ofThrown .fileNotAccessible (.ofMessage message))
  | .ok [] => stop log "No TypeScript files found" (noFiles options.paths)
  | .ok files =>
    let log := log ++ options.done ("Found " ++ toString files.length ++ " TypeScript files") ++
      options.started "Checking named parameters..."
    let settings := config.tsconfigPath.filter (· != "")
    match settings.bind (CompilerSettings.complaint? tree) with
    | some message =>
      stop log "Could not load TypeScript configuration"
        (Failure.ofThrown .typeScriptConfig (.ofMessage message))
    | none =>
      let (report, _) := checkPaths config environment.logger root ⟨[], tree⟩ files
      showResult options environment (report.result config time)
        (log ++ report.log ++ options.done "Analysis complete")

end NamedParams
