import NamedParams.Json.Plain
import NamedParams.Log

namespace NamedParams

/-- The kinds of failures. -/
inductive FailureCode where
  | invalidConfig
  | configNotFound
  | typeScriptConfig
  | parsing
  | fileNotAccessible
  | analysis
  | noFilesFound
  | unknown
  | cancelled
  | other (name : String)
deriving DecidableEq, Repr, Inhabited

namespace FailureCode

def known : List (String × FailureCode) :=
  [("INVALID_CONFIG", invalidConfig), ("CONFIG_NOT_FOUND", configNotFound),
    ("TYPESCRIPT_CONFIG_ERROR", typeScriptConfig), ("PARSING_FAILED", parsing),
    ("FILE_NOT_ACCESSIBLE", fileNotAccessible), ("ANALYSIS_FAILED", analysis),
    ("NO_FILES_FOUND", noFilesFound), ("UNKNOWN_ERROR", unknown),
    ("OPERATION_CANCELLED", cancelled)]

def ofName (name : String) : FailureCode :=
  (known.lookup name).getD (other name)

def name : FailureCode → String
  | other name => name
  | code => ((known.find? (·.2 = code)).map Prod.fst).getD ""

/-- What the user can do about a failure. Nothing helps against those without advice. -/
def advice : FailureCode → List String
  | invalidConfig =>
    ["Check the syntax of your .paramguardrc file", "Remove unknown or mistyped keys",
      "Run with --no-config to use the defaults"]
  | configNotFound => ["Check the path passed to --config"]
  | typeScriptConfig =>
    ["Ensure tsconfig.json is valid", "Pass a different file with --tsconfig"]
  | parsing =>
    ["Check TypeScript syntax errors", "Use exclude patterns to skip problematic files"]
  | fileNotAccessible => ["Check file permissions", "Verify the path exists"]
  | noFilesFound =>
    ["Pass the files or directories to check as arguments",
      "Adjust the include patterns in your config"]
  | analysis =>
    ["Re-run with --verbose to collect detailed logs",
      "Narrow the analysis scope using include/exclude filters"]
  | _ => []

def isRecoverable (code : FailureCode) : Bool :=
  !code.advice.isEmpty

/-- The status with which the program ends. -/
def exitStatus : FailureCode → Nat
  | fileNotAccessible => 2
  | parsing | typeScriptConfig | analysis | noFilesFound => 4
  | cancelled => 130
  | _ => 1

end FailureCode

/-- What a computation can break off with: an error with its trace, an error of the
    configuration that also knows its kind, its file and what caused it, or any value. -/
inductive Thrown where
  | error (message trace : String)
  | config (message trace : String) (code : FailureCode) (file : Option String)
      (cause : Option Thrown)
  | value (value : Json)
deriving Inhabited

namespace Thrown

def message : Thrown → String
  | error message _ => message
  | config message _ _ _ _ => message
  | value data => data.plainText

def isError : Thrown → Bool
  | value _ => false
  | _ => true

def trace? : Thrown → Option String
  | error _ trace => some trace
  | config _ trace _ _ _ => some trace
  | value _ => none

def detail : Thrown → Detail
  | value data => .data data
  | error _ trace => .trace trace
  | config _ trace _ _ _ => .trace trace

end Thrown

/-- A failure that is reported to the user. -/
structure Failure where
  code : FailureCode
  message : String
  details : Option Json
  cause : Option Thrown
deriving Inhabited

namespace Failure

/-- The failure that something thrown amounts to. Errors of the configuration know their kind;
    `fallback` is that of all others. -/
def ofThrown (fallback : FailureCode) : Thrown → Failure
  | .config message trace code file cause =>
    let details := (file.filter (· != "")).map fun file => Json.object [("filepath", .string file)]
    ⟨code, message, details, some (cause.getD (.config message trace code file none))⟩
  | .error message trace => ⟨fallback, message, none, some (.error message trace)⟩
  | .value data => ⟨fallback, data.plainText, none, none⟩

/-- The messages that report a failure. -/
def report (failure : Failure) (logger : Logger) : List Entry :=
  let details := failure.details.toList.flatMap fun details =>
    logger.message .error "Details:" (some (.data details))
  let cause := failure.cause.toList.flatMap fun cause =>
    if cause.detail.isShown then logger.message .debug "Original error:" (some cause.detail) else []
  logger.message .error ("[" ++ failure.code.name ++ "] " ++ failure.message) none ++
    details ++ cause

/-- The messages that tell what to do about a failure. -/
def suggest (code : FailureCode) (logger : Logger) : List Entry :=
  if code.advice.isEmpty then []
  else
    logger.info "Suggested recovery actions:" ++
      (code.advice.zipIdx 1).flatMap fun (action, index) =>
        logger.info ("   " ++ toString index ++ ". " ++ action)

/-- Everything that is printed about a failure. -/
def handle (failure : Failure) (logger : Logger) (withAdvice : Bool) : List Entry :=
  failure.report logger ++ (if withAdvice then suggest failure.code logger else [])

end Failure

/-- The events that end the program from outside of its commands. -/
inductive ProcessEvent where
  | uncaught (cause : Thrown)
  | rejected (cause : Thrown)
  | interrupted
deriving Inhabited

/-- The failure that an event amounts to. -/
def ProcessEvent.failure : ProcessEvent → Failure
  | uncaught cause => ⟨.unknown, "Uncaught exception", some (.object []), some cause⟩
  | rejected cause =>
    let error := if cause.isError then cause else .error cause.message ("Error: " ++ cause.message)
    ⟨.unknown, "Unhandled promise rejection", some (.object []), some error⟩
  | interrupted => ⟨.cancelled, "Operation cancelled by user", none, none⟩

end NamedParams
