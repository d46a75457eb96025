import NamedParams.FileTree
import NamedParams.Finding
import NamedParams.Glob.Filter
import NamedParams.Log
import NamedParams.Source.Functions

namespace NamedParams

open NamedParams.Source

/-- A source file that is being checked over and over. The first time that it takes the meaning
    of a decorator, the imports of that moment are settled for good. -/
structure ProjectFile where
  source : SourceFile
  settled : Option ImportIndex

/-- The imports by which the decorators of a file are resolved. -/
def ProjectFile.index (file : ProjectFile) : ImportIndex :=
  file.settled.getD file.source.importIndex

/-- The files that have been read so far, and those that can be read. -/
structure Session where
  files : List ProjectFile
  disk : FileTree
deriving Inhabited

namespace Session

def empty : Session := ⟨[], FileTree.empty⟩

def find? (session : Session) (path : String) : Option ProjectFile :=
  session.files.find? (·.source.path = path)

def update (session : Session) (file : ProjectFile) : Session :=
  { session with
    files := session.files.map fun old =>
      if old.source.path = file.source.path then file else old }

/-- Sets the text of a file, which may be new. A file keeps the imports that are settled. -/
def create (session : Session) (path content : String) : Session :=
  let source := SourceFile.parse path content
  match session.find? path with
  | some old => session.update ⟨source, old.settled⟩
  | none => { session with files := session.files ++ [⟨source, none⟩] }

/-- Reads a file from disk, unless that has been done before. -/
def load (session : Session) (place : List String) : Option Session :=
  let path := Path.absolute place
  match session.find? path with
  | some _ => some session
  | none => (session.disk.read? place).map (session.create path)

/-- The complaint about the first of some paths that no file of the session has. -/
def absent? (session : Session) (root : List String) (paths : List String) : Option String :=
  paths.findSome? fun path =>
    let place := Path.absolute (Path.resolve root path)
    if (session.find? place).isSome then none
    else some ("Could not find source file in project at the provided path: " ++ place)

end Session

/-- What the check of one file leaves behind: its reports, and whether it asked for the meaning
    of a decorator. -/
structure FileReports where
  reports : List (Report Decorator)
  consulted : Bool
deriving Inhabited

/-- Checks the functions of a file. -/
def reportsOf (functions : List (FunctionNode Decorator)) (index : ImportIndex) : FileReports :=
  let resolve (decoration : Decoration Decorator) : StateM FileReports (Option LibraryMember) :=
    fun state => (index.resolve decoration.handle, { state with consulted := true })
  let report (found : Report Decorator) : StateM FileReports Unit :=
    fun state => ((), { state with reports := state.reports ++ [found] })
  (reportForest resolve report functions ⟨[], false⟩).2

/-- What the check of one file finds. -/
structure FileResult where
  findings : List Finding
  functionCount : Nat
  file : ProjectFile

/-- Checks one file, and settles its imports if it has to. -/
def checkFile (config : Config) (file : ProjectFile) : FileResult :=
  let functions := file.source.functions config.assertionFunctions
  let outcome := reportsOf functions file.index
  { findings := outcome.reports.map (Finding.ofReport file.source.path)
    functionCount := FunctionNode.countOf functions
    file := if outcome.consulted then { file with settled := some file.index } else file }

/-- Whether the configuration excludes a path. -/
def Config.excludes (config : Config) (path : String) : Bool :=
  config.exclude.any (Glob.matchesPath · path)

/-- What the checks of several files come to, before the findings are sorted. -/
structure Tally where
  findings : List Finding
  filesAnalyzed : Nat
  log : List Entry
deriving Inhabited

def Tally.empty : Tally := ⟨[], 0, []⟩

/-- A detector between two checks: its session, and the functions that it has counted since it
    last began with a list of files. -/
structure Detector where
  session : Session
  functionsCounted : Nat
deriving Inhabited

/-- A detector that has not counted yet. -/
def Detector.start (session : Session) : Detector := ⟨session, 0⟩

/-- The message for debugging that a file has been checked. -/
def checkedMessage (logger : Logger) (path : String) (count : Nat) : List Entry :=
  logger.debug (path ++ ": " ++ toString count ++ " finding(s)")

/-- Checks a single file, excluded or not, and counts its functions. -/
def Detector.checkOne (config : Config) (logger : Logger) (detector : Detector)
    (file : ProjectFile) : List Finding × List Entry × Detector :=
  let result := checkFile config file
  (result.findings, checkedMessage logger file.source.path result.findings.length,
    { session := detector.session.update result.file
      functionsCounted := detector.functionsCounted + result.functionCount })

/-- Checks a file of the session and adds what it finds. -/
def Tally.add (tally : Tally) (config : Config) (logger : Logger) (detector : Detector)
    (path : String) : Tally × Detector :=
  match detector.session.find? path with
  | none => (tally, detector)
  | some file =>
    let (findings, log, detector) := detector.checkOne config logger file
    ({ findings := tally.findings ++ findings
       filesAnalyzed := tally.filesAnalyzed + 1
       log := tally.log ++ log }, detector)

/-- Checks files one after the other, other than those that are excluded. -/
def tallyFiles (config : Config) (logger : Logger) : List String → Tally × Detector →
    Tally × Detector
  | [], state => state
  | path :: rest, (tally, detector) =>
    if config.excludes path then tallyFiles config logger rest (tally, detector)
    else tallyFiles config logger rest (tally.add config logger detector path)

/-- The findings in order, with their summary and what was logged on the way. -/
structure CheckReport where
  findings : List Finding
  summary : Summary
  log : List Entry
deriving DecidableEq, Inhabited

def CheckReport.result (report : CheckReport) (config : Config) (timestamp : String) :
    CheckResult :=
  { findings := report.findings
    summary := report.summary
    config
    timestamp
    version := RuleInfo.requireNamed.version }

/-- Checks files of the session by their absolute paths. The count of functions begins anew. -/
def Detector.checkFiles (config : Config) (logger : Logger) (detector : Detector)
    (paths : List String) : CheckReport × Detector :=
  let (tally, detector) :=
    tallyFiles config logger paths (Tally.empty, { detector with functionsCounted := 0 })
  let findings := tally.findings.mergeSort Finding.le
  ({ findings
     summary := Summary.ofFindings findings tally.filesAnalyzed detector.functionsCounted
     log := tally.log }, detector)

/-- The files that are ready to be checked, after some paths have been read. -/
structure Loading where
  loaded : List String
  log : List Entry
  session : Session
deriving Inhabited

/-- Reads the file at a path, unless the path is excluded. -/
def Loading.add (loading : Loading) (config : Config) (logger : Logger) (root : List String)
    (path : String) : Loading :=
  if config.excludes path then
    { loading with log := loading.log ++ logger.debug ("Excluded " ++ path) }
  else
    let place := Path.resolve root path
    match loading.session.load place with
    | some session =>
      { loading with loaded := loading.loaded ++ [Path.absolute place], session }
    | none =>
      let message := "Failed to load " ++ path ++ ": File not found: " ++ Path.absolute place
      { loading with log := loading.log ++ logger.message .warn message none }

/-- Reads the files at some paths. -/
def Session.loadAll (config : Config) (logger : Logger) (root : List String) (session : Session)
    (paths : List String) : Loading :=
  paths.foldl (fun (loading : Loading) path => loading.add config logger root path)
    ⟨[], [], session⟩

/-- Reads and checks the files at some paths. -/
def Detector.checkPaths (config : Config) (logger : Logger) (root : List String)
    (detector : Detector) (paths : List String) : CheckReport × Detector :=
  let loading := detector.session.loadAll config logger root paths
  let (report, detector) :=
    { detector with session := loading.session }.checkFiles config logger loading.loaded
  ({ report with log := loading.log ++ report.log }, detector)

/-- The check of a single file by a new detector. -/
def checkOne (config : Config) (logger : Logger) (session : Session) (file : ProjectFile) :
    List Finding × List Entry × Session :=
  let (findings, log, detector) := (Detector.start session).checkOne config logger file
  (findings, log, detector.session)

/-- The check of files of the session by a new detector. -/
def checkFiles (config : Config) (logger : Logger) (session : Session) (paths : List String) :
    CheckReport × Session :=
  let (report, detector) := (Detector.start session).checkFiles config logger paths
  (report, detector.session)

/-- The check of the files at some paths by a new detector. -/
def checkPaths (config : Config) (logger : Logger) (root : List String) (session : Session)
    (paths : List String) : CheckReport × Session :=
  let (report, detector) := (Detector.start session).checkPaths config logger root paths
  (report, detector.session)

end NamedParams
