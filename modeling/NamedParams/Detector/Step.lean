import NamedParams.Detector

namespace NamedParams.Detector

/-- What can happen to a detector and its project. Paths start from the working directory. -/
inductive Step where
  | create (path content : String)
  | write (path content : String)
  | checkPaths (paths : List String)
  | checkFiles (paths : List String)
  | checkOne (path : String)
deriving Repr

/-- What a step answers. A file that is to be checked as a part of the project may be absent. -/
inductive Outcome where
  | done
  | reported (report : CheckReport)
  | found (findings : List Finding) (log : List Entry)
  | absent (message : String)
deriving DecidableEq, Inhabited

/-- The path of a file in the project. -/
def filePath (root : List String) (path : String) : String :=
  Path.absolute (Path.resolve root path)

/-- Takes one step. -/
def step (config : Config) (logger : Logger) (root : List String) (detector : Detector) :
    Step → Outcome × Detector
  | .create path content =>
    (.done, { detector with session := detector.session.create (filePath root path) content })
  | .write path content =>
    let disk := detector.session.disk.write (Path.resolve root path) content
    (.done, { detector with session := { detector.session with disk } })
  | .checkPaths paths =>
    let (report, detector) := detector.checkPaths config logger root paths
    (.reported report, detector)
  | .checkFiles paths =>
    match detector.session.absent? root paths with
    | some message => (.absent message, detector)
    | none =>
      let (report, detector) := detector.checkFiles config logger (paths.map (filePath root))
      (.reported report, detector)
  | .checkOne path =>
    match detector.session.absent? root [path], detector.session.find? (filePath root path) with
    | none, some file =>
      let (findings, log, detector) := detector.checkOne config logger file
      (.found findings log, detector)
    | message, _ => (.absent (message.getD ""), detector)

/-- Takes steps one after the other, and keeps what each one answers. -/
def run (config : Config) (logger : Logger) (root : List String) :
    Detector → List Step → List Outcome × Detector
  | detector, [] => ([], detector)
  | detector, step :: rest =>
    let (outcome, detector) := detector.step config logger root step
    let (outcomes, detector) := run config logger root detector rest
    (outcome :: outcomes, detector)

end NamedParams.Detector
