import NamedParams.Finding
import NamedParams.Terminal.Table

namespace NamedParams

open NamedParams.Terminal

/-- How a result is shown. At most `limit` findings are listed; a negative limit leaves out that
    many at the end. -/
structure Presentation where
  json : Bool
  verbose : Bool
  quiet : Bool
  limit : Option Int
  directory : List String
  color : Bool
deriving DecidableEq, Repr, Inhabited

/-- The elements of a list within a limit. -/
def takeLimited {α : Type} (limit : Option Int) (elements : List α) : List α :=
  match limit with
  | none => elements
  | some limit =>
    if 0 ≤ limit then elements.take limit.toNat
    else elements.take (elements.length - limit.natAbs)

namespace Presentation

/-- The line and column of a finding. -/
def place (finding : Finding) : String :=
  toString finding.position.line ++ ":" ++ toString finding.position.column

/-- The path of a finding as it is shown. Relative paths start at the root. -/
def shownPath (directory : List String) (finding : Finding) : String :=
  Path.display [] directory finding.filePath

/-- A finding on one line. -/
def line (color : Bool) (directory : List String) (finding : Finding) : String :=
  "  " ++ shownPath directory finding ++ ":" ++ place finding ++ "  " ++ finding.message ++ "  " ++
    paint color .gray ("[" ++ finding.rule ++ "]")

def columns : List Column :=
  [⟨40, .left⟩, ⟨9, .right⟩, ⟨30, .left⟩, ⟨20, .left⟩]

/-- A finding as a row of a table. -/
def row (directory : List String) (finding : Finding) : List String :=
  [shownPath directory finding, place finding, finding.functionName, finding.parameter]

def findingsTable (directory : List String) (findings : List Finding) : Except TableError String :=
  table columns (["File", "Line", "Function", "Parameter"] :: findings.map (row directory))

/-- The findings that are listed, as lines or as a table. -/
def listing (options : Presentation) (findings : List Finding) : Except TableError String :=
  if options.verbose then findingsTable options.directory findings
  else .ok ("\n".intercalate (findings.map (line options.color options.directory)))

def summaryLines (color : Bool) (summary : Summary) : String :=
  let total :=
    if 0 < summary.total then paint color .red (toString summary.total)
    else paint color .green "0"
  "\n".intercalate
    ["  Findings: " ++ total,
      "  Files with findings: " ++ toString summary.filesWithFindings,
      "  Files analyzed: " ++ toString summary.filesAnalyzed,
      "  Functions analyzed: " ++ toString summary.functionsAnalyzed]

/-- The summary on one line. -/
def brief (summary : Summary) : String :=
  "Findings: " ++ toString summary.total ++ ", Files: " ++ toString summary.filesAnalyzed ++
    ", Functions: " ++ toString summary.functionsAnalyzed

/-- The report: the findings within the limit, how many more there are, and the summary. -/
def full (options : Presentation) (result : CheckResult) : Except TableError String := do
  let shown := takeLimited options.limit result.findings
  let hidden := result.findings.length - shown.length
  let block ← if shown.isEmpty then pure [] else do
    let listed ← listing options shown
    pure ["", listed]
  let more :=
    if 0 < hidden then
      [paint options.color .gray ("  ... and " ++ toString hidden ++ " more")]
    else []
  return "\n".intercalate
    ([paint options.color .bold "\nRequired Named Parameter Report",
      String.ofList (List.replicate 60 '=')] ++ block ++ more ++
      ["\n" ++ paint options.color .bold "Summary:", summaryLines options.color result.summary])

/-- Shows a result; `document` is the result as data. -/
def render (options : Presentation) (document : Json) (result : CheckResult) :
    Except TableError String :=
  if options.json then .ok document.pretty
  else if options.quiet then .ok (brief result.summary)
  else full options result

end Presentation

/-- Shows a result in the way that the options ask for. -/
def CheckResult.format (options : Presentation) (result : CheckResult) :
    Except TableError String :=
  options.render result.toJson result

end NamedParams
