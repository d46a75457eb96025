import NamedParams.Config
import NamedParams.Rule
import NamedParams.RuleInfo
import NamedParams.Text.Units

namespace NamedParams

open NamedParams.Text

/-- The name of a kind of function in reports. -/
def FunctionKind.name : FunctionKind → String
  | functionLiteral => "function-literal"
  | constructor => "constructor"
  | method => "method"

/-- A parameter that should be marked, and where it is. -/
structure Finding where
  filePath : String
  position : Position
  rule : String
  message : String
  parameter : String
  functionName : String
  functionKind : FunctionKind
deriving DecidableEq, Repr, Inhabited

/-- The numbers that sum up a check. -/
structure Summary where
  total : Nat
  filesAnalyzed : Nat
  functionsAnalyzed : Nat
  filesWithFindings : Nat
deriving DecidableEq, Repr, Inhabited

/-- Everything that a check finds out. -/
structure CheckResult where
  findings : List Finding
  summary : Summary
  config : Config
  timestamp : String
  version : String
deriving DecidableEq, Repr, Inhabited

namespace Finding

/-- The finding for a report about a file. A function without a name is called anonymous. -/
def ofReport {α : Type} (filePath : String) (report : Report α) : Finding :=
  { filePath
    position := report.parameter.position
    rule := RuleInfo.requireNamed.name
    message := complaint report.parameter.name
    parameter := report.parameter.name
    functionName := report.function.name.getD "<anonymous>"
    functionKind := report.function.kind }

/-- Findings are sorted by file, and in a file by their place. -/
def le (a b : Finding) : Bool :=
  if a.filePath = b.filePath then a.position.offset ≤ b.position.offset
  else unitsLE a.filePath b.filePath

def toJson (finding : Finding) : Json :=
  .object [("filePath", .string finding.filePath), ("line", .ofNat finding.position.line),
    ("column", .ofNat finding.position.column), ("offset", .ofNat finding.position.offset),
    ("rule", .string finding.rule), ("message", .string finding.message),
    ("parameterName", .string finding.parameter),
    ("functionDisplayName", .string finding.functionName),
    ("functionKind", .string finding.functionKind.name)]

end Finding

namespace Summary

/-- Sums up the findings of some files and functions. -/
def ofFindings (findings : List Finding) (filesAnalyzed functionsAnalyzed : Nat) : Summary :=
  { total := findings.length
    filesAnalyzed
    functionsAnalyzed
    filesWithFindings := (findings.map (·.filePath)).eraseDups.length }

def toJson (summary : Summary) : Json :=
  .object [("total", .ofNat summary.total), ("filesAnalyzed", .ofNat summary.filesAnalyzed),
    ("functionsAnalyzed", .ofNat summary.functionsAnalyzed),
    ("filesWithFindings", .ofNat summary.filesWithFindings)]

end Summary

/-- The result as a document. -/
def CheckResult.toJson (result : CheckResult) : Json :=
  .object [("findings", .array (result.findings.map Finding.toJson)),
    ("summary", result.summary.toJson), ("config", result.config.toJson),
    ("timestamp", .string result.timestamp), ("version", .string result.version)]

end NamedParams
