import NamedParams.Presentation
import NamedParams.Proofs.Json.HeldNumbers
import NamedParams.Proofs.Json.Records

namespace NamedParams

open NamedParams.Number NamedParams.Text

namespace Json

/-- The value of a member, read in some way. -/
def member? {β : Type} (document : Json) (key : String) (read : Json → Option β) : Option β :=
  (document.get? key).bind read

def count? : Json → Option Nat
  | .number value => some value.toInt.toNat
  | _ => none

/-- The elements of a list, each read in the same way. -/
def list? {β : Type} (read : Json → Option β) (document : Json) : Option (List β) :=
  document.array?.bind fun elements => elements.mapM read

theorem count?_ofNat (n : Nat) : (Json.ofNat n).count? = some n := by
  rw [Json.ofNat, count?, toInt_ofNat, Int.toNat_natCast]

theorem list?_map {β : Type} {write : β → Json} {read : Json → Option β}
    (hread : ∀ element, read (write element) = some element) (list : List β) :
    list? read (.array (list.map write)) = some list := by
  have hsome : read ∘ write = some := funext hread
  rw [list?, array?, Option.bind_some, List.mapM_map, hsome]
  exact (List.mapM_pure (f := id)).trans (congrArg some (List.map_id list))

end Json

open Json

def FunctionKind.ofName? : String → Option FunctionKind
  | "function-literal" => some functionLiteral
  | "constructor" => some constructor
  | "method" => some method
  | _ => none

theorem FunctionKind.ofName?_name (kind : FunctionKind) : ofName? kind.name = some kind := by
  cases kind <;> rfl

/-- The finding that a document describes. -/
def Finding.ofJson? (document : Json) : Option Finding := do
  let filePath ← document.member? "filePath" string?
  let line ← document.member? "line" count?
  let column ← document.member? "column" count?
  let offset ← document.member? "offset" count?
  let rule ← document.member? "rule" string?
  let message ← document.member? "message" string?
  let parameter ← document.member? "parameterName" string?
  let functionName ← document.member? "functionDisplayName" string?
  let functionKind ← document.member? "functionKind" fun kind =>
    kind.string?.bind FunctionKind.ofName?
  return ⟨filePath, ⟨offset, line, column⟩, rule, message, parameter, functionName, functionKind⟩

def Summary.ofJson? (document : Json) : Option Summary := do
  let total ← document.member? "total" count?
  let filesAnalyzed ← document.member? "filesAnalyzed" count?
  let functionsAnalyzed ← document.member? "functionsAnalyzed" count?
  let filesWithFindings ← document.member? "filesWithFindings" count?
  return ⟨total, filesAnalyzed, functionsAnalyzed, filesWithFindings⟩

/-- The configuration that a document describes. Only the path of the settings may be missing. -/
def Config.ofDocument? (document : Json) : Option Config := do
  let «include» ← document.member? "include" (list? string?)
  let exclude ← document.member? "exclude" (list? string?)
  let assertionFunctions ← document.member? "assertionFunctions" (list? string?)
  match document.get? "tsconfigPath" with
  | none => return ⟨«include», exclude, none, assertionFunctions⟩
  | some path =>
    let path ← path.string?
    return ⟨«include», exclude, some path, assertionFunctions⟩

/-- The result that a document describes. -/
def CheckResult.ofJson? (document : Json) : Option CheckResult := do
  let findings ← document.member? "findings" (list? Finding.ofJson?)
  let summary ← document.member? "summary" Summary.ofJson?
  let config ← document.member? "config" Config.ofDocument?
  let timestamp ← document.member? "timestamp" string?
  let version ← document.member? "version" string?
  return ⟨findings, summary, config, timestamp, version⟩

section Decoding

theorem Finding.ofJson?_toJson (finding : Finding) : ofJson? finding.toJson = some finding := by
  simp [ofJson?, toJson, member?, get?, string?, count?_ofNat, FunctionKind.ofName?_name]

theorem Summary.ofJson?_toJson (summary : Summary) : ofJson? summary.toJson = some summary := by
  simp [ofJson?, toJson, member?, get?, count?_ofNat]

theorem Config.ofDocument?_toJson (config : Config) :
    ofDocument? config.toJson = some config := by
  have htext (text : String) : string? (.string text) = some text := rfl
  have htexts (texts : List String) :
      list? string? (.array (texts.map .string)) = some texts := list?_map htext texts
  obtain ⟨included, excluded, path, functions⟩ := config
  cases path <;> simp [ofDocument?, toJson, member?, get?, htexts, string?]

/-- Nothing of a result is missing in its document. -/
theorem CheckResult.ofJson?_toJson (result : CheckResult) :
    ofJson? result.toJson = some result := by
  simp [ofJson?, toJson, member?, get?, string?, list?_map Finding.ofJson?_toJson,
    Summary.ofJson?_toJson, Config.ofDocument?_toJson]

end Decoding

section Reading

def Finding.numbers (finding : Finding) : List Nat :=
  [finding.position.line, finding.position.column, finding.position.offset]

def Summary.numbers (summary : Summary) : List Nat :=
  [summary.total, summary.filesAnalyzed, summary.functionsAnalyzed, summary.filesWithFindings]

/-- The numbers of a result: where its findings are, and what sums them up. -/
def CheckResult.numbers (result : CheckResult) : List Nat :=
  result.findings.flatMap Finding.numbers ++ result.summary.numbers

theorem Finding.reread_toJson_iff {finding : Finding} :
    finding.toJson.reread = finding.toJson ↔ ∀ n ∈ finding.numbers, IsHeld n := by
  have hfields : AreFields ["filePath", "line", "column", "offset", "rule", "message",
      "parameterName", "functionDisplayName", "functionKind"] := by decide
  rw [toJson, reread_object_iff (by exact hfields)]
  simp [reread_ofNat_iff, reread_string, numbers]

theorem Summary.reread_toJson_iff {summary : Summary} :
    summary.toJson.reread = summary.toJson ↔ ∀ n ∈ summary.numbers, IsHeld n := by
  have hfields : AreFields ["total", "filesAnalyzed", "functionsAnalyzed",
      "filesWithFindings"] := by decide
  rw [toJson, reread_object_iff (by exact hfields)]
  simp [reread_ofNat_iff, numbers]

theorem Config.reread_toJson (config : Config) : config.toJson.reread = config.toJson := by
  obtain ⟨included, excluded, path, functions⟩ := config
  cases path with
  | none =>
    have hfields : AreFields ["include", "exclude", "assertionFunctions"] := by decide
    rw [toJson, reread_object_iff (by exact hfields)]
    simp [reread_texts]
  | some path =>
    have hfields : AreFields ["include", "exclude", "assertionFunctions", "tsconfigPath"] := by
      decide
    rw [toJson, reread_object_iff (by exact hfields)]
    simp [reread_texts, reread_string]

/-- The document of a result is read back as it is exactly when it can hold all its numbers. -/
theorem CheckResult.reread_toJson_iff {result : CheckResult} :
    result.toJson.reread = result.toJson ↔ ∀ n ∈ result.numbers, IsHeld n := by
  have hfields : AreFields ["findings", "summary", "config", "timestamp", "version"] := by decide
  rw [toJson, reread_object_iff (by exact hfields), numbers, List.forall_mem_append,
    List.forall_mem_flatMap]
  simp [reread_array_iff, Finding.reread_toJson_iff, Summary.reread_toJson_iff,
    Config.reread_toJson, reread_string]

end Reading

/-- A result that is shown as data is shown in full, whatever else is asked for: its text is read
    as the document of the result, from which the result can be told. Texts may have any
    characters. For this a document has to hold the numbers of the result, as it does up to 2⁵³,
    and no others are read back as they are. -/
theorem CheckResult.parse_format (result : CheckResult) {options : Presentation}
    (hjson : options.json = true) :
    ∃ text, result.format options = .ok text ∧
      (Json.parse text = some result.toJson ↔ ∀ n ∈ result.numbers, IsHeld n) ∧
      (∀ n ≤ 2 ^ 53, IsHeld n) ∧
      CheckResult.ofJson? result.toJson = some result := by
  have hformat : result.format options = .ok result.toJson.pretty := by
    rw [format, Presentation.render, hjson, if_pos rfl]
  refine ⟨_, hformat, ?_, fun n hn => isHeld_of_le hn, result.ofJson?_toJson⟩
  rw [parse_pretty, Option.some.injEq]
  exact result.reread_toJson_iff

/-- A result with characters that have to be escaped, and some that need not be. -/
def rareResult : CheckResult :=
  { findings := [⟨"/p/\x22\\\n\u2028😀.ts", ⟨12, 1, 13⟩, "\t", "\u0000\x7f", "a\x1f", "<f\r>",
      .method⟩]
    summary := ⟨1, 2, 3, 1⟩
    config := ⟨[], ["**/\x7ba,\x0c\x7d"], some "/p/\u0008.json", ["\u00e9"]⟩
    timestamp := ""
    version := "1" }

theorem CheckResult.parse_format_of_rareCharacters :
    ∃ options : Presentation, options.json = true ∧ options.quiet = true ∧
      ∃ text, rareResult.format options = .ok text ∧ Json.parse text = some rareResult.toJson := by
  let options : Presentation := ⟨true, true, true, some 0, [], true⟩
  have hjson : options.json = true := rfl
  obtain ⟨text, hformat, hparse, hheld, -⟩ := rareResult.parse_format hjson
  have hsmall : ∀ n ∈ rareResult.numbers, n ≤ 2 ^ 53 := by decide
  exact ⟨options, hjson, rfl, text, hformat, hparse.mpr fun n hn => hheld n (hsmall n hn)⟩

end NamedParams
