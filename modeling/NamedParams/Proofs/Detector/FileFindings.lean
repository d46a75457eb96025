import Mathlib.Data.List.Nodup
import NamedParams.Detector
import NamedParams.Proofs.Rule.RequiredReports
import NamedParams.Proofs.Source.Assertions
import NamedParams.Proofs.Source.NamedElements
import NamedParams.Proofs.Source.Resolution

namespace NamedParams

open NamedParams.Source NamedParams.Text

namespace Source

/-- The name under which the function at a place is reported. -/
def Site.functionName (site : Site) : String :=
  match site.tree with
  | .leaf _ => anonymousName
  | .node kind _ => Source.functionName (.within site.above) kind site.tree

def Site.functionKind (site : Site) : FunctionKind :=
  match site.tree with
  | .leaf _ => .functionLiteral
  | .node kind _ => (functionKind? kind).getD .functionLiteral

namespace NamedElement

/-- What makes an element reportable apart from its marks: it does not collect the remaining
    properties, it has no default value of its own, and its function asserts at its start that the
    name is not null. -/
@[mk_iff]
structure IsAsserted (assertionFunctions : List String) (named : NamedElement) : Prop where
  noRest : named.element.children.any (Tree.isMarkOf "...") = false
  noDefault : named.element.child? .initializer = none
  asserted : named.site.tree.OpensWithAssertion assertionFunctions named.name.name

theorem isAsserted_iff_body (assertionFunctions : List String) (named : NamedElement) :
    named.IsAsserted assertionFunctions ↔
      named.element.children.any (Tree.isMarkOf "...") = false ∧
        named.element.child? .initializer = none ∧
        Body.Asserts named.name.name (functionBody assertionFunctions named.site.tree) := by
  rw [isAsserted_iff, functionBody_asserts_iff]

instance (assertionFunctions : List String) : DecidablePred (IsAsserted assertionFunctions) :=
  fun named =>
    have : Decidable (named.element.child? .initializer = none) :=
      decidable_of_iff _ Option.isNone_iff_eq_none
    decidable_of_iff' _ (named.isAsserted_iff_body assertionFunctions)

/-- The finding about an element: it is at the name that the element binds. -/
def finding (file : SourceFile) (named : NamedElement) : Finding :=
  { filePath := file.path
    position := positionAt file.text named.name.start
    rule := RuleInfo.requireNamed.name
    message := complaint named.name.name
    parameter := named.name.name
    functionName := named.site.functionName
    functionKind := named.site.functionKind }

end NamedElement

/-- Whether one of the decorators of a parameter marks it, as some imports would have it. -/
def ImportIndex.marks (index : ImportIndex) (parameter : Tree) : Bool :=
  (decoratorsOf parameter).any fun decorator => index.resolve decorator = some requiredMarker

theorem ImportIndex.marks_eq_false_iff {index : ImportIndex} {parameter : Tree} :
    index.marks parameter = false ↔
      ∀ decorator ∈ decoratorsOf parameter, index.resolve decorator ≠ some requiredMarker := by
  simp [ImportIndex.marks]

end Source

/-- The reports of a file are those that the rule calls for. -/
theorem reportsOf_reports (functions : List (FunctionNode Decorator)) (index : ImportIndex) :
    (reportsOf functions index).reports =
      requiredReports (fun decoration => index.resolve decoration.handle) functions := by
  have hobserved : Observed
      (fun (decoration : Decoration Decorator) (state : FileReports) =>
        (index.resolve decoration.handle, { state with consulted := true }))
      (fun found state => ((), { state with reports := state.reports ++ [found] }))
      (fun decoration => index.resolve decoration.handle) FileReports.reports :=
    ⟨fun _ _ => rfl, fun _ _ => rfl, fun _ _ => rfl⟩
  exact hobserved.reportForest functions ⟨[], false⟩

namespace Source

/-- The parameter that is built for an element. -/
def NamedElement.built (file : SourceFile) (named : NamedElement) : Parameter Decorator :=
  { name := named.name.name
    kind := .named
    hasDefault := (named.element.child? .initializer).isSome
    decorations :=
      (decoratorsOf named.parameter).map fun decorator => ⟨decorator, decorator.text⟩
    position := positionAt file.text named.name.start }

/-- Whether an element is reported when decorators are resolved by some imports. -/
def NamedElement.isReported (assertionFunctions : List String) (index : ImportIndex)
    (named : NamedElement) : Bool :=
  decide (named.IsAsserted assertionFunctions) && !index.marks named.parameter

theorem elementName?_eq (element : Tree) :
    elementName? element =
      if element.isNode .bindingElement && !element.children.any (Tree.isMarkOf "...") then
        element.boundName?
      else none := rfl

variable (file : SourceFile) (assertionFunctions : List String) (index : ImportIndex)

/-- Whether a parameter that is built for a function of the file lacks its marker. -/
def lacksMarker (site : Site) (parameter : Parameter Decorator) : Bool :=
  decide (parameter.LacksMarker (fun decoration => index.resolve decoration.handle)
    (functionBody assertionFunctions site.tree))

theorem lacksMarker_built (named : NamedElement)
    (hrest : named.element.children.any (Tree.isMarkOf "...") = false) :
    lacksMarker assertionFunctions index named.site (named.built file) =
      named.isReported assertionFunctions index := by
  rw [Bool.eq_iff_iff, lacksMarker, decide_eq_true_iff, Parameter.lacksMarker_iff,
    NamedElement.isReported, Bool.and_eq_true, decide_eq_true_iff,
    NamedElement.isAsserted_iff_body, Bool.not_eq_true', ImportIndex.marks_eq_false_iff]
  simp only [NamedElement.built, List.forall_mem_map, Option.isSome_eq_false_iff,
    Option.isNone_iff_eq_none, hrest, true_and]
  constructor
  · rintro ⟨hdefault, hunmarked, hasserted⟩
    exact ⟨⟨hdefault, hasserted⟩, hunmarked⟩
  · rintro ⟨⟨hdefault, hasserted⟩, hunmarked⟩
    exact ⟨hdefault, hunmarked, hasserted⟩

theorem isReported_eq_false_of_rest (named : NamedElement)
    (hrest : named.element.children.any (Tree.isMarkOf "...") = true) :
    named.isReported assertionFunctions index = false := by
  have hnot : ¬ named.IsAsserted assertionFunctions := fun hasserted => by
    have hnoRest := hasserted.noRest
    rw [hrest] at hnoRest
    cases hnoRest
  rw [NamedElement.isReported, decide_eq_false hnot, Bool.false_and]

theorem lacksMarker_of_positional {site : Site} {found : Parameter Decorator}
    (hkind : found.kind = .positional) :
    lacksMarker assertionFunctions index site found = false := by
  refine decide_eq_false fun hlacks => ?_
  have hnamed := hlacks.named
  rw [hkind] at hnamed
  cases hnamed

/-- Among the elements of a pattern, those whose parameters lack their marker are reported. -/
theorem filter_patternParameters (site : Site) (parameter : Tree) (elements : List Tree) :
    (elements.filterMap fun element => (elementName? element).map fun name =>
        NamedElement.built file ⟨site, parameter, element, name⟩).filter
        (lacksMarker assertionFunctions index site) =
      (((elements.filter (Tree.isNode .bindingElement)).filterMap fun element =>
        element.boundName?.map fun name => NamedElement.mk site parameter element name).filter
        (NamedElement.isReported assertionFunctions index)).map (NamedElement.built file) := by
  induction elements with
  | nil => rfl
  | cons element rest ih =>
    rw [List.filterMap_cons, elementName?_eq]
    by_cases helement : element.isNode .bindingElement = true
    · rw [List.filter_cons_of_pos helement, List.filterMap_cons, helement, Bool.true_and]
      cases element.boundName? with
      | none => simpa using ih
      | some name =>
        by_cases hrest : element.children.any (Tree.isMarkOf "...") = true
        · have hreported := isReported_eq_false_of_rest assertionFunctions index
            ⟨site, parameter, element, name⟩ hrest
          simpa [hrest, hreported] using ih
        · have hrest : element.children.any (Tree.isMarkOf "...") = false := by
            simpa using hrest
          have hbuilt := lacksMarker_built file assertionFunctions index
            ⟨site, parameter, element, name⟩ hrest
          simp only [hrest, Bool.not_false, if_true, Option.map_some, List.filter_cons]
          rw [hbuilt, ih]
          split <;> rfl
    · have hother : element.isNode .bindingElement = false := by simpa using helement
      rw [List.filter_cons_of_neg helement, hother]
      exact ih

/-- Of the parameters that one parameter of the source stands for, those that lack their marker
    are built for the elements that are reported. -/
theorem filter_parametersOf (site : Site) (parameter : Tree) :
    (parametersOf file.text parameter).filter (lacksMarker assertionFunctions index site) =
      ((site.elementsOf parameter).filter (NamedElement.isReported assertionFunctions index)).map
        (NamedElement.built file) := by
  unfold parametersOf Site.elementsOf Tree.patternElements
  split
  · rename_i token hname
    rw [hname]
    dsimp only
    split
    · rw [List.filter_cons_of_neg]
      · rfl
      · rw [lacksMarker_of_positional assertionFunctions index rfl]
        exact Bool.false_ne_true
    · rfl
  · rename_i elements hname
    rw [hname]
    exact filter_patternParameters file assertionFunctions index site parameter elements
  · rename_i hleaf hpattern
    split
    · rename_i elements hname
      exact absurd hname (hpattern elements)
    · rfl

theorem site_of_mem_namedElements {site : Site} {named : NamedElement}
    (hnamed : named ∈ site.namedElements) : named.site = site := by
  obtain ⟨parameter, _, hnamed⟩ := List.mem_flatMap.mp hnamed
  obtain ⟨element, _, hnamed⟩ := List.mem_filterMap.mp hnamed
  obtain ⟨name, _, rfl⟩ := Option.map_eq_some_iff.mp hnamed
  rfl

/-- What the node for the function at a place takes from its tree and its surroundings. -/
theorem fields_of_function? {assertionFunctions : List String} {text : List Char} {site : Site}
    {function : FunctionNode Decorator}
    (hfunction : site.function? assertionFunctions text = some function) :
    function.parameters = site.tree.ownParameters.flatMap (parametersOf text) ∧
      function.body = functionBody assertionFunctions site.tree ∧
      function.name = some site.functionName ∧ function.kind = site.functionKind := by
  obtain ⟨above, tree⟩ := site
  cases tree with
  | leaf token => cases hfunction
  | node kind children =>
    obtain ⟨functionKind, hkind, rfl⟩ := Option.map_eq_some_iff.mp hfunction
    refine ⟨rfl, rfl, rfl, ?_⟩
    change functionKind = (functionKind? kind).getD .functionLiteral
    rw [hkind, Option.getD_some]

/-- The reports on the function at a place become the findings about its elements. -/
theorem map_ofReport_requiredReports {site : Site} {function : FunctionNode Decorator}
    (hfunction : site.function? assertionFunctions file.text = some function) :
    (function.requiredReports fun decoration => index.resolve decoration.handle).map
        (Finding.ofReport file.path) =
      (site.namedElements.filter (NamedElement.isReported assertionFunctions index)).map
        (NamedElement.finding file) := by
  obtain ⟨hparameters, hbody, hname, hkind⟩ := fields_of_function? hfunction
  have hlacking : (function.parameters.filter fun parameter => decide (parameter.LacksMarker
      (fun decoration => index.resolve decoration.handle) function.body)) =
      (site.namedElements.filter (NamedElement.isReported assertionFunctions index)).map
        (NamedElement.built file) := by
    rw [hparameters, hbody, Site.namedElements, List.filter_flatMap, List.filter_flatMap,
      List.map_flatMap]
    congr 1
    funext parameter
    exact filter_parametersOf file assertionFunctions index site parameter
  rw [FunctionNode.requiredReports, hlacking, List.map_map, List.map_map]
  apply List.map_congr_left
  intro named hnamed
  have hsite := site_of_mem_namedElements (List.mem_of_mem_filter hnamed)
  simp only [Function.comp_apply, Finding.ofReport, NamedElement.finding, NamedElement.built,
    hname, hkind, hsite, Option.getD_some]

private theorem flatMap_filterMap {α β γ : Type} {f : α → Option β} {p : α → Bool}
    {g : β → List γ} {h : α → List γ} (hsome : ∀ a, (f a).isSome = p a)
    (hsame : ∀ a b, f a = some b → g b = h a) (list : List α) :
    (list.filterMap f).flatMap g = (list.filter p).flatMap h := by
  induction list with
  | nil => rfl
  | cons a rest ih =>
    rw [List.filterMap_cons, List.filter_cons, ← hsome a]
    cases hfa : f a with
    | none => exact ih
    | some b => simp [ih, hsame a b hfa]

end Source

/-- The findings of a file are about those of its named elements that are reported, in the order of
    the functions and of their parameters. -/
theorem checkFile_findings (config : Config) (file : ProjectFile) :
    (checkFile config file).findings =
      (file.source.namedElements.filter
        (NamedElement.isReported config.assertionFunctions file.index)).map
        (NamedElement.finding file.source) := by
  rw [checkFile, reportsOf_reports, requiredReports, SourceFile.preorderOf_functions,
    List.map_flatMap, SourceFile.namedElements, List.filter_flatMap, List.map_flatMap,
    SourceFile.functionSites]
  apply flatMap_filterMap
  · intro site
    exact site.isSome_function? config.assertionFunctions file.source.text
  · intro site function hfunction
    exact map_ofReport_requiredReports file.source config.assertionFunctions file.index hfunction

theorem Source.NamedElement.finding_offset {file : SourceFile} {named : NamedElement}
    (hnamed : named ∈ file.namedElements) :
    (named.finding file).position.offset = named.name.start :=
  file.positionAt_start (file.name_mem_tokens hnamed)

/-- The findings of one file are at different places, even where functions stand in the parameters
    of other functions. -/
theorem checkFile_offsets_nodup (config : Config) (file : ProjectFile) :
    ((checkFile config file).findings.map fun finding => finding.position.offset).Nodup := by
  rw [checkFile_findings, List.map_map]
  have hoffset : ∀ named ∈ file.source.namedElements.filter
      (NamedElement.isReported config.assertionFunctions file.index),
      ((fun finding : Finding => finding.position.offset) ∘ NamedElement.finding file.source) named =
        named.name.start :=
    fun named hnamed => NamedElement.finding_offset (List.mem_of_mem_filter hnamed)
  rw [List.map_congr_left hoffset]
  exact file.source.namedElements_starts_nodup.sublist (List.filter_sublist.map _)

theorem finding_mem_checkFile_iff {config : Config} {file : ProjectFile} {named : NamedElement}
    (hnamed : named ∈ file.source.namedElements) :
    named.finding file.source ∈ (checkFile config file).findings ↔
      named.isReported config.assertionFunctions file.index = true := by
  rw [checkFile_findings, List.mem_map]
  constructor
  · rintro ⟨other, hother, hfinding⟩
    obtain ⟨hmem, hreported⟩ := List.mem_filter.mp hother
    have hstart : other.name.start = named.name.start := by
      rw [← NamedElement.finding_offset hmem, hfinding, NamedElement.finding_offset hnamed]
    rw [List.inj_on_of_nodup_map file.source.namedElements_starts_nodup hmem hnamed hstart]
      at hreported
    exact hreported
  · intro hreported
    exact ⟨named, List.mem_filter.mpr ⟨hnamed, hreported⟩, rfl⟩

namespace Source

/-- No decorator of an element's parameter refers, through the imports of the file, to the
    marker. -/
def NamedElement.IsUnmarked (file : SourceFile) (named : NamedElement) : Prop :=
  ∀ decorator ∈ decoratorsOf named.parameter, ¬ decorator.Marks file

theorem NamedElement.isUnmarked_iff {file : SourceFile} {named : NamedElement} :
    named.IsUnmarked file ↔ file.importIndex.marks named.parameter = false := by
  rw [ImportIndex.marks_eq_false_iff]
  refine forall₂_congr fun decorator _ => not_congr ?_
  exact (resolveExpression_eq_some_iff file (callee decorator.expression) requiredMarker).symm

instance (file : SourceFile) : DecidablePred (NamedElement.IsUnmarked file) := fun _ =>
  decidable_of_iff' _ NamedElement.isUnmarked_iff

end Source

/-- When its imports are not settled yet, a file has one finding for each pair of a function and an
    element of an object pattern among the function's own parameters that binds a name, does not
    collect the remaining properties, has no default value, is not marked through the imports of
    the file, and is asserted not to be null at the start of the function. The findings come in
    the order of the pairs and are all at different places. -/
theorem checkOne_findings_of_unsettled (config : Config) (logger : Logger) (session : Session)
    (source : SourceFile) :
    (checkOne config logger session ⟨source, none⟩).1 =
        (source.namedElements.filter fun named =>
          decide (named.IsAsserted config.assertionFunctions ∧ named.IsUnmarked source)).map
          (NamedElement.finding source) ∧
      ((checkOne config logger session ⟨source, none⟩).1.map fun finding =>
        finding.position.offset).Nodup := by
  have hfindings : (checkOne config logger session ⟨source, none⟩).1 =
      (checkFile config ⟨source, none⟩).findings := rfl
  refine ⟨?_, ?_⟩
  · rw [hfindings, checkFile_findings]
    congr 1
    apply List.filter_congr
    intro named _
    rw [NamedElement.isReported, Bool.decide_and]
    congr 1
    rw [Bool.eq_iff_iff, decide_eq_true_iff, NamedElement.isUnmarked_iff, Bool.not_eq_true']
    rfl
  · rw [hfindings]
    exact checkFile_offsets_nodup config ⟨source, none⟩

end NamedParams
