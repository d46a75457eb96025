import Mathlib.Logic.Equiv.Basic
import NamedParams.Proofs.Detector.FileFindings
import NamedParams.Proofs.Source.ComputedRenaming
import NamedParams.Proofs.Source.RenamedBodies
import NamedParams.Proofs.Source.RenamedImports

namespace NamedParams

namespace Source

variable {rename : String → String}

theorem Tree.isNode_decorator_of_isFunction {tree : Tree} (hfunction : tree.isFunction = true) :
    tree.isNode .decorator = false := by
  cases tree with
  | leaf => rfl
  | node kind children =>
    refine decide_eq_false fun hkind => ?_
    subst hkind
    cases hfunction

theorem functionKind_renamed {old new : Site} (renamed : Site.Renamed rename old new) :
    new.functionKind = old.functionKind := by
  obtain ⟨above, tree⟩ := old
  obtain ⟨above', tree'⟩ := new
  cases renamed <;> rfl

/-- An element and the same element in a renamed file. -/
structure NamedElement.Renamed (rename : String → String) (old new : NamedElement) : Prop where
  function : Tree.Renamed rename old.site.tree new.site.tree
  isFunction : old.site.tree.isFunction = true
  parameter : Tree.Renamed rename old.parameter new.parameter
  isParameter : old.parameter.isNode .parameter = true
  element : Tree.Renamed rename old.element new.element
  isElement : old.element.isNode .bindingElement = true
  name : old.name.Same new.name

theorem boundName?_renamed {old new : Tree} (renamed : Tree.Renamed rename old new)
    (noDecorator : old.isNode .decorator = false) :
    Option.Rel Token.Same old.boundName? new.boundName? := by
  rw [Tree.boundName?, Tree.boundName?]
  obtain ⟨hold, hnew⟩ | ⟨a, b, hold, hnew, same⟩ :=
    renamed.content? noDecorator (by decide : NodeKind.name ≠ .decorator)
  · rw [hold, hnew]
    exact .none
  · rw [hold, hnew]
    cases same with
    | leaf same =>
      dsimp only
      rw [same.kind]
      split
      · exact .some same
      · exact .none
    | decorator => exact .none
    | node => exact .none

theorem patternElements_eq_nil {parameter : Tree} (hpattern : ∀ elements,
    parameter.content? .name ≠ some (.node .objectPattern elements)) :
    parameter.patternElements = [] := by
  unfold Tree.patternElements
  split
  · exact absurd ‹_› (hpattern _)
  · rfl

theorem patternElements_renamed {old new : Tree} (renamed : Tree.Renamed rename old new)
    (noDecorator : old.isNode .decorator = false) :
    List.Forall₂ (fun a b => Tree.Renamed rename a b ∧ a.isNode .bindingElement = true)
      old.patternElements new.patternElements := by
  have hcontent := renamed.content? noDecorator (by decide : NodeKind.name ≠ .decorator)
  by_cases hpattern : ∃ elements, old.content? .name = some (.node .objectPattern elements)
  · obtain ⟨elements, hpattern⟩ := hpattern
    rw [Tree.patternElements, Tree.patternElements]
    obtain ⟨hold, -⟩ | ⟨a, b, hold, hnew, same⟩ := hcontent
    · rw [hpattern] at hold
      cases hold
    · obtain rfl : a = .node .objectPattern elements := Option.some.inj (hold.symm.trans hpattern)
      rw [hold, hnew]
      cases same with
      | node _ children =>
        exact forall₂_filter children fun _ _ same => same.isNode_eq .bindingElement
  · rw [patternElements_eq_nil fun elements hold => hpattern ⟨elements, hold⟩,
      patternElements_eq_nil]
    · exact .nil
    · intro elements hnew
      obtain ⟨-, hnone⟩ | ⟨a, b, hold, hsome, same⟩ := hcontent
      · rw [hnone] at hnew
        cases hnew
      · obtain rfl : b = .node .objectPattern elements := Option.some.inj (hsome.symm.trans hnew)
        cases same with
        | node => exact hpattern ⟨_, hold⟩

theorem ownParameters_renamed {old new : Tree} (renamed : Tree.Renamed rename old new)
    (noDecorator : old.isNode .decorator = false) :
    List.Forall₂ (fun a b => Tree.Renamed rename a b ∧ a.isNode .parameter = true)
      old.ownParameters new.ownParameters := by
  have hcontents := renamed.contents noDecorator (by decide : NodeKind.parameters ≠ .decorator)
  exact forall₂_filter hcontents fun _ _ same => same.isNode_eq .parameter

namespace SourceFile

variable {before after : SourceFile}

theorem Renamed.namedElements (renamed : before.Renamed rename after) :
    List.Forall₂ (NamedElement.Renamed rename) before.namedElements after.namedElements := by
  refine List.rel_flatMap renamed.functionSites fun oldSite newSite ⟨function, isFunction⟩ => ?_
  have hparameters :=
    ownParameters_renamed function (Tree.isNode_decorator_of_isFunction isFunction)
  refine List.rel_flatMap hparameters fun oldParameter newParameter ⟨parameter, isParameter⟩ => ?_
  have helements :=
    patternElements_renamed parameter (Tree.isNode_of_isNode isParameter (by decide))
  refine List.rel_filterMap ?_ helements
  rintro oldElement newElement ⟨element, isElement⟩
  have hname := boundName?_renamed element (Tree.isNode_of_isNode isElement (by decide))
  dsimp only
  generalize oldElement.boundName? = oldName, newElement.boundName? = newName at hname ⊢
  cases hname with
  | none => exact .none
  | some name =>
    exact .some ⟨function, isFunction, parameter, isParameter, element, isElement, name⟩

end SourceFile

theorem marks_renamed {index renamedIndex : ImportIndex} (hindex : ∀ name,
      renamedIndex.get? (rename name) = (index.get? name).map (ImportBinding.renamed rename))
    {old new : Tree} (renamed : Tree.Renamed rename old new)
    (noDecorator : old.isNode .decorator = false) :
    renamedIndex.marks new = index.marks old := by
  have hdecorators := forall₂_filter (renamed.children noDecorator) fun _ _ same =>
    same.isNode_eq .decorator
  rw [ImportIndex.marks, ImportIndex.marks, decoratorsOf, decoratorsOf, List.any_map, List.any_map]
  refine any_eq_of_forall₂ hdecorators fun a b hsame => ?_
  have hresolve : renamedIndex.resolve ⟨b⟩ = index.resolve ⟨a⟩ :=
    resolve_renamed hindex hsame.1 hsame.2
  rw [Function.comp_apply, Function.comp_apply, hresolve]

namespace NamedElement

variable {names : List String} {old new : NamedElement} (renamed : old.Renamed rename new)
  (hold : PlainCallees names old.site.tree.callees)
  (hnew : PlainCallees names new.site.tree.callees)

include renamed hold hnew

theorem Renamed.isAsserted_iff : new.IsAsserted names ↔ old.IsAsserted names := by
  have noDecorator := Tree.isNode_of_isNode renamed.isElement (by decide : .decorator ≠ _)
  have hrest := any_eq_of_forall₂ (renamed.element.children noDecorator) fun _ _ same =>
    same.isMarkOf_eq "..."
  have hinitializer : new.element.child? .initializer = none ↔
      old.element.child? .initializer = none := by
    obtain ⟨hold, hnew⟩ | ⟨_, _, hold, hnew, -⟩ := renamed.element.child? noDecorator .initializer
    · rw [hold, hnew]
    · rw [hold, hnew]
      simp
  rw [isAsserted_iff_body, isAsserted_iff_body, hrest, hinitializer, renamed.name.name_eq,
    functionBody_renamed renamed.function
      (Tree.isNode_decorator_of_isFunction renamed.isFunction) hold hnew]

theorem Renamed.isReported_eq {index renamedIndex : ImportIndex} (hindex : ∀ name,
      renamedIndex.get? (rename name) = (index.get? name).map (ImportBinding.renamed rename)) :
    new.isReported names renamedIndex = old.isReported names index := by
  rw [isReported, isReported, decide_eq_decide.mpr (renamed.isAsserted_iff hold hnew),
    marks_renamed hindex renamed.parameter (Tree.isNode_of_isNode renamed.isParameter (by decide))]

end NamedElement

namespace SourceFile

/-- What the functions of a file call in the statements of their blocks. -/
def callees (file : SourceFile) : List Tree :=
  file.functionSites.flatMap fun site => site.tree.callees

theorem plainCallees_of_mem {names : List String} {file : SourceFile}
    (plain : PlainCallees names file.callees) {named : NamedElement}
    (hnamed : named ∈ file.namedElements) : PlainCallees names named.site.tree.callees :=
  fun target htarget => plain target
    (List.mem_flatMap.mpr ⟨named.site, (NamedElement.belongs_iff.mp hnamed).site, htarget⟩)

variable {before after : SourceFile}

theorem Renamed.callees (renamed : before.Renamed rename after) :
    List.Forall₂ (Tree.Renamed rename) before.callees after.callees :=
  List.rel_flatMap renamed.functionSites fun _ _ ⟨function, isFunction⟩ =>
    callees_renamed function (Tree.isNode_decorator_of_isFunction isFunction)

/-- A renaming that keeps names apart, applied to the local names of all imports and the heads of
    all decorators of a file, leaves every decorator with the library member that it referred to, if
    any. The same parameters of the same functions are reported, as long as no callee that is spelled
    as an assertion function has a decorator in it: a callee is known by its spelling, and with
    another name for its decorator it is spelled differently. -/
theorem Renamed.reports_alike (hinjective : Function.Injective rename)
    (renamed : before.Renamed rename after) :
    after.decorators.map after.importIndex.resolve =
        before.decorators.map before.importIndex.resolve ∧
      ∀ config : Config, PlainCallees config.assertionFunctions before.callees →
          PlainCallees config.assertionFunctions after.callees →
        (after.namedElements.map fun named => (named.name.name,
            named.isReported config.assertionFunctions after.importIndex)) =
          (before.namedElements.map fun named => (named.name.name,
            named.isReported config.assertionFunctions before.importIndex)) ∧
        ((checkFile config ⟨after, none⟩).findings.map fun finding =>
            (finding.parameter, finding.functionKind, finding.message)) =
          (checkFile config ⟨before, none⟩).findings.map fun finding =>
            (finding.parameter, finding.functionKind, finding.message) := by
  refine ⟨renamed.map_resolve_decorators hinjective, fun config hbefore hafter => ?_⟩
  have helements := forall₂_mem renamed.namedElements
  -- The condition on callees is about functions, and elements are paired up within them.
  have hreported : ∀ old new, old.Renamed rename new ∧ old ∈ before.namedElements ∧
        new ∈ after.namedElements →
      new.isReported config.assertionFunctions after.importIndex =
        old.isReported config.assertionFunctions before.importIndex :=
    fun old new ⟨same, memBefore, memAfter⟩ => same.isReported_eq
      (plainCallees_of_mem hbefore memBefore) (plainCallees_of_mem hafter memAfter)
      (renamed.get?_importIndex hinjective)
  constructor
  · refine map_eq_of_forall₂ helements fun old new same => ?_
    rw [same.1.name.name_eq, hreported old new same]
  · rw [checkFile_findings, checkFile_findings, List.map_map, List.map_map]
    refine map_eq_of_forall₂ (forall₂_filter helements hreported) fun old new ⟨⟨same, _⟩, _⟩ => ?_
    simp only [Function.comp_apply, NamedElement.finding, same.name.name_eq,
      functionKind_renamed same.function]

/-- A file that takes the marker under its own name, and the same file with an alias for it. -/
def aliasedMarker : SourceFile × SourceFile :=
  (parse "/a.ts" "import{required}from'meta';class A{m(@required{a}){assert(a!=null)}}",
    parse "/a.ts" "import{required as r}from'meta';class A{m(@r{a}){assert(a!=null)}}")

theorem Renamed.reports_alike_of_aliasedMarker :
    Function.Injective (Equiv.swap "required" "r") ∧
      aliasedMarker.1.Renamed (Equiv.swap "required" "r") aliasedMarker.2 ∧
      PlainCallees Config.default.assertionFunctions aliasedMarker.1.callees ∧
      PlainCallees Config.default.assertionFunctions aliasedMarker.2.callees ∧
      aliasedMarker.2.decorators.map aliasedMarker.2.importIndex.resolve = [some requiredMarker] ∧
      (checkFile Config.default ⟨aliasedMarker.2, none⟩).findings.map
        (fun finding => (finding.parameter, finding.functionKind, finding.message)) = [] := by
  have hinjective := (Equiv.swap "required" "r").injective
  have hrenamed : aliasedMarker.1.Renamed (Equiv.swap "required" "r") aliasedMarker.2 :=
    renamed_of_isRenamed (by decide +kernel)
  have hnames : ∀ name ∈ Config.default.assertionFunctions, '@' ∉ name.toList := by
    decide +kernel
  obtain ⟨hbefore, hafter⟩ := plainCallees_of_noSign hnames hrenamed.callees
  obtain ⟨hresolve, hreports⟩ := Renamed.reports_alike hinjective hrenamed
  have hmarker : aliasedMarker.1.decorators.map aliasedMarker.1.importIndex.resolve =
      [some requiredMarker] := by
    decide +kernel
  have hfindings : (checkFile Config.default ⟨aliasedMarker.1, none⟩).findings = [] := by
    decide +kernel
  refine ⟨hinjective, hrenamed, hbefore, hafter, hresolve.trans hmarker, ?_⟩
  rw [(hreports Config.default hbefore hafter).2, hfindings, List.map_nil]

/-- A file with a decorator in the spelling of a callee, and the same file with another name for the
    decorator. -/
def decoratedCallee : SourceFile × SourceFile :=
  (parse "/a.ts" "import{d}from'm';function f({a}){(class{@d m(){}}).x(a!=null)}",
    parse "/a.ts" "import{d as e}from'm';function f({a}){(class{@e m(){}}).x(a!=null)}")

theorem Renamed.not_reports_alike_of_decoratedCallee :
    let config : Config := ⟨[], [], none, ["(class{@d m(){}}).x"]⟩
    Function.Injective (Equiv.swap "d" "e") ∧
      decoratedCallee.1.Renamed (Equiv.swap "d" "e") decoratedCallee.2 ∧
      (checkFile config ⟨decoratedCallee.1, none⟩).findings.map Finding.parameter = ["a"] ∧
      (checkFile config ⟨decoratedCallee.2, none⟩).findings.map Finding.parameter = [] := by
  intro config
  refine ⟨(Equiv.swap "d" "e").injective, renamed_of_isRenamed ?_, ?_, ?_⟩
  · decide +kernel
  · decide +kernel
  · decide +kernel

end SourceFile

end Source

end NamedParams
