import NamedParams.Proofs.Detector.FileFindings

namespace NamedParams.Source

open NamedParams.Text

/-- The part of a parameter of the source that stands for a parameter of its own: the parameter
    itself, when it is a name, or an element of its object pattern that does not collect the
    remaining properties. -/
inductive Tree.IsPart (parameter : Tree) : ParameterKind → Tree → Prop where
  | itself : IsPart parameter .positional parameter
  | element {element : Tree} (helement : element ∈ parameter.patternElements)
    (hrest : element.children.any (Tree.isMarkOf "...") = false) :
    IsPart parameter .named element

/-- What is built for a part that binds a name. -/
def partParameter (text : List Char) (parameter : Tree) (kind : ParameterKind) (part : Tree)
    (name : Token) : Parameter Decorator :=
  { name := name.name
    kind
    hasDefault := (part.child? .initializer).isSome
    decorations := (decoratorsOf parameter).map fun decorator => ⟨decorator, decorator.text⟩
    position := positionAt text name.start }

theorem mem_patternElements_iff {parameter element : Tree} :
    element ∈ parameter.patternElements ↔ ∃ elements,
      parameter.content? .name = some (.node .objectPattern elements) ∧ element ∈ elements ∧
        element.isNode .bindingElement = true := by
  unfold Tree.patternElements
  split
  · rename_i elements hname
    simp [hname, List.mem_filter]
  · rename_i hpattern
    refine ⟨fun hmem => (List.not_mem_nil hmem).elim, ?_⟩
    rintro ⟨elements, hname, -⟩
    exact absurd hname (hpattern elements)

theorem elementName?_eq_some_iff {element : Tree} {name : Token} :
    elementName? element = some name ↔ element.isNode .bindingElement = true ∧
      element.children.any (Tree.isMarkOf "...") = false ∧ element.boundName? = some name := by
  rw [elementName?_eq]
  split
  · rename_i helement
    rw [Bool.and_eq_true, Bool.not_eq_true'] at helement
    simp only [helement, true_and]
  · rename_i helement
    rw [Bool.and_eq_true, Bool.not_eq_true'] at helement
    constructor
    · intro hnone
      cases hnone
    · rintro ⟨hkind, hrest, -⟩
      exact absurd ⟨hkind, hrest⟩ helement

/-- The parameters that one parameter of the source stands for are those of its parts that bind a
    name. -/
theorem mem_parametersOf_iff {text : List Char} {parameter : Tree}
    {found : Parameter Decorator} :
    found ∈ parametersOf text parameter ↔ ∃ kind part name, parameter.IsPart kind part ∧
      part.boundName? = some name ∧ found = partParameter text parameter kind part name := by
  constructor
  · intro hfound
    unfold parametersOf at hfound
    split at hfound
    · rename_i token hname
      dsimp only at hfound
      split at hfound
      · rename_i hkind
        have hbound := Tree.boundName?_eq_some_iff.mpr ⟨hname, hkind⟩
        exact ⟨_, _, token, .itself, hbound, List.mem_singleton.mp hfound⟩
      · exact (List.not_mem_nil hfound).elim
    · rename_i elements hname
      obtain ⟨element, helement, hbuilt⟩ := List.mem_filterMap.mp hfound
      obtain ⟨name, hbound, rfl⟩ := Option.map_eq_some_iff.mp hbuilt
      obtain ⟨hkind, hrest, hbound⟩ := elementName?_eq_some_iff.mp hbound
      exact ⟨_, _, name,
        .element (mem_patternElements_iff.mpr ⟨elements, hname, helement, hkind⟩) hrest, hbound, rfl⟩
    · exact (List.not_mem_nil hfound).elim
  · rintro ⟨kind, part, name, hpart, hbound, rfl⟩
    cases hpart with
    | itself =>
      obtain ⟨hname, hkind⟩ := Tree.boundName?_eq_some_iff.mp hbound
      simp [parametersOf, hname, hkind, partParameter]
    | element helement hrest =>
      obtain ⟨elements, hname, hmem, hkind⟩ := mem_patternElements_iff.mp helement
      rw [parametersOf, hname]
      refine List.mem_filterMap.mpr ⟨part, hmem, ?_⟩
      rw [elementName?_eq_some_iff.mpr ⟨hkind, hrest, hbound⟩]
      rfl

variable {file : SourceFile} {assertionFunctions : List String}

/-- The functions that are built for a file are those at its places. -/
theorem mem_preorderOf_functions_iff {function : FunctionNode Decorator} :
    function ∈ FunctionNode.preorderOf (file.functions assertionFunctions) ↔
      ∃ site ∈ file.functionSites,
        site.function? assertionFunctions file.text = some function := by
  rw [file.preorderOf_functions, List.mem_filterMap]
  constructor
  · rintro ⟨site, hsite, hfunction⟩
    refine ⟨site, List.mem_filter.mpr ⟨hsite, ?_⟩, hfunction⟩
    rw [← site.isSome_function? assertionFunctions file.text, hfunction]
    rfl
  · rintro ⟨site, hsite, hfunction⟩
    exact ⟨site, List.mem_of_mem_filter hsite, hfunction⟩

/-- The parameters that are built for a file are those of the parts of the parameters that its
    functions have. -/
theorem mem_built_parameters_iff {found : Parameter Decorator} :
    (∃ function ∈ FunctionNode.preorderOf (file.functions assertionFunctions),
        found ∈ function.parameters) ↔
      ∃ site ∈ file.functionSites, ∃ parameter ∈ site.tree.ownParameters, ∃ kind part name,
        parameter.IsPart kind part ∧ part.boundName? = some name ∧
          found = partParameter file.text parameter kind part name := by
  constructor
  · rintro ⟨function, hfunction, hfound⟩
    obtain ⟨site, hsite, hbuilt⟩ := mem_preorderOf_functions_iff.mp hfunction
    rw [(fields_of_function? hbuilt).1] at hfound
    obtain ⟨parameter, hparameter, hfound⟩ := List.mem_flatMap.mp hfound
    exact ⟨site, hsite, parameter, hparameter, mem_parametersOf_iff.mp hfound⟩
  · rintro ⟨site, hsite, parameter, hparameter, hfound⟩
    have hsome : (site.function? assertionFunctions file.text).isSome = true := by
      rw [site.isSome_function? assertionFunctions file.text]
      exact (List.mem_filter.mp hsite).2
    obtain ⟨function, hbuilt⟩ := Option.isSome_iff_exists.mp hsome
    refine ⟨function, mem_preorderOf_functions_iff.mpr ⟨site, hsite, hbuilt⟩, ?_⟩
    rw [(fields_of_function? hbuilt).1]
    exact List.mem_flatMap.mpr ⟨parameter, hparameter, mem_parametersOf_iff.mpr hfound⟩

end NamedParams.Source
