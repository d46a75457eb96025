import Mathlib.Data.List.Perm.Subperm
import NamedParams.Proofs.Source.Sites
import NamedParams.Proofs.Source.Tiling

namespace NamedParams.Source

namespace Tree

/-- The parameters of a function itself, and of no function inside it. -/
def ownParameters (function : Tree) : List Tree :=
  ((function.child? .parameters).map Tree.children).getD [] |>.filter (Tree.isNode .parameter)

/-- The elements of the object pattern that a parameter consists of. Those of patterns inside it
    do not count. -/
def patternElements (parameter : Tree) : List Tree :=
  match parameter.content? .name with
  | some (.node .objectPattern elements) => elements.filter (Tree.isNode .bindingElement)
  | _ => []

/-- The identifier that an element of a pattern binds, unless it binds a pattern. -/
def boundName? (element : Tree) : Option Token :=
  match element.content? .name with
  | some (.leaf token) => if token.kind = .name then some token else none
  | _ => none

theorem boundName?_eq_some_iff {part : Tree} {name : Token} :
    part.boundName? = some name ↔
      part.content? .name = some (.leaf name) ∧ name.kind = .name := by
  unfold boundName?
  constructor
  · intro hname
    split at hname
    · rename_i token hcontent
      split at hname
      · rename_i hkind
        obtain rfl := Option.some.inj hname
        exact ⟨hcontent, hkind⟩
      · cases hname
    · cases hname
  · rintro ⟨hcontent, hkind⟩
    simp only [hcontent, hkind, if_true]

/-- The identifiers bound by the elements of one parameter. -/
def parameterNames (parameter : Tree) : List Token :=
  parameter.patternElements.filterMap boundName?

end Tree

/-- An element in an object pattern of a function, with the identifier that it binds. -/
structure NamedElement where
  site : Site
  parameter : Tree
  element : Tree
  name : Token

/-- The elements of the object pattern that a parameter of the function at a place consists of. -/
def Site.elementsOf (site : Site) (parameter : Tree) : List NamedElement :=
  parameter.patternElements.filterMap fun element =>
    element.boundName?.map fun name => ⟨site, parameter, element, name⟩

/-- The elements of the object patterns that are parameters of the function at a place. -/
def Site.namedElements (site : Site) : List NamedElement :=
  site.tree.ownParameters.flatMap site.elementsOf

/-- All pairs of a function of a file and an element that binds an identifier in one of its object
    patterns. -/
def SourceFile.namedElements (file : SourceFile) : List NamedElement :=
  file.functionSites.flatMap Site.namedElements

theorem Site.map_name_namedElements (site : Site) :
    site.namedElements.map NamedElement.name =
      site.tree.ownParameters.flatMap Tree.parameterNames := by
  rw [Site.namedElements, List.map_flatMap]
  congr 1
  funext parameter
  rw [Site.elementsOf, List.map_filterMap, Tree.parameterNames]
  congr 1
  funext element
  cases element.boundName? <;> rfl

namespace Tree

mutual

/-- The identifiers bound in the object patterns of all functions in a tree. -/
def boundNames : Tree → List Token
  | .leaf _ => []
  | .node kind children =>
    (if (Tree.node kind children).isFunction then
      (Tree.node kind children).ownParameters.flatMap parameterNames else []) ++
      boundNamesOf children

def boundNamesOf : List Tree → List Token
  | [] => []
  | tree :: rest => tree.boundNames ++ boundNamesOf rest

end

theorem boundNamesOf_append (a b : List Tree) :
    boundNamesOf (a ++ b) = boundNamesOf a ++ boundNamesOf b := by
  induction a with
  | nil => rfl
  | cons tree rest ih => rw [List.cons_append, boundNamesOf, boundNamesOf, ih, List.append_assoc]

theorem boundNames_of_not_function {kind : NodeKind} (children : List Tree)
    (hkind : functionKind? kind = none) :
    (Tree.node kind children).boundNames = boundNamesOf children := by
  simp [boundNames, isFunction, hkind]

mutual

/-- The functions among the places of a tree bind the names of the tree. -/
theorem flatMap_sites_names : ∀ (above : List Tree) (tree : Tree),
    (((tree.sites above).filter fun site => site.tree.isFunction).flatMap fun site =>
        site.namedElements.map NamedElement.name) = tree.boundNames
  | above, .leaf token => by simp [sites, boundNames, isFunction]
  | above, .node kind children => by
    have hinside := flatMap_sitesOf_names (.node kind children :: above) children
    rw [sites, boundNames, ← hinside, List.filter_cons]
    split
    · rw [List.flatMap_cons, Site.map_name_namedElements]
    · rw [List.nil_append]

theorem flatMap_sitesOf_names : ∀ (above : List Tree) (trees : List Tree),
    (((sitesOf above trees).filter fun site => site.tree.isFunction).flatMap fun site =>
        site.namedElements.map NamedElement.name) = boundNamesOf trees
  | above, [] => rfl
  | above, tree :: rest => by
    rw [sitesOf, List.filter_append, List.flatMap_append, flatMap_sites_names above tree,
      flatMap_sitesOf_names above rest, boundNamesOf]

end

open scoped List

private theorem flatMap_filter {α β : Type} (p : α → Bool) (f : α → List β) (list : List α) :
    (list.filter p).flatMap f = list.flatMap fun a => if p a then f a else [] := by
  induction list with
  | nil => rfl
  | cons a rest ih =>
    rw [List.filter_cons, List.flatMap_cons, ← ih]
    split <;> simp

/-- The tree has a token of its own for every name that the functions in it bind. -/
def Covered (tree : Tree) : Prop :=
  tree.boundNames <+~ tree.tokens

theorem covered_leaf (token : Token) : Covered (.leaf token) :=
  List.nil_subperm

/-- When the children provide for the names in them, and for some names of their parent's in
    addition, then the names of all children are provided for. -/
theorem append_boundNamesOf_subperm {trees : List Tree} {own : Tree → List Token}
    (hown : ∀ tree ∈ trees, own tree ++ tree.boundNames <+~ tree.tokens) :
    trees.flatMap own ++ boundNamesOf trees <+~ tokensOf trees := by
  induction trees with
  | nil => exact List.nil_subperm
  | cons tree rest ih =>
    have hfirst := hown tree List.mem_cons_self
    have hrest := ih fun other hother => hown other (List.mem_cons_of_mem _ hother)
    have hperm : (own tree ++ rest.flatMap own) ++ (tree.boundNames ++ boundNamesOf rest) ~
        (own tree ++ tree.boundNames) ++ (rest.flatMap own ++ boundNamesOf rest) := by
      rw [List.append_assoc, List.append_assoc]
      exact List.Perm.append_left _ (List.perm_append_comm_assoc _ _ _)
    rw [List.flatMap_cons, boundNamesOf, tokensOf_cons]
    exact hperm.subperm.trans (hfirst.append hrest)

theorem boundNamesOf_subperm {trees : List Tree} (hcovered : ∀ tree ∈ trees, tree.Covered) :
    boundNamesOf trees <+~ tokensOf trees := by
  induction trees with
  | nil => exact List.nil_subperm
  | cons tree rest ih =>
    rw [boundNamesOf, tokensOf_cons]
    exact (hcovered tree List.mem_cons_self).append
      (ih fun other hother => hcovered other (List.mem_cons_of_mem _ hother))

/-- The same when only one of the children provides for more. -/
theorem append_boundNamesOf_subperm_of_mem {trees : List Tree} {tree : Tree} {own : List Token}
    (hmem : tree ∈ trees) (hown : own ++ tree.boundNames <+~ tree.tokens)
    (hcovered : ∀ other ∈ trees, other.Covered) :
    own ++ boundNamesOf trees <+~ tokensOf trees := by
  obtain ⟨before, after, rfl⟩ := List.append_of_mem hmem
  have hbefore : boundNamesOf before <+~ tokensOf before := boundNamesOf_subperm fun other hother =>
    hcovered other (List.mem_append_left _ hother)
  have hafter : boundNamesOf after <+~ tokensOf after := boundNamesOf_subperm fun other hother =>
    hcovered other (List.mem_append_right _ (List.mem_cons_of_mem _ hother))
  have hperm : own ++ (boundNamesOf before ++ (tree.boundNames ++ boundNamesOf after)) ~
      boundNamesOf before ++ ((own ++ tree.boundNames) ++ boundNamesOf after) := by
    rw [List.append_assoc]
    exact List.perm_append_comm_assoc _ _ _
  rw [boundNamesOf_append, boundNamesOf, tokensOf_append, tokensOf_cons]
  exact hperm.subperm.trans (hbefore.append (hown.append hafter))

/-- The content of a role stands first in a child of that kind. -/
theorem exists_mem_of_content? {kind : NodeKind} {tree content : Tree}
    (hcontent : tree.content? kind = some content) :
    ∃ others, Tree.node kind (content :: others) ∈ tree.children := by
  obtain ⟨role, hrole, hhead⟩ := Option.bind_eq_some_iff.mp hcontent
  have hmem := List.mem_of_find?_eq_some hrole
  have hkind := List.find?_some hrole
  cases role with
  | leaf token => cases hkind
  | node other children =>
    have hother : other = kind := of_decide_eq_true hkind
    subst hother
    obtain ⟨others, hothers⟩ := List.head?_eq_some_iff.mp hhead
    rw [show children = content :: others from hothers] at hmem
    exact ⟨others, hmem⟩

/-- Every tree below this one is covered. -/
def CoveredBelow (tree : Tree) : Prop :=
  ∀ other : Tree, sizeOf other < sizeOf tree → other.Covered

theorem sizeOf_lt_of_mem_children {tree child : Tree} (hchild : child ∈ tree.children) :
    sizeOf child < sizeOf tree := by
  cases tree with
  | leaf token => cases hchild
  | node kind children =>
    have hlt : sizeOf child < sizeOf children := List.sizeOf_lt_of_mem hchild
    rw [Tree.node.sizeOf_spec]
    omega

theorem CoveredBelow.child {tree child : Tree} (hbelow : tree.CoveredBelow)
    (hchild : child ∈ tree.children) : child.CoveredBelow := by
  intro other hother
  exact hbelow other (Nat.lt_trans hother (sizeOf_lt_of_mem_children hchild))

theorem CoveredBelow.children {tree : Tree} (hbelow : tree.CoveredBelow) :
    ∀ child ∈ tree.children, child.Covered :=
  fun child hchild => hbelow child (sizeOf_lt_of_mem_children hchild)

/-- What the content of a role provides for in addition, its tree provides for as well. -/
theorem CoveredBelow.content {role kind : NodeKind} {children : List Tree} {content : Tree}
    {own : List Token} (hbelow : (Tree.node kind children).CoveredBelow)
    (hkind : functionKind? kind = none) (hrole : functionKind? role = none)
    (hcontent : (Tree.node kind children).content? role = some content)
    (hown : own ++ content.boundNames <+~ content.tokens) :
    own ++ (Tree.node kind children).boundNames <+~ (Tree.node kind children).tokens := by
  obtain ⟨others, hmem⟩ := exists_mem_of_content? hcontent
  have hinside : own ++ (Tree.node role (content :: others)).boundNames <+~
      (Tree.node role (content :: others)).tokens := by
    rw [boundNames_of_not_function _ hrole, tokens_node]
    exact append_boundNamesOf_subperm_of_mem List.mem_cons_self hown
      (hbelow.child hmem).children
  rw [boundNames_of_not_function _ hkind, tokens_node]
  exact append_boundNamesOf_subperm_of_mem hmem hinside hbelow.children

/-- An element binds a name that is none of those bound further inside. -/
theorem CoveredBelow.element {element : Tree} (hbelow : element.CoveredBelow)
    (hkind : element.isNode .bindingElement) :
    element.boundName?.toList ++ element.boundNames <+~ element.tokens := by
  cases element with
  | leaf token => cases hkind
  | node kind children =>
    have hkind : kind = .bindingElement := of_decide_eq_true hkind
    subst hkind
    have hinside : (Tree.node .bindingElement children).boundNames <+~
        (Tree.node .bindingElement children).tokens := by
      rw [boundNames_of_not_function _ rfl, tokens_node]
      exact boundNamesOf_subperm hbelow.children
    unfold boundName?
    split
    · rename_i token hcontent
      split
      · refine hbelow.content rfl rfl hcontent ?_
        rw [Option.toList_some, boundNames, List.append_nil, tokens_leaf]
      · exact hinside
    · exact hinside

/-- The same holds of all names that a parameter binds. -/
theorem CoveredBelow.parameter {parameter : Tree} (hbelow : parameter.CoveredBelow)
    (hkind : parameter.isNode .parameter) :
    parameter.parameterNames ++ parameter.boundNames <+~ parameter.tokens := by
  cases parameter with
  | leaf token => cases hkind
  | node kind children =>
    have hkind : kind = .parameter := of_decide_eq_true hkind
    subst hkind
    unfold parameterNames patternElements
    split
    · rename_i elements hcontent
      refine hbelow.content rfl rfl hcontent ?_
      obtain ⟨others, hmem⟩ := exists_mem_of_content? hcontent
      have hpattern := (hbelow.child hmem).child List.mem_cons_self
      have hnames : (elements.filter (isNode .bindingElement)).filterMap boundName? =
          elements.flatMap fun element =>
            if element.isNode .bindingElement then element.boundName?.toList else [] := by
        rw [List.filterMap_eq_flatMap_toList, flatMap_filter]
      rw [hnames, boundNames_of_not_function _ rfl, tokens_node]
      refine append_boundNamesOf_subperm fun element helement => ?_
      split
      · exact (hpattern.child helement).element ‹_›
      · exact hpattern.children element helement
    · rw [List.filterMap_nil, List.nil_append, boundNames_of_not_function _ rfl, tokens_node]
      exact boundNamesOf_subperm hbelow.children

/-- The same holds of all names that a function binds. -/
theorem CoveredBelow.function {kind : NodeKind} {children : List Tree}
    (hbelow : (Tree.node kind children).CoveredBelow) :
    (Tree.node kind children).ownParameters.flatMap parameterNames ++ boundNamesOf children <+~
      tokensOf children := by
  unfold ownParameters
  cases hfind : (Tree.node kind children).child? .parameters with
  | none => exact boundNamesOf_subperm hbelow.children
  | some list =>
    have hmem := List.mem_of_find?_eq_some hfind
    have hkind := List.find?_some hfind
    refine append_boundNamesOf_subperm_of_mem hmem ?_ hbelow.children
    cases list with
    | leaf token => cases hkind
    | node kind parameters =>
      have hkind : kind = .parameters := of_decide_eq_true hkind
      subst hkind
      have hlist := hbelow.child hmem
      rw [Option.map_some, Option.getD_some, flatMap_filter,
        boundNames_of_not_function _ rfl, tokens_node]
      refine append_boundNamesOf_subperm fun parameter hparameter => ?_
      split
      · exact (hlist.child hparameter).parameter ‹_›
      · exact hlist.children parameter hparameter

/-- In every tree the functions bind each name at most once, wherever they stand in each other. -/
theorem covered (tree : Tree) : tree.Covered := by
  have hbelow : tree.CoveredBelow := fun other hother => covered other
  cases tree with
  | leaf token => exact covered_leaf token
  | node kind children =>
    rw [Covered, boundNames, tokens_node]
    split
    · exact hbelow.function
    · exact boundNamesOf_subperm hbelow.children
termination_by sizeOf tree

end Tree

namespace SourceFile

theorem map_name_namedElements (file : SourceFile) :
    file.namedElements.map NamedElement.name = Tree.boundNamesOf file.statements := by
  rw [namedElements, List.map_flatMap, functionSites, sites]
  exact Tree.flatMap_sitesOf_names [] file.statements

/-- Every named element has a token of the file of its own. -/
theorem namedElements_names_subperm (file : SourceFile) :
    (file.namedElements.map NamedElement.name).Subperm file.tokens := by
  rw [map_name_namedElements]
  exact Tree.boundNamesOf_subperm fun tree _ => tree.covered

theorem name_mem_tokens (file : SourceFile) {named : NamedElement}
    (hnamed : named ∈ file.namedElements) : named.name ∈ file.tokens :=
  file.namedElements_names_subperm.subset (List.mem_map_of_mem hnamed)

end SourceFile

namespace NamedElement

/-- A named element belongs to a function of its file, to one of the function's own parameters, and
    to the pattern of that parameter, and it binds its name. -/
structure Belongs (named : NamedElement) (file : SourceFile) : Prop where
  site : named.site ∈ file.functionSites
  parameter : named.parameter ∈ named.site.tree.ownParameters
  element : named.element ∈ named.parameter.patternElements
  name : named.element.boundName? = some named.name

theorem belongs_iff {named : NamedElement} {file : SourceFile} :
    named ∈ file.namedElements ↔ named.Belongs file := by
  simp only [SourceFile.namedElements, Site.namedElements, Site.elementsOf, List.mem_flatMap,
    List.mem_filterMap, Option.map_eq_some_iff]
  constructor
  · rintro ⟨site, hsite, parameter, hparameter, element, helement, name, hname, rfl⟩
    exact ⟨hsite, hparameter, helement, hname⟩
  · rintro ⟨hsite, hparameter, helement, hname⟩
    exact ⟨_, hsite, _, hparameter, _, helement, _, hname, rfl⟩

theorem Belongs.name_kind {named : NamedElement} {file : SourceFile} (hnamed : named.Belongs file) :
    named.name.kind = .name :=
  (Tree.boundName?_eq_some_iff.mp hnamed.name).2

end NamedElement

/-- No two named elements of a file start at the same place. -/
theorem SourceFile.namedElements_starts_nodup (file : SourceFile) :
    (file.namedElements.map fun named => named.name.start).Nodup := by
  have hnames : (file.namedElements.map NamedElement.name).filter (fun token => token.kind = .name) =
      file.namedElements.map NamedElement.name := by
    rw [List.filter_eq_self]
    intro token htoken
    obtain ⟨named, hnamed, rfl⟩ := List.mem_map.mp htoken
    exact decide_eq_true (NamedElement.belongs_iff.mp hnamed).name_kind
  have hsubperm := file.namedElements_names_subperm.filter fun token => token.kind = .name
  rw [hnames] at hsubperm
  obtain ⟨others, hperm, hsublist⟩ := hsubperm
  have hnodup := file.tokens_names_nodup.sublist (hsublist.map Token.start)
  have hstarts := (hperm.map Token.start).nodup_iff.mp hnodup
  rwa [List.map_map] at hstarts

end NamedParams.Source
