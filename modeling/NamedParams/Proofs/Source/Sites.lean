import NamedParams.Source.Functions

namespace NamedParams.Source

/-- A place in a file: a tree, with the trees around it, the nearest one first. -/
structure Site where
  above : List Tree
  tree : Tree
deriving Inhabited

namespace Tree

mutual

/-- All places in a tree in pre-order: the tree itself, then those in its children. -/
def sites (above : List Tree) : Tree → List Site
  | .leaf token => [⟨above, .leaf token⟩]
  | .node kind children =>
    ⟨above, .node kind children⟩ :: sitesOf (.node kind children :: above) children

/-- The places in several trees side by side. -/
def sitesOf (above : List Tree) : List Tree → List Site
  | [] => []
  | tree :: rest => tree.sites above ++ sitesOf above rest

end

/-- Whether a tree is a function of any kind. -/
def isFunction : Tree → Bool
  | .leaf _ => false
  | .node kind _ => (functionKind? kind).isSome

end Tree

/-- All places in a file. -/
def SourceFile.sites (file : SourceFile) : List Site :=
  Tree.sitesOf [] file.statements

/-- The functions of a file in pre-order, wherever they stand. -/
def SourceFile.functionSites (file : SourceFile) : List Site :=
  file.sites.filter fun site => site.tree.isFunction

/-- What the trees around a place, the nearest one first, give to the name of a function there. -/
def Surroundings.within (above : List Tree) : Surroundings :=
  above.foldr (fun tree outer => outer.inside tree) .none

theorem Surroundings.inside_within (above : List Tree) (tree : Tree) :
    (within above).inside tree = within (tree :: above) := rfl

namespace Site

/-- The node that stands for the function at a place. -/
def function? (assertionFunctions : List String) (text : List Char) (site : Site) :
    Option (FunctionNode Decorator) :=
  match site.tree with
  | .leaf _ => none
  | .node kind children =>
    (functionKind? kind).map fun functionKind =>
      .mk functionKind (some (functionName (.within site.above) kind site.tree))
        (functionParameters text site.tree) (functionBody assertionFunctions site.tree)
        (functionsInAll assertionFunctions text (.within (site.tree :: site.above)) children)

theorem isSome_function? (assertionFunctions : List String) (text : List Char) (site : Site) :
    (site.function? assertionFunctions text).isSome = site.tree.isFunction := by
  obtain ⟨above, tree⟩ := site
  cases tree with
  | leaf token => rfl
  | node kind children => simp [function?, Tree.isFunction]

end Site

end NamedParams.Source

namespace NamedParams.FunctionNode

variable {α : Type}

@[simp] theorem preorderOf_nil : preorderOf ([] : List (FunctionNode α)) = [] := rfl

theorem preorderOf_append (a b : List (FunctionNode α)) :
    preorderOf (a ++ b) = preorderOf a ++ preorderOf b := by
  induction a with
  | nil => rfl
  | cons node rest ih => rw [List.cons_append, preorderOf, preorderOf, ih, List.append_assoc]

end NamedParams.FunctionNode

namespace NamedParams.Source

variable (assertionFunctions : List String) (text : List Char)

mutual

/-- The nodes built from a tree, taken in pre-order, stand for the functions among its places. -/
theorem preorderOf_functionsIn : ∀ (above : List Tree) (tree : Tree),
    FunctionNode.preorderOf (functionsIn assertionFunctions text (.within above) tree) =
      (tree.sites above).filterMap (Site.function? assertionFunctions text)
  | above, .leaf token => by simp [functionsIn, Tree.sites, Site.function?]
  | above, .node kind children => by
    have hinside := preorderOf_functionsInAll (.node kind children :: above) children
    rw [functionsIn, Tree.sites, List.filterMap_cons, ← hinside, Surroundings.inside_within]
    simp only [Site.function?]
    cases functionKind? kind with
    | none => rfl
    | some functionKind =>
      rw [FunctionNode.preorderOf, FunctionNode.preorder, FunctionNode.preorderOf_nil,
        List.append_nil]
      rfl

theorem preorderOf_functionsInAll : ∀ (above : List Tree) (trees : List Tree),
    FunctionNode.preorderOf (functionsInAll assertionFunctions text (.within above) trees) =
      (Tree.sitesOf above trees).filterMap (Site.function? assertionFunctions text)
  | above, [] => by simp [functionsInAll, Tree.sitesOf]
  | above, tree :: rest => by
    rw [functionsInAll, FunctionNode.preorderOf_append, Tree.sitesOf, List.filterMap_append,
      preorderOf_functionsIn above tree, preorderOf_functionsInAll above rest]

end

/-- The functions of a file in pre-order are those at its places. -/
theorem SourceFile.preorderOf_functions (file : SourceFile) :
    FunctionNode.preorderOf (file.functions assertionFunctions) =
      file.sites.filterMap (Site.function? assertionFunctions file.text) :=
  preorderOf_functionsInAll assertionFunctions file.text [] file.statements

end NamedParams.Source
