import NamedParams.Proofs.Rule.RequiredReports

namespace NamedParams

variable {α β π σ : Type}

/-- A function without the functions inside it. -/
structure FunctionHead (α : Type) where
  kind : FunctionKind
  name : Option String
  parameters : List (Parameter α)
  body : Option Body

/-- How the functions of a tree are nested, with a label for each of them. Two trees that differ in
    what their functions are, but not in how they are nested, have an outline in common. -/
inductive Outline (β : Type) where
  | mk (label : β) (inner : List (Outline β))

namespace Outline

def label : Outline β → β
  | mk label _ => label

mutual

/-- An outline and all outlines inside it, each before those inside it. -/
def preorder : Outline β → List (Outline β)
  | mk label inner => mk label inner :: preorderOf inner

def preorderOf : List (Outline β) → List (Outline β)
  | [] => []
  | outline :: rest => outline.preorder ++ preorderOf rest

end

mutual

/-- The tree with this outline in which each label tells the head of its function. -/
def node (head : β → FunctionHead α) : Outline β → FunctionNode α
  | mk label inner =>
    .mk (head label).kind (head label).name (head label).parameters (head label).body
      (nodes head inner)

/-- Several such trees side by side. -/
def nodes (head : β → FunctionHead α) : List (Outline β) → List (FunctionNode α)
  | [] => []
  | outline :: rest => outline.node head :: nodes head rest

end

variable (head : β → FunctionHead α)

theorem parameters_node (outline : Outline β) :
    (outline.node head).parameters = (head outline.label).parameters := by
  cases outline
  rfl

theorem body_node (outline : Outline β) :
    (outline.node head).body = (head outline.label).body := by
  cases outline
  rfl

mutual

theorem preorder_node : ∀ outline : Outline β,
    (outline.node head).preorder = outline.preorder.map (node head)
  | mk label inner => by
    rw [node, FunctionNode.preorder, preorder, List.map_cons, preorderOf_nodes inner, node]

theorem preorderOf_nodes : ∀ forest : List (Outline β),
    FunctionNode.preorderOf (nodes head forest) = (preorderOf forest).map (node head)
  | [] => rfl
  | outline :: rest => by
    rw [nodes, FunctionNode.preorderOf, preorderOf, List.map_append, preorder_node outline,
      preorderOf_nodes rest]

end

variable {head}

mutual

theorem exists_node_eq (hhead : Function.Surjective head) :
    ∀ tree : FunctionNode α, ∃ outline : Outline β, outline.node head = tree
  | .mk kind name parameters body children => by
    obtain ⟨label, hlabel⟩ := hhead ⟨kind, name, parameters, body⟩
    obtain ⟨inner, hinner⟩ := nodes_surjective hhead children
    exact ⟨mk label inner, by rw [node, hlabel, hinner]⟩

/-- Where labels can tell every head, all trees have an outline. -/
theorem nodes_surjective (hhead : Function.Surjective head) :
    Function.Surjective (nodes head)
  | [] => ⟨[], rfl⟩
  | tree :: rest => by
    obtain ⟨outline, houtline⟩ := exists_node_eq hhead tree
    obtain ⟨outlines, houtlines⟩ := nodes_surjective hhead rest
    exact ⟨outline :: outlines, by rw [nodes, houtline, houtlines]⟩

end

/-- Those parameters of the functions of some outlines that are selected, each with the outline of
    its function, in the order of reports. -/
def select (parameters : β → List π) (selected : β → π → Bool) (forest : List (Outline β)) :
    List (π × Outline β) :=
  (preorderOf forest).flatMap fun outline =>
    ((parameters outline.label).filter (selected outline.label)).map (·, outline)

theorem filter_select (parameters : β → List π) (selected : β → π → Bool) (kept : π → Bool)
    (forest : List (Outline β)) :
    (select parameters selected forest).filter (fun found => kept found.1) =
      select parameters (fun label parameter => kept parameter && selected label parameter)
        forest := by
  rw [select, select, List.filter_flatMap]
  congr 1
  funext outline
  rw [List.filter_map, List.filter_filter]
  rfl

/-- The report on a parameter of a function, when both are told by labels. -/
def report (version : π → Parameter α) (head : β → FunctionHead α) (found : π × Outline β) :
    Report α :=
  ⟨version found.1, found.2.node head⟩

/-- The required reports on trees with an outline are on those parameters that lack the marker. -/
theorem requiredReports_nodes (meaning : Decoration α → Option LibraryMember)
    {parameters : β → List π} {version : π → Parameter α}
    (hparameters : ∀ label, (head label).parameters = (parameters label).map version)
    (forest : List (Outline β)) :
    requiredReports meaning (nodes head forest) =
      (select parameters (fun label parameter =>
        decide ((version parameter).LacksMarker meaning (head label).body)) forest).map
        (report version head) := by
  rw [requiredReports, preorderOf_nodes, List.flatMap_map, select, List.map_flatMap]
  congr 1
  funext outline
  rw [FunctionNode.requiredReports, parameters_node, body_node, hparameters, List.filter_map,
    List.map_map, List.map_map]
  rfl

end Outline

/-- What a sink has got in the end when nothing throws. -/
def recordedReports (meaning : Decoration α → Option LibraryMember) (ask : Decoration α → σ → σ)
    (take : Report α → σ → σ) (state : σ) (forest : List (FunctionNode α)) : List (Report α) :=
  (reportForest (quietResolver meaning ask) (recordingSink take) forest (state, [])).2.2

theorem recordedReports_eq (meaning : Decoration α → Option LibraryMember)
    (ask : Decoration α → σ → σ) (take : Report α → σ → σ) (state : σ)
    (forest : List (FunctionNode α)) :
    recordedReports meaning ask take state forest = requiredReports meaning forest := by
  have hobserved : Observed (quietResolver meaning ask) (recordingSink take) meaning
      (fun recorded : σ × List (Report α) => recorded.2) :=
    ⟨fun _ _ => rfl, fun _ _ => rfl, fun _ _ => rfl⟩
  exact hobserved.reportForest forest (state, [])

/-- What a sink gets from trees with an outline can be told by their labels. -/
theorem Outline.recordedReports_nodes {head : β → FunctionHead α} {parameters : β → List π}
    {version : π → Parameter α} (meaning : Decoration α → Option LibraryMember)
    (ask : Decoration α → σ → σ) (take : Report α → σ → σ) (state : σ)
    (hparameters : ∀ label, (head label).parameters = (parameters label).map version)
    (forest : List (Outline β)) :
    recordedReports meaning ask take state (nodes head forest) =
      (select parameters (fun label parameter =>
        decide ((version parameter).LacksMarker meaning (head label).body)) forest).map
        (report version head) := by
  rw [recordedReports_eq, requiredReports_nodes meaning hparameters]

end NamedParams
