import Mathlib.Data.List.Infix
import NamedParams.Proofs.Source.Sites

namespace NamedParams

/-- Where a node stands in nested lists: for each node on the way to it and for itself, how many
    siblings come before. -/
abbrev Address := List Nat

namespace Address

/-- One node is inside another, at any depth. -/
def IsInside (inner outer : Address) : Prop :=
  outer <+: inner ∧ outer ≠ inner

def IsChild (inner outer : Address) : Prop :=
  ∃ index, inner = outer ++ [index]

variable {inner outer other : Address}

theorem IsChild.isInside (hchild : inner.IsChild outer) : inner.IsInside outer := by
  obtain ⟨index, rfl⟩ := hchild
  exact ⟨List.prefix_append _ _, by simp⟩

theorem isInside_iff : inner.IsInside outer ↔ outer <+: inner ∧ ¬ inner <+: outer := by
  constructor
  · rintro ⟨hstarts, hne⟩
    exact ⟨hstarts, fun hback => hne (hstarts.eq_of_length_le hback.length_le)⟩
  · rintro ⟨hstarts, hback⟩
    refine ⟨hstarts, ?_⟩
    rintro rfl
    exact hback List.prefix_rfl

theorem isInside_of_child_prefix {index : Nat} (hstarts : outer ++ [index] <+: inner) :
    inner.IsInside outer := by
  refine ⟨(List.prefix_append _ _).trans hstarts, ?_⟩
  rintro rfl
  have hlength := hstarts.length_le
  rw [List.length_append, List.length_singleton] at hlength
  omega

/-- Whatever a child is inside of is its parent, or its parent is inside of it as well. -/
theorem IsChild.prefix_of_isInside (hchild : inner.IsChild outer) (hother : inner.IsInside other) :
    other <+: outer := by
  obtain ⟨index, rfl⟩ := hchild
  obtain ⟨hstarts, hne⟩ := hother
  obtain heq | hstarts := List.prefix_concat_iff.mp hstarts
  · exact absurd heq hne
  · exact hstarts

/-- Nothing below one sibling is a part of anything below another one. -/
theorem not_prefix_of_ne {above first second : Address} {i j : Nat} (hne : i ≠ j)
    (hfirst : above ++ [i] <+: first) (hsecond : above ++ [j] <+: second) : ¬ first <+: second := by
  intro hstarts
  have hboth := List.prefix_of_prefix_length_le (hfirst.trans hstarts) hsecond (by simp)
  exact hne (by simpa using hboth.eq_of_length (by simp))

end Address

namespace FunctionNode

variable {α : Type}

/-- A function with its address among the functions of a forest. -/
structure Located (α : Type) where
  address : Address
  node : FunctionNode α

mutual

/-- A function at an address and all functions inside it, each before those inside it. -/
def located (address : Address) : FunctionNode α → List (Located α)
  | mk kind name parameters body children =>
    ⟨address, mk kind name parameters body children⟩ :: locatedOf address 0 children

/-- The functions of several trees side by side, of which the first one has the given index. -/
def locatedOf (above : Address) (index : Nat) : List (FunctionNode α) → List (Located α)
  | [] => []
  | node :: rest => node.located (above ++ [index]) ++ locatedOf above (index + 1) rest

end

theorem locatedOf_append (above : Address) (index : Nat) (a b : List (FunctionNode α)) :
    locatedOf above index (a ++ b) =
      locatedOf above index a ++ locatedOf above (index + a.length) b := by
  induction a generalizing index with
  | nil => simp [locatedOf]
  | cons node rest ih =>
    rw [List.cons_append, locatedOf, locatedOf, ih, List.append_assoc, List.length_cons,
      Nat.add_assoc, Nat.add_comm 1]

mutual

theorem length_located (address : Address) :
    ∀ node : FunctionNode α, (node.located address).length = node.count
  | mk kind name parameters body children => by
    rw [located, count, List.length_cons, length_locatedOf address 0 children, Nat.add_comm]

/-- As many functions are found in a forest as are counted. -/
theorem length_locatedOf (above : Address) (index : Nat) :
    ∀ forest : List (FunctionNode α), (locatedOf above index forest).length = countOf forest
  | [] => rfl
  | node :: rest => by
    rw [locatedOf, countOf, List.length_append, length_located (above ++ [index]) node,
      length_locatedOf above (index + 1) rest]

end

mutual

theorem parents_located (address : Address) : ∀ node : FunctionNode α,
    ∀ found ∈ node.located address, found.address = address ∨
      ∃ outer ∈ node.located address, found.address.IsChild outer.address
  | mk kind name parameters body children => by
    intro found hfound
    rw [located, List.mem_cons] at hfound
    obtain rfl | hfound := hfound
    · exact .inl rfl
    · right
      rw [located]
      obtain hchild | ⟨outer, houter, hchild⟩ := parents_locatedOf address 0 children found hfound
      · exact ⟨_, List.mem_cons_self, hchild⟩
      · exact ⟨outer, List.mem_cons_of_mem _ houter, hchild⟩

/-- The parent of a function that is not at the top is among the functions. -/
theorem parents_locatedOf (above : Address) (index : Nat) : ∀ forest : List (FunctionNode α),
    ∀ found ∈ locatedOf above index forest, found.address.IsChild above ∨
      ∃ outer ∈ locatedOf above index forest, found.address.IsChild outer.address
  | [] => by simp [locatedOf]
  | node :: rest => by
    intro found hfound
    rw [locatedOf, List.mem_append] at hfound
    rw [locatedOf]
    obtain hfound | hfound := hfound
    · obtain haddress | ⟨outer, houter, hchild⟩ :=
        parents_located (above ++ [index]) node found hfound
      · exact .inl ⟨index, haddress⟩
      · exact .inr ⟨outer, List.mem_append_left _ houter, hchild⟩
    · obtain hchild | ⟨outer, houter, hchild⟩ :=
        parents_locatedOf above (index + 1) rest found hfound
      · exact .inl hchild
      · exact .inr ⟨outer, List.mem_append_right _ houter, hchild⟩

end

mutual

theorem prefix_of_mem_located (address : Address) : ∀ node : FunctionNode α,
    ∀ found ∈ node.located address, address <+: found.address
  | mk kind name parameters body children => by
    intro found hfound
    rw [located, List.mem_cons] at hfound
    obtain rfl | hfound := hfound
    · exact List.prefix_rfl
    · obtain ⟨index, _, _, hstarts⟩ := prefix_of_mem_locatedOf address 0 children found hfound
      exact (List.prefix_append _ _).trans hstarts

/-- Every function of a forest is in one of its trees. -/
theorem prefix_of_mem_locatedOf (above : Address) (start : Nat) :
    ∀ forest : List (FunctionNode α), ∀ found ∈ locatedOf above start forest,
      ∃ index, start ≤ index ∧ index < start + forest.length ∧ above ++ [index] <+: found.address
  | [] => by simp [locatedOf]
  | node :: rest => by
    intro found hfound
    rw [locatedOf, List.mem_append] at hfound
    rw [List.length_cons]
    obtain hfound | hfound := hfound
    · exact ⟨start, le_rfl, by omega, prefix_of_mem_located (above ++ [start]) node found hfound⟩
    · obtain ⟨index, hstart, hstop, hstarts⟩ :=
        prefix_of_mem_locatedOf above (start + 1) rest found hfound
      exact ⟨index, by omega, by omega, hstarts⟩

end

end FunctionNode

namespace Source

/-- A place in a file, with its address among the trees of the file. -/
structure Place where
  address : Address
  site : Site

namespace Tree

mutual

/-- All places in a tree at an address in pre-order: the tree itself, then those in its children. -/
def places (address : Address) (above : List Tree) : Tree → List Place
  | .leaf token => [⟨address, above, .leaf token⟩]
  | .node kind children =>
    ⟨address, above, .node kind children⟩ ::
      placesOf address (.node kind children :: above) 0 children

/-- The places in several trees side by side, of which the first one has the given index. -/
def placesOf (address : Address) (above : List Tree) (start : Nat) : List Tree → List Place
  | [] => []
  | tree :: rest =>
    tree.places (address ++ [start]) above ++ placesOf address above (start + 1) rest

end

mutual

theorem prefix_of_mem_places (address : Address) (above : List Tree) : ∀ tree : Tree,
    ∀ place ∈ tree.places address above, address <+: place.address
  | .leaf token => by simp [places]
  | .node kind children => by
    intro place hplace
    rw [places, List.mem_cons] at hplace
    obtain rfl | hplace := hplace
    · exact List.prefix_rfl
    · obtain ⟨index, _, hstarts⟩ :=
        prefix_of_mem_placesOf address (.node kind children :: above) 0 children place hplace
      exact (List.prefix_append _ _).trans hstarts

/-- Every place among some trees is in one of them. -/
theorem prefix_of_mem_placesOf (address : Address) (above : List Tree) (start : Nat) :
    ∀ trees : List Tree, ∀ place ∈ placesOf address above start trees,
      ∃ index, start ≤ index ∧ address ++ [index] <+: place.address
  | [] => by simp [placesOf]
  | tree :: rest => by
    intro place hplace
    rw [placesOf, List.mem_append] at hplace
    obtain hplace | hplace := hplace
    · exact ⟨start, le_rfl, prefix_of_mem_places (address ++ [start]) above tree place hplace⟩
    · obtain ⟨index, hstart, hstarts⟩ :=
        prefix_of_mem_placesOf address above (start + 1) rest place hplace
      exact ⟨index, by omega, hstarts⟩

end

end Tree

/-- Among some places, the nearest one that a place is inside of. -/
structure Place.IsNearestAround (places : List Place) (outer inner : Place) : Prop where
  mem : outer ∈ places
  inside : inner.address.IsInside outer.address
  nearest : ∀ other ∈ places, inner.address.IsInside other.address →
    other.address <+: outer.address

def Place.isFunction (place : Place) : Bool :=
  place.site.tree.isFunction

/-- The functions of a file in pre-order, wherever they stand. -/
def SourceFile.functionPlaces (file : SourceFile) : List Place :=
  (Tree.placesOf [] [] 0 file.statements).filter Place.isFunction

open FunctionNode

variable (assertionFunctions : List String) (text : List Char)

/-- Some nodes and some places in the same order, each node beside the place that it is built from.
    A node is inside another one if and only if its place is inside the place of that one. -/
structure Pairing (nodes : List (Located Decorator)) (places : List Place)
    (pairs : List (Located Decorator × Place)) : Prop where
  nodes : pairs.map Prod.fst = nodes
  places : pairs.map Prod.snd = places
  built : ∀ pair ∈ pairs, pair.2.site.function? assertionFunctions text = some pair.1.node
  aligned : ∀ outer ∈ pairs, ∀ inner ∈ pairs,
    outer.1.address <+: inner.1.address ↔ outer.2.address <+: inner.2.address

namespace Pairing

variable {assertionFunctions text} {nodes others : List (Located Decorator)}
  {places more : List Place} {pairs rest : List (Located Decorator × Place)}

theorem nil : Pairing assertionFunctions text [] [] [] :=
  ⟨rfl, rfl, by simp, by simp⟩

theorem node_mem (hpairs : Pairing assertionFunctions text nodes places pairs)
    {pair : Located Decorator × Place} (hpair : pair ∈ pairs) : pair.1 ∈ nodes :=
  hpairs.nodes ▸ List.mem_map_of_mem hpair

theorem place_mem (hpairs : Pairing assertionFunctions text nodes places pairs)
    {pair : Located Decorator × Place} (hpair : pair ∈ pairs) : pair.2 ∈ places :=
  hpairs.places ▸ List.mem_map_of_mem hpair

/-- Two pairings side by side, when nothing in one is a part of anything in the other. -/
theorem append (hpairs : Pairing assertionFunctions text nodes places pairs)
    (hrest : Pairing assertionFunctions text others more rest)
    (hnodes : ∀ a ∈ nodes, ∀ b ∈ others, ¬ a.address <+: b.address ∧ ¬ b.address <+: a.address)
    (hplaces : ∀ a ∈ places, ∀ b ∈ more, ¬ a.address <+: b.address ∧ ¬ b.address <+: a.address) :
    Pairing assertionFunctions text (nodes ++ others) (places ++ more) (pairs ++ rest) := by
  have hapart {a b} (ha : a ∈ pairs) (hb : b ∈ rest) :=
    And.intro (hnodes _ (hpairs.node_mem ha) _ (hrest.node_mem hb))
      (hplaces _ (hpairs.place_mem ha) _ (hrest.place_mem hb))
  refine ⟨?_, ?_, ?_, ?_⟩
  · rw [List.map_append, hpairs.nodes, hrest.nodes]
  · rw [List.map_append, hpairs.places, hrest.places]
  · intro pair hpair
    obtain hpair | hpair := List.mem_append.mp hpair
    · exact hpairs.built pair hpair
    · exact hrest.built pair hpair
  · intro outer houter inner hinner
    obtain houter | houter := List.mem_append.mp houter <;>
      obtain hinner | hinner := List.mem_append.mp hinner
    · exact hpairs.aligned outer houter inner hinner
    · exact iff_of_false (hapart houter hinner).1.1 (hapart houter hinner).2.1
    · exact iff_of_false (hapart hinner houter).1.2 (hapart hinner houter).2.2
    · exact hrest.aligned outer houter inner hinner

/-- A pairing inside a function. -/
theorem cons (hpairs : Pairing assertionFunctions text nodes places pairs)
    {node : Located Decorator} {place : Place}
    (hbuilt : place.site.function? assertionFunctions text = some node.node)
    (hnodes : ∀ inner ∈ nodes, inner.address.IsInside node.address)
    (hplaces : ∀ inner ∈ places, inner.address.IsInside place.address) :
    Pairing assertionFunctions text (node :: nodes) (place :: places) ((node, place) :: pairs) := by
  refine ⟨by rw [List.map_cons, hpairs.nodes], by rw [List.map_cons, hpairs.places], ?_, ?_⟩
  · intro pair hpair
    obtain rfl | hpair := List.mem_cons.mp hpair
    · exact hbuilt
    · exact hpairs.built pair hpair
  · have hinside {inner} (hinner : inner ∈ pairs) :=
      And.intro (hnodes _ (hpairs.node_mem hinner)) (hplaces _ (hpairs.place_mem hinner))
    intro outer houter inner hinner
    obtain rfl | houter := List.mem_cons.mp houter <;>
      obtain rfl | hinner := List.mem_cons.mp hinner
    · exact iff_of_true List.prefix_rfl List.prefix_rfl
    · exact iff_of_true (hinside hinner).1.1 (hinside hinner).2.1
    · exact iff_of_false (Address.isInside_iff.mp (hinside houter).1).2
        (Address.isInside_iff.mp (hinside houter).2).2
    · exact hpairs.aligned outer houter inner hinner

theorem isInside_iff (hpairs : Pairing assertionFunctions text nodes places pairs)
    {outer inner : Located Decorator × Place} (houter : outer ∈ pairs) (hinner : inner ∈ pairs) :
    inner.1.address.IsInside outer.1.address ↔ inner.2.address.IsInside outer.2.address := by
  rw [Address.isInside_iff, Address.isInside_iff, hpairs.aligned outer houter inner hinner,
    hpairs.aligned inner hinner outer houter]

/-- Every place that something paired is inside of is paired with a node around it. -/
theorem exists_outer (hpairs : Pairing assertionFunctions text nodes places pairs)
    {inner : Located Decorator × Place} (hinner : inner ∈ pairs) {place : Place}
    (hplace : place ∈ places) (hinside : inner.2.address.IsInside place.address) :
    ∃ outer ∈ pairs, outer.2 = place ∧ inner.1.address.IsInside outer.1.address := by
  rw [← hpairs.places, List.mem_map] at hplace
  obtain ⟨outer, houter, rfl⟩ := hplace
  exact ⟨outer, houter, rfl, (hpairs.isInside_iff houter hinner).mpr hinside⟩

variable {forest : List (FunctionNode Decorator)}

/-- A node is either at the top or the child of a paired node. -/
theorem isChild_nil_or
    (hpairs : Pairing assertionFunctions text (locatedOf [] 0 forest) places pairs)
    {inner : Located Decorator × Place} (hinner : inner ∈ pairs) :
    inner.1.address.IsChild [] ∨ ∃ outer ∈ pairs, inner.1.address.IsChild outer.1.address := by
  obtain htop | ⟨outer, houter, hchild⟩ :=
    parents_locatedOf [] 0 forest inner.1 (hpairs.node_mem hinner)
  · exact .inl htop
  · rw [← hpairs.nodes, List.mem_map] at houter
    obtain ⟨outer, houter, rfl⟩ := houter
    exact .inr ⟨outer, houter, hchild⟩

theorem address_ne_nil
    (hpairs : Pairing assertionFunctions text (locatedOf [] 0 forest) places pairs)
    {pair : Located Decorator × Place} (hpair : pair ∈ pairs) : pair.1.address ≠ [] := by
  obtain ⟨index, _, _, hstarts⟩ := prefix_of_mem_locatedOf _ _ _ _ (hpairs.node_mem hpair)
  intro hnil
  rw [hnil] at hstarts
  exact absurd hstarts.length_le (by simp)

/-- The parent of a node goes with the nearest place around the place of the node. -/
theorem isChild_iff (hpairs : Pairing assertionFunctions text (locatedOf [] 0 forest) places pairs)
    {outer inner : Located Decorator × Place} (houter : outer ∈ pairs) (hinner : inner ∈ pairs) :
    inner.1.address.IsChild outer.1.address ↔ outer.2.IsNearestAround places inner.2 := by
  constructor
  · intro hchild
    refine ⟨hpairs.place_mem houter, (hpairs.isInside_iff houter hinner).mp hchild.isInside, ?_⟩
    intro place hplace hinside
    obtain ⟨other, hother, rfl, haround⟩ := hpairs.exists_outer hinner hplace hinside
    exact (hpairs.aligned other hother outer houter).mp (hchild.prefix_of_isInside haround)
  · intro hnearest
    have hinside := (hpairs.isInside_iff houter hinner).mpr hnearest.inside
    obtain htop | ⟨parent, hparent, hchild⟩ := hpairs.isChild_nil_or hinner
    · have hnil := List.prefix_nil.mp (htop.prefix_of_isInside hinside)
      exact absurd hnil (hpairs.address_ne_nil houter)
    · have hstarts := (hpairs.aligned parent hparent outer houter).mpr
        (hnearest.nearest parent.2 (hpairs.place_mem hparent)
          ((hpairs.isInside_iff hparent hinner).mp hchild.isInside))
      have hback := hchild.prefix_of_isInside hinside
      rw [← hstarts.eq_of_length_le hback.length_le]
      exact hchild

/-- A node is at the top when its place is inside of no place. -/
theorem isChild_nil_iff
    (hpairs : Pairing assertionFunctions text (locatedOf [] 0 forest) places pairs)
    {inner : Located Decorator × Place} (hinner : inner ∈ pairs) :
    inner.1.address.IsChild [] ↔ ∀ place ∈ places, ¬ inner.2.address.IsInside place.address := by
  constructor
  · intro htop place hplace hinside
    obtain ⟨outer, houter, rfl, haround⟩ := hpairs.exists_outer hinner hplace hinside
    have hnil := List.prefix_nil.mp (htop.prefix_of_isInside haround)
    exact hpairs.address_ne_nil houter hnil
  · intro hnone
    obtain htop | ⟨parent, hparent, hchild⟩ := hpairs.isChild_nil_or hinner
    · exact htop
    · exact absurd ((hpairs.isInside_iff hparent hinner).mp hchild.isInside)
        (hnone parent.2 (hpairs.place_mem hparent))

end Pairing

mutual

/-- The nodes that are built from a tree go with the functions among its places, wherever the tree
    stands and however many nodes have been built before. -/
theorem exists_pairing : ∀ (outer : Address) (built : Nat) (address : Address) (above : List Tree)
    (tree : Tree), ∃ pairs, Pairing assertionFunctions text
      (locatedOf outer built (functionsIn assertionFunctions text (.within above) tree))
      ((tree.places address above).filter Place.isFunction) pairs
  | outer, built, address, above, .leaf token => by
    exact ⟨[], by simpa [functionsIn, locatedOf, Tree.places, Place.isFunction, Tree.isFunction]
      using Pairing.nil⟩
  | outer, built, address, above, .node kind children => by
    rw [functionsIn, Tree.places, Surroundings.inside_within, List.filter_cons, Place.isFunction,
      Tree.isFunction]
    cases hkind : functionKind? kind with
    | none => exact exists_pairingOf outer built address (.node kind children :: above) 0 children
    | some functionKind =>
      obtain ⟨pairs, hpairs⟩ := exists_pairingOf (outer ++ [built]) 0 address
        (.node kind children :: above) 0 children
      rw [if_pos (by rfl)]
      simp only [locatedOf, located, List.append_nil]
      refine ⟨_, hpairs.cons ?_ ?_ ?_⟩
      · simp [Site.function?, hkind]
      · intro inner hinner
        obtain ⟨index, _, _, hstarts⟩ := prefix_of_mem_locatedOf _ _ _ _ hinner
        exact Address.isInside_of_child_prefix hstarts
      · intro inner hinner
        obtain ⟨index, _, hstarts⟩ :=
          Tree.prefix_of_mem_placesOf _ _ _ _ _ (List.mem_of_mem_filter hinner)
        exact Address.isInside_of_child_prefix hstarts

theorem exists_pairingOf : ∀ (outer : Address) (built : Nat) (address : Address)
    (above : List Tree) (start : Nat) (trees : List Tree), ∃ pairs,
    Pairing assertionFunctions text
      (locatedOf outer built (functionsInAll assertionFunctions text (.within above) trees))
      ((Tree.placesOf address above start trees).filter Place.isFunction) pairs
  | outer, built, address, above, start, [] => ⟨[], .nil⟩
  | outer, built, address, above, start, tree :: rest => by
    rw [functionsInAll, locatedOf_append, Tree.placesOf, List.filter_append]
    obtain ⟨pairs, hpairs⟩ := exists_pairing outer built (address ++ [start]) above tree
    obtain ⟨more, hmore⟩ := exists_pairingOf outer
      (built + (functionsIn assertionFunctions text (.within above) tree).length) address above
      (start + 1) rest
    refine ⟨_, hpairs.append hmore ?_ ?_⟩
    · intro a ha b hb
      obtain ⟨i, _, hi, ha⟩ := prefix_of_mem_locatedOf _ _ _ _ ha
      obtain ⟨j, hj, _, hb⟩ := prefix_of_mem_locatedOf _ _ _ _ hb
      exact ⟨Address.not_prefix_of_ne (by omega) ha hb, Address.not_prefix_of_ne (by omega) hb ha⟩
    · intro a ha b hb
      have ha := Tree.prefix_of_mem_places _ _ _ _ (List.mem_of_mem_filter ha)
      obtain ⟨j, hj, hb⟩ := Tree.prefix_of_mem_placesOf _ _ _ _ _ (List.mem_of_mem_filter hb)
      exact ⟨Address.not_prefix_of_ne (by omega) ha hb, Address.not_prefix_of_ne (by omega) hb ha⟩

end

/-- The functions that are built from a file stand for those that are written in it. -/
theorem SourceFile.exists_pairing (file : SourceFile) :
    ∃ pairs, Pairing assertionFunctions file.text
      (locatedOf [] 0 (file.functions assertionFunctions)) file.functionPlaces pairs :=
  exists_pairingOf assertionFunctions file.text [] 0 [] [] 0 file.statements

/-- As many functions are counted in a file as are written in it. -/
theorem SourceFile.countOf_functions (file : SourceFile) :
    countOf (file.functions assertionFunctions) = file.functionPlaces.length := by
  obtain ⟨pairs, hpairs⟩ := file.exists_pairing assertionFunctions
  rw [← length_locatedOf [] 0, ← hpairs.nodes, ← hpairs.places, List.length_map, List.length_map]

end Source

end NamedParams
