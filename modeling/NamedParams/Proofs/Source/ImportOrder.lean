import Mathlib.Data.List.Nodup
import Mathlib.Data.Prod.Lex
import NamedParams.Detector
import NamedParams.Proofs.Source.Assertions
import NamedParams.Proofs.Source.Resolution

namespace NamedParams

/-- A list holds its elements in the strict order of their places. -/
def Arranges {κ α : Type} [LT κ] (list : List α) (At : κ → α → Prop) : Prop :=
  ∃ placed : List (κ × α), placed.map Prod.snd = list ∧
    placed.Pairwise (fun a b => a.1 < b.1) ∧
    ∀ place element, (place, element) ∈ placed ↔ At place element

namespace Arranges

variable {κ α β : Type}

section Order

variable [LinearOrder κ] {list others : List α} {At Other : κ → α → Prop}

theorem congr (harranges : Arranges list At)
    (hsame : ∀ place element, At place element ↔ Other place element) : Arranges list Other := by
  obtain ⟨placed, hlist, hordered, hmem⟩ := harranges
  exact ⟨placed, hlist, hordered, fun place element =>
    (hmem place element).trans (hsame place element)⟩

theorem nil (hnone : ∀ place element, ¬ At place element) : Arranges [] At :=
  ⟨[], rfl, .nil, fun place element => by simpa using hnone place element⟩

theorem option (found : Option α) (place : κ) :
    Arranges found.toList fun other element => other = place ∧ found = some element := by
  cases found with
  | none => exact nil (by simp)
  | some element => exact ⟨[(place, element)], rfl, by simp, by simp [eq_comm]⟩

theorem append (hlist : Arranges list At) (hothers : Arranges others Other)
    (hlt : ∀ place element later other, At place element → Other later other → place < later) :
    Arranges (list ++ others) fun place element => At place element ∨ Other place element := by
  obtain ⟨placed, rfl, hordered, hmem⟩ := hlist
  obtain ⟨more, rfl, hmore, hmemMore⟩ := hothers
  refine ⟨placed ++ more, by simp, ?_, ?_⟩
  · rw [List.pairwise_append]
    refine ⟨hordered, hmore, ?_⟩
    rintro ⟨place, element⟩ helement ⟨later, other⟩ hother
    exact hlt place element later other ((hmem _ _).mp helement) ((hmemMore _ _).mp hother)
  · intro place element
    rw [List.mem_append, hmem, hmemMore]

/-- Places may be counted in another way that keeps their order. -/
theorem mapPlaces {ι : Type} [LinearOrder ι] {f : κ → ι} (hf : StrictMono f)
    (harranges : Arranges list At) :
    Arranges list fun place element => ∃ old, place = f old ∧ At old element := by
  obtain ⟨placed, rfl, hordered, hmem⟩ := harranges
  refine ⟨placed.map fun entry => (f entry.1, entry.2), by simp, ?_, ?_⟩
  · rw [List.pairwise_map]
    exact hordered.imp fun hlt => hf hlt
  · intro place element
    simp only [List.mem_map, Prod.exists, Prod.mk.injEq, hmem]
    constructor
    · rintro ⟨old, other, hat, rfl, rfl⟩
      exact ⟨old, rfl, hat⟩
    · rintro ⟨old, rfl, hat⟩
      exact ⟨old, element, hat, rfl, rfl⟩

/-- What is found from the end of an ordered list stands behind everything else that is accepted. -/
theorem le_of_find?_reverse {placed : List (κ × α)}
    (hordered : placed.Pairwise fun a b => a.1 < b.1) {p : κ × α → Bool} {entry : κ × α}
    (hentry : placed.reverse.find? p = some entry) :
    ∀ other ∈ placed, p other = true → other.1 ≤ entry.1 := by
  obtain ⟨_, after, before, hsplit, hrefused⟩ := List.find?_eq_some_iff_append.mp hentry
  have hplaced : placed = before.reverse ++ entry :: after.reverse := by
    simpa using congrArg List.reverse hsplit
  rw [hplaced, List.pairwise_append] at hordered
  intro other hother hp
  rw [hplaced, List.mem_append, List.mem_cons, List.mem_reverse, List.mem_reverse] at hother
  obtain hbefore | rfl | hafter := hother
  · exact (hordered.2.2 other (List.mem_reverse.mpr hbefore) entry List.mem_cons_self).le
  · exact le_rfl
  · have hnot := hrefused other hafter
    simp [hp] at hnot

/-- The last element that a test accepts is the accepted element at the greatest place. -/
theorem find?_reverse_eq_some_iff (harranges : Arranges list At) {p : α → Bool} {found : α} :
    list.reverse.find? p = some found ↔
      ∃ place, At place found ∧ p found = true ∧
        ∀ later other, At later other → p other = true → later ≤ place := by
  obtain ⟨placed, rfl, hordered, hmem⟩ := harranges
  rw [← List.map_reverse, List.find?_map, Option.map_eq_some_iff]
  constructor
  · rintro ⟨⟨place, element⟩, hfind, rfl⟩
    have helement := List.mem_reverse.mp (List.mem_of_find?_eq_some hfind)
    have haccepted : p element = true := by simpa using List.find?_some hfind
    refine ⟨place, (hmem _ _).mp helement, haccepted, ?_⟩
    intro later other hother
    exact le_of_find?_reverse hordered hfind (later, other) ((hmem _ _).mpr hother)
  · rintro ⟨place, hat, haccepted, hgreatest⟩
    have hfound : (placed.reverse.find? (p ∘ Prod.snd)).isSome = true := by
      rw [List.find?_isSome]
      exact ⟨(place, found), by simpa using (hmem place found).mpr hat, haccepted⟩
    obtain ⟨entry, hfind⟩ := Option.isSome_iff_exists.mp hfound
    have hentry := List.mem_reverse.mp (List.mem_of_find?_eq_some hfind)
    have hp : p entry.2 = true := by simpa using List.find?_some hfind
    have hplace : entry.1 = place := by
      apply le_antisymm
      · exact hgreatest entry.1 entry.2 ((hmem _ _).mp hentry) hp
      · exact le_of_find?_reverse hordered hfind (place, found) ((hmem _ _).mpr hat) haccepted
    -- Places are strictly ordered, so one place has one element.
    have hdistinct : (placed.map Prod.fst).Nodup :=
      (List.pairwise_map.mpr hordered).imp fun hlt => hlt.ne
    have hsame := List.inj_on_of_nodup_map hdistinct hentry ((hmem place found).mpr hat) hplace
    exact ⟨entry, hfind, congrArg Prod.snd hsame⟩

end Order

/-- What is kept of a list is in the order of the list. -/
theorem filterMap (f : β → Option α) (list : List β) (start : ℕ) :
    Arranges (list.filterMap f) fun place element =>
      ∃ index source, place = start + index ∧ list[index]? = some source ∧
        f source = some element := by
  induction list generalizing start with
  | nil => exact nil (by simp)
  | cons first rest ih =>
    have hcons : (first :: rest).filterMap f = (f first).toList ++ rest.filterMap f := by
      rw [List.filterMap_cons]
      cases f first <;> rfl
    rw [hcons]
    refine ((option (f first) start).append (ih (start + 1)) ?_).congr ?_
    · rintro place element later other ⟨rfl, _⟩ ⟨index, source, rfl, _⟩
      omega
    · intro place element
      constructor
      · rintro (⟨rfl, hfirst⟩ | ⟨index, source, rfl, hsource, helement⟩)
        · exact ⟨0, first, rfl, rfl, hfirst⟩
        · exact ⟨index + 1, source, by omega, hsource, helement⟩
      · rintro ⟨index, source, rfl, hsource, helement⟩
        cases index with
        | zero =>
          cases hsource
          exact .inl ⟨rfl, helement⟩
        | succ index => exact .inr ⟨index, source, by omega, hsource, helement⟩

/-- Lists that are put behind each other are ordered by their index first. -/
theorem flatMap [LinearOrder κ] {f : β → List α} {At : β → κ → α → Prop}
    (hf : ∀ source, Arranges (f source) (At source)) (list : List β) (start : ℕ) :
    Arranges (list.flatMap f) fun (place : ℕ ×ₗ κ) element =>
      ∃ index source inner, place = toLex (start + index, inner) ∧ list[index]? = some source ∧
        At source inner element := by
  induction list generalizing start with
  | nil => exact nil (by simp)
  | cons first rest ih =>
    have hmono : StrictMono fun inner : κ => toLex (start, inner) := by
      intro a b hlt
      simpa [Prod.Lex.toLex_lt_toLex] using hlt
    rw [List.flatMap_cons]
    refine (((hf first).mapPlaces hmono).append (ih (start + 1)) ?_).congr ?_
    · rintro place element later other ⟨inner, rfl, _⟩ ⟨index, source, second, rfl, _⟩
      rw [Prod.Lex.toLex_lt_toLex]
      left
      dsimp only
      omega
    · intro place element
      constructor
      · rintro (⟨inner, rfl, hfirst⟩ | ⟨index, source, inner, rfl, hsource, helement⟩)
        · exact ⟨0, first, inner, rfl, rfl, hfirst⟩
        · refine ⟨index + 1, source, inner, ?_, hsource, helement⟩
          rw [Nat.add_right_comm, Nat.add_assoc]
      · rintro ⟨index, source, inner, rfl, hsource, helement⟩
        cases index with
        | zero =>
          cases hsource
          exact .inl ⟨inner, rfl, helement⟩
        | succ index =>
          refine .inr ⟨index, source, inner, ?_, hsource, helement⟩
          rw [Nat.add_right_comm, Nat.add_assoc]

end Arranges

namespace Source

/-- The tree is a declaration that imports values, not only types. -/
def Tree.ImportsValues (declaration : Tree) : Prop :=
  declaration.isNode .importDeclaration = true ∧ declaration.child? .typeOnly = none

/-- What the parts of an import declaration bind, with their rank in it: the whole module comes
    first, then the default, and then the names in braces in their order. Names in braces that are
    only types bind nothing, and a name alone is imported under itself. -/
inductive Tree.Binds (declaration : Tree) : ℕ → ImportBinding → Prop where
  | whole {part : Tree} {name : String} (hpart : declaration.child? .namespaceImport = some part)
      (hname : roleText? .name part = some name) :
      Binds declaration 0 ⟨name, importedModule declaration, .module⟩
  | default {name : String} (hname : roleText? .defaultImport declaration = some name) :
      Binds declaration 1 ⟨name, importedModule declaration, .default⟩
  | member {braces specifier : Tree} {index : ℕ} {name : String}
      (hbraces : declaration.child? .namedImports = some braces)
      (hspecifier : braces.children[index]? = some specifier)
      (hkind : specifier.isNode .importSpecifier = true)
      (hvalue : specifier.child? .typeOnly = none)
      (hname : roleText? .name specifier = some name) :
      Binds declaration (2 + index)
        ⟨name, importedModule declaration,
          .member ((roleText? .propertyKey specifier).getD name)⟩

/-- What the imports at the top of a file bind: by the index of the declaration in the file, and
    then by the rank in the declaration. -/
def SourceFile.Binds (file : SourceFile) (place : ℕ ×ₗ ℕ) (binding : ImportBinding) : Prop :=
  ∃ index declaration rank, place = toLex (index, rank) ∧
    file.statements[index]? = some declaration ∧ declaration.ImportsValues ∧
    declaration.Binds rank binding

/-- The binding of a name that no later one replaces. -/
def SourceFile.LastBinds (file : SourceFile) (name : String) (binding : ImportBinding) : Prop :=
  ∃ place, file.Binds place binding ∧ binding.localName = name ∧
    ∀ later other, file.Binds later other → other.localName = name → later ≤ place

theorem specifierBinding?_eq_some_iff {module : String} {specifier : Tree}
    {binding : ImportBinding} :
    specifierBinding? module specifier = some binding ↔
      specifier.isNode .importSpecifier = true ∧ specifier.child? .typeOnly = none ∧
        ∃ name, roleText? .name specifier = some name ∧
          binding = ⟨name, module, .member ((roleText? .propertyKey specifier).getD name)⟩ := by
  rw [specifierBinding?]
  by_cases hspecifier : specifier.isNode .importSpecifier = true
  · cases htype : specifier.child? .typeOnly with
    | none =>
      simp only [hspecifier, Option.isNone_none, Bool.and_self, if_true, Option.map_eq_some_iff,
        true_and]
      exact exists_congr fun name => and_congr_right fun _ => eq_comm
    | some mark => simp [hspecifier]
  · simp [hspecifier]

/-- The bindings of a declaration are listed by their rank. -/
theorem arranges_importBindings (declaration : Tree) :
    Arranges (importBindings declaration) fun rank binding =>
      declaration.ImportsValues ∧ declaration.Binds rank binding := by
  rw [importBindings]
  by_cases hvalues : declaration.ImportsValues
  · have hdeclares : (declaration.isNode .importDeclaration &&
        (declaration.child? .typeOnly).isNone) = true := by
      rw [hvalues.1, hvalues.2]
      rfl
    rw [if_pos hdeclares]
    dsimp only
    rw [← Option.toList_map, ← Option.toList_map, List.append_assoc]
    have hmembers := Arranges.filterMap (specifierBinding? (importedModule declaration))
      (((declaration.child? .namedImports).map Tree.children).getD []) 2
    have hdefault := Arranges.option ((roleText? .defaultImport declaration).map fun name =>
      (⟨name, importedModule declaration, .default⟩ : ImportBinding)) 1
    have hwhole := Arranges.option (((declaration.child? .namespaceImport).bind
      (roleText? .name)).map fun name =>
        (⟨name, importedModule declaration, .module⟩ : ImportBinding)) 0
    refine (hwhole.append (hdefault.append hmembers ?_) ?_).congr ?_
    · rintro place element later other ⟨rfl, _⟩ ⟨index, source, rfl, _⟩
      omega
    · rintro place element later other ⟨rfl, _⟩ (⟨rfl, _⟩ | ⟨index, source, rfl, _⟩) <;> omega
    · intro rank binding
      simp only [hvalues, true_and, Option.map_eq_some_iff, Option.bind_eq_some_iff]
      constructor
      · rintro (⟨rfl, name, ⟨part, hpart, hname⟩, rfl⟩ | ⟨rfl, name, hname, rfl⟩ |
          ⟨index, specifier, rfl, hspecifier, hbinding⟩)
        · exact .whole hpart hname
        · exact .default hname
        · cases hbraces : declaration.child? .namedImports with
          | none => simp [hbraces] at hspecifier
          | some braces =>
            obtain ⟨hkind, hvalue, name, hname, rfl⟩ := specifierBinding?_eq_some_iff.mp hbinding
            exact .member hbraces (by simpa [hbraces] using hspecifier) hkind hvalue hname
      · intro hbinds
        cases hbinds with
        | whole hpart hname => exact .inl ⟨rfl, _, ⟨_, hpart, hname⟩, rfl⟩
        | default hname => exact .inr (.inl ⟨rfl, _, hname, rfl⟩)
        | member hbraces hspecifier hkind hvalue hname =>
          refine .inr (.inr ⟨_, _, rfl, by simpa [hbraces] using hspecifier, ?_⟩)
          exact specifierBinding?_eq_some_iff.mpr ⟨hkind, hvalue, _, hname, rfl⟩
  · have hother : ¬ (declaration.isNode .importDeclaration &&
        (declaration.child? .typeOnly).isNone) = true := by
      simpa [Tree.ImportsValues] using hvalues
    rw [if_neg hother]
    exact .nil fun rank binding hbinds => hvalues hbinds.1

namespace SourceFile

/-- The bindings of a file are listed by their place. -/
theorem arranges_importBindings (file : SourceFile) :
    Arranges file.importBindings file.Binds := by
  refine (Arranges.flatMap Source.arranges_importBindings file.statements 0).congr ?_
  intro place binding
  simp only [Nat.zero_add]
  exact Iff.rfl

theorem lastBinding?_eq_some_iff {file : SourceFile} {name : String} {binding : ImportBinding} :
    lastBinding? file.importBindings name = some binding ↔ file.LastBinds name binding := by
  rw [lastBinding?, file.arranges_importBindings.find?_reverse_eq_some_iff]
  simp only [decide_eq_true_eq]
  exact Iff.rfl

/-- What an expression denotes through the imports of its file: a bare name denotes what its last
    binding imports by default or by a name, and a property of a bare name denotes a member of the
    module that the last binding of that name imports as a whole. -/
inductive Denotes (file : SourceFile) (expression : Tree) (found : LibraryMember) : Prop where
  | default {name : String} {binding : ImportBinding} (hname : expression.IsName name)
      (hlast : file.LastBinds name binding) (himported : binding.imported = .default)
      (hfound : found = ⟨binding.module, "default"⟩)
  | named {name exported : String} {binding : ImportBinding} (hname : expression.IsName name)
      (hlast : file.LastBinds name binding) (himported : binding.imported = .member exported)
      (hfound : found = ⟨binding.module, exported⟩)
  | member {name : String} {binding : ImportBinding} {object : Tree} {dot property : Token}
      (hproperty : expression = .node .propertyAccess [object, .leaf dot, .leaf property])
      (hname : object.IsName name) (hlast : file.LastBinds name binding)
      (himported : binding.imported = .module)
      (hfound : found = ⟨binding.module, property.displayName⟩)

theorem refersTo_iff_denotes {file : SourceFile} {expression : Tree} {found : LibraryMember} :
    RefersTo file.importBindings expression found ↔ file.Denotes expression found := by
  constructor
  · intro hrefers
    cases hrefers with
    | @imported token binding exported hidentifier hlast hexports =>
      have hname : (Tree.leaf token).IsName token.name := ⟨token, rfl, hidentifier, rfl⟩
      rw [lastBinding?_eq_some_iff] at hlast
      cases himported : binding.imported with
      | module => simp [himported, Imported.exportedName?] at hexports
      | default =>
        simp only [himported, Imported.exportedName?, Option.some.injEq] at hexports
        exact .default hname hlast himported (by rw [hexports])
      | member name =>
        simp only [himported, Imported.exportedName?, Option.some.injEq] at hexports
        exact .named hname hlast himported (by rw [hexports])
    | member hidentifier hlast hmodule =>
      rw [lastBinding?_eq_some_iff] at hlast
      exact .member rfl ⟨_, rfl, hidentifier, rfl⟩ hlast hmodule rfl
  · intro hdenotes
    cases hdenotes with
    | default hname hlast himported hfound =>
      obtain ⟨token, rfl, hidentifier, rfl⟩ := hname
      subst hfound
      exact .imported hidentifier (lastBinding?_eq_some_iff.mpr hlast)
        (by rw [himported, Imported.exportedName?])
    | named hname hlast himported hfound =>
      obtain ⟨token, rfl, hidentifier, rfl⟩ := hname
      subst hfound
      exact .imported hidentifier (lastBinding?_eq_some_iff.mpr hlast)
        (by rw [himported, Imported.exportedName?])
    | member hproperty hname hlast himported hfound =>
      obtain ⟨token, rfl, hidentifier, rfl⟩ := hname
      subst hproperty hfound
      exact .member hidentifier (lastBinding?_eq_some_iff.mpr hlast) himported

end SourceFile

/-- The expression that a decorator is resolved by: its own or, if that is a call, what is called.
    No second call is looked through. -/
def Decorator.ResolvesBy (decorator : Decorator) (expression : Tree) : Prop :=
  (∃ rest, decorator.expression = .node .call (expression :: rest)) ∨
    decorator.expression.isNode .call = false ∧ decorator.expression = expression

theorem callee_of_resolvesBy {decorator : Decorator} {expression : Tree}
    (hresolves : decorator.ResolvesBy expression) : callee decorator.expression = expression := by
  obtain ⟨rest, hcall⟩ | ⟨hother, rfl⟩ := hresolves
  · rw [hcall, callee]
  · unfold callee
    split
    · rename_i hcall
      simp [hcall, Tree.isNode] at hother
    · rfl

/-- Only a call of nothing at all has no expression to be resolved by, and it refers to nothing. -/
theorem resolvesBy_callee_of_refersTo {bindings : List ImportBinding} {decorator : Decorator}
    {found : LibraryMember} (hrefers : RefersTo bindings (callee decorator.expression) found) :
    decorator.ResolvesBy (callee decorator.expression) := by
  revert hrefers
  generalize htree : decorator.expression = tree
  intro hrefers
  rw [Decorator.ResolvesBy, htree]
  cases tree with
  | leaf token => exact .inr ⟨rfl, rfl⟩
  | node kind children =>
    by_cases hkind : kind = .call
    · subst hkind
      cases children with
      | nil => cases hrefers
      | cons target rest => exact .inl ⟨rest, rfl⟩
    · refine .inr ⟨by simpa [Tree.isNode] using hkind, ?_⟩
      unfold callee
      split
      · rename_i hcall
        cases hcall
        exact absurd rfl hkind
      · rfl

/-- A decorator of a file whose imports are not settled yet resolves to exactly what the expression
    of the decorator, or what that expression calls, denotes through the imports of the file. If it
    denotes nothing, the decorator resolves to nothing. -/
theorem resolve_eq_some_iff_denotes (file : SourceFile) (decorator : Decorator) :
    (∀ found, (ProjectFile.mk file none).index.resolve decorator = some found ↔
        ∃ expression, decorator.ResolvesBy expression ∧ file.Denotes expression found) ∧
      ((ProjectFile.mk file none).index.resolve decorator = none ↔
        ∀ expression, decorator.ResolvesBy expression →
          ∀ found, ¬ file.Denotes expression found) := by
  have hsome : ∀ found, (ProjectFile.mk file none).index.resolve decorator = some found ↔
      ∃ expression, decorator.ResolvesBy expression ∧ file.Denotes expression found := by
    intro found
    have hrefers : (ProjectFile.mk file none).index.resolve decorator = some found ↔
        RefersTo file.importBindings (callee decorator.expression) found :=
      resolveExpression_eq_some_iff file (callee decorator.expression) found
    rw [hrefers]
    constructor
    · intro hcallee
      exact ⟨_, resolvesBy_callee_of_refersTo hcallee, SourceFile.refersTo_iff_denotes.mp hcallee⟩
    · rintro ⟨expression, hresolves, hdenotes⟩
      rw [callee_of_resolvesBy hresolves]
      exact SourceFile.refersTo_iff_denotes.mpr hdenotes
  refine ⟨hsome, ?_⟩
  rw [Option.eq_none_iff_forall_ne_some]
  constructor
  · intro hnone expression hresolves found hdenotes
    exact hnone found ((hsome found).mpr ⟨expression, hresolves, hdenotes⟩)
  · intro hnone found hfound
    obtain ⟨expression, hresolves, hdenotes⟩ := (hsome found).mp hfound
    exact hnone expression hresolves found hdenotes

end Source

end NamedParams
