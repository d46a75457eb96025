import Mathlib.Data.List.Forall2
import NamedParams.Proofs.Source.Resolution
import NamedParams.Proofs.Source.Sites

namespace NamedParams.Source

section Lists

variable {α β γ δ : Type} {R : α → β → Prop}

theorem exists_of_forall₂_three {a b c : α} {news : List β} (hlists : List.Forall₂ R [a, b, c] news) :
    ∃ a' b' c', news = [a', b', c'] ∧ R a a' ∧ R b b' ∧ R c c' := by
  obtain ⟨a', _, ha, hrest, rfl⟩ := List.forall₂_cons_left_iff.mp hlists
  obtain ⟨b', _, hb, hlast, rfl⟩ := List.forall₂_cons_left_iff.mp hrest
  obtain ⟨c', _, hc, hnil, rfl⟩ := List.forall₂_cons_left_iff.mp hlast
  obtain rfl := List.forall₂_nil_left_iff.mp hnil
  exact ⟨a', b', c', rfl, ha, hb, hc⟩

variable {as : List α} {bs : List β} (hlists : List.Forall₂ R as bs)

include hlists

theorem forall₂_mem : List.Forall₂ (fun a b => R a b ∧ a ∈ as ∧ b ∈ bs) as bs := by
  induction hlists with
  | nil => exact .nil
  | cons first _ ih =>
    refine .cons ⟨first, List.mem_cons_self, List.mem_cons_self⟩ (ih.imp ?_)
    rintro a b ⟨hab, ha, hb⟩
    exact ⟨hab, List.mem_cons_of_mem _ ha, List.mem_cons_of_mem _ hb⟩

/-- What two lists have in common at each place, they have in common after the same places have been
    left out of both. -/
theorem forall₂_filter {p : α → Bool} {q : β → Bool} (hsame : ∀ a b, R a b → q b = p a) :
    List.Forall₂ (fun a b => R a b ∧ p a = true) (as.filter p) (bs.filter q) := by
  induction hlists with
  | nil => exact .nil
  | @cons a b _ _ first _ ih =>
    rw [List.filter_cons, List.filter_cons, hsame a b first]
    split
    · exact .cons ⟨first, ‹_›⟩ ih
    · exact ih

/-- The first accepted elements of both lists stand at the same place. -/
theorem find?_forall₂ {p : α → Bool} {q : β → Bool} (hsame : ∀ a b, R a b → q b = p a) :
    as.find? p = none ∧ bs.find? q = none ∨
      ∃ a b, as.find? p = some a ∧ bs.find? q = some b ∧ R a b ∧ p a = true := by
  induction hlists with
  | nil => exact .inl ⟨rfl, rfl⟩
  | @cons a b _ _ first _ ih =>
    rw [List.find?_cons, List.find?_cons, hsame a b first]
    cases haccepted : p a with
    | true => exact .inr ⟨a, b, rfl, rfl, first, haccepted⟩
    | false => exact ih

theorem any_eq_of_forall₂ {p : α → Bool} {q : β → Bool} (hsame : ∀ a b, R a b → q b = p a) :
    bs.any q = as.any p := by
  induction hlists with
  | nil => rfl
  | cons first _ ih => rw [List.any_cons, List.any_cons, hsame _ _ first, ih]

theorem map_eq_of_forall₂ {f : α → γ} {g : β → γ} (hsame : ∀ a b, R a b → g b = f a) :
    bs.map g = as.map f := by
  induction hlists with
  | nil => rfl
  | cons first _ ih => rw [List.map_cons, List.map_cons, hsame _ _ first, ih]

theorem filterMap_eq_of_forall₂ {f : α → Option γ} {g : β → Option δ} {change : γ → δ}
    (hsame : ∀ a b, R a b → g b = (f a).map change) :
    bs.filterMap g = (as.filterMap f).map change := by
  induction hlists with
  | nil => rfl
  | @cons a b _ _ first _ ih =>
    rw [List.filterMap_cons, List.filterMap_cons, hsame a b first, ih]
    cases f a <;> rfl

theorem flatMap_eq_of_forall₂ {f : α → List γ} {g : β → List δ} {change : γ → δ}
    (hsame : ∀ a b, R a b → g b = (f a).map change) :
    bs.flatMap g = (as.flatMap f).map change := by
  induction hlists with
  | nil => rfl
  | @cons a b _ _ first _ ih =>
    rw [List.flatMap_cons, List.flatMap_cons, hsame a b first, ih, List.map_append]

end Lists

/-- The same token, wherever it starts. -/
structure Token.Same (old new : Token) : Prop where
  kind : new.kind = old.kind
  trivia : new.trivia = old.trivia
  text : new.text = old.text

/-- An identifier in the place of another one, for the name that the other one is renamed to. -/
structure Token.Renamed (rename : String → String) (old new : Token) : Prop where
  identifier : old.isIdentifier = true
  stays : new.isIdentifier = true
  name : new.name = rename old.name

namespace Token

variable {old new : Token}

theorem Same.name_eq (same : old.Same new) : new.name = old.name := by
  rw [name, same.text, name]

theorem Same.isIdentifier_eq (same : old.Same new) : new.isIdentifier = old.isIdentifier := by
  rw [isIdentifier, same.kind, same.name_eq, isIdentifier]

theorem Same.displayName_eq (same : old.Same new) : new.displayName = old.displayName := by
  rw [displayName, same.kind, same.name_eq, spelling, same.text, displayName, spelling]

theorem Same.isMark_eq (same : old.Same new) (spelling : String) :
    new.isMark spelling = old.isMark spelling := by
  rw [isMark, same.kind, Token.spelling, same.text, isMark, Token.spelling]

theorem displayName_of_isIdentifier (hidentifier : old.isIdentifier = true) :
    old.displayName = old.name := by
  rw [isIdentifier, Bool.and_eq_true, decide_eq_true_iff] at hidentifier
  rw [displayName, if_pos hidentifier.1]

theorem Renamed.displayName_eq {rename : String → String} (renamed : old.Renamed rename new) :
    new.displayName = rename old.displayName := by
  rw [displayName_of_isIdentifier renamed.stays, renamed.name,
    displayName_of_isIdentifier renamed.identifier]

end Token

namespace Tree

mutual

/-- The second tree is the first one with the heads of all decorators renamed. -/
inductive Renamed (rename : String → String) : Tree → Tree → Prop where
  | leaf {old new : Token} (same : old.Same new) : Renamed rename (.leaf old) (.leaf new)
  | decorator {sign sign' : Token} {expression expression' : Tree} (mark : sign.isMark "@" = true)
      (same : sign.Same sign') (head : HeadRenamed rename expression expression') :
      Renamed rename (.node .decorator [.leaf sign, expression])
        (.node .decorator [.leaf sign', expression'])
  | node {kind : NodeKind} {olds news : List Tree} (noDecorator : kind ≠ .decorator)
      (children : List.Forall₂ (Renamed rename) olds news) :
      Renamed rename (.node kind olds) (.node kind news)

/-- The head of a decorator's expression is the identifier that it consists of, or the head of what
    it calls or takes a member of. Other expressions have no head, and neither has a keyword. -/
inductive HeadRenamed (rename : String → String) : Tree → Tree → Prop where
  | identifier {old new : Token} (renamed : old.Renamed rename new) :
      HeadRenamed rename (.leaf old) (.leaf new)
  | keyword {old new : Token} (keyword : old.isIdentifier = false) (same : old.Same new) :
      HeadRenamed rename (.leaf old) (.leaf new)
  | within {kind : NodeKind} {target target' : Tree} {olds news : List Tree}
      (access : kind = .call ∨ kind = .propertyAccess) (head : HeadRenamed rename target target')
      (others : List.Forall₂ (Renamed rename) olds news) :
      HeadRenamed rename (.node kind (target :: olds)) (.node kind (target' :: news))
  | other {kind : NodeKind} {olds news : List Tree} (noCall : kind ≠ .call)
      (noMember : kind ≠ .propertyAccess) (noDecorator : kind ≠ .decorator)
      (children : List.Forall₂ (Renamed rename) olds news) :
      HeadRenamed rename (.node kind olds) (.node kind news)

end

/-- A name in the braces of an import, after the word that makes it a type. An alias comes after the
    exported name and the word between them. -/
def specifier (types : List Tree) (exported : Option (Token × Token)) (localName : Token) : Tree :=
  .node .importSpecifier (types ++ (exported.elim [] fun (key, word) =>
    [.node .propertyKey [.leaf key], .leaf word]) ++ [.node .name [.leaf localName]])

/-- The name under which the module exports it. -/
def exportedName (exported : Option (Token × Token)) (localName : Token) : String :=
  exported.elim localName.displayName fun (key, _) => key.displayName

/-- What stands in the braces of an import, with the local name renamed and the exported name as it
    was. A name alone may get an alias. -/
inductive SpecifierRenamed (rename : String → String) : Tree → Tree → Prop where
  | mark {old new : Token} (same : old.Same new) : SpecifierRenamed rename (.leaf old) (.leaf new)
  | name {types types' : List Tree} {exported exported' : Option (Token × Token)} {old new : Token}
      (typesOnly : ∀ part ∈ types, part.isNode .typeOnly = true)
      (sameTypes : List.Forall₂ (Renamed rename) types types')
      (sameExport : exportedName exported' new = exportedName exported old)
      (renamed : old.Renamed rename new) :
      SpecifierRenamed rename (specifier types exported old) (specifier types' exported' new)

/-- A part of an import, with the local names in it renamed. -/
inductive ImportPartRenamed (rename : String → String) : Tree → Tree → Prop where
  | default {old new : Token} (renamed : old.Renamed rename new) :
      ImportPartRenamed rename (.node .defaultImport [.leaf old]) (.node .defaultImport [.leaf new])
  | whole {star star' word word' old new : Token} (sameStar : star.Same star')
      (sameWord : word.Same word') (renamed : old.Renamed rename new) :
      ImportPartRenamed rename
        (.node .namespaceImport [.leaf star, .leaf word, .node .name [.leaf old]])
        (.node .namespaceImport [.leaf star', .leaf word', .node .name [.leaf new]])
  | braces {olds news : List Tree} (specifiers : List.Forall₂ (SpecifierRenamed rename) olds news) :
      ImportPartRenamed rename (.node .namedImports olds) (.node .namedImports news)
  | equals {old new : Token} (renamed : old.Renamed rename new) :
      ImportPartRenamed rename (.node .name [.leaf old]) (.node .name [.leaf new])
  | other {old new : Tree} (noName : ∀ kind ∈ [NodeKind.defaultImport, .namespaceImport,
      .namedImports, .name], old.isNode kind = false) (same : Renamed rename old new) :
      ImportPartRenamed rename old new

/-- A statement at the top of a file. -/
inductive StatementRenamed (rename : String → String) : Tree → Tree → Prop where
  | imports {kind : NodeKind} {olds news : List Tree}
      (isImport : kind = .importDeclaration ∨ kind = .importEquals)
      (parts : List.Forall₂ (ImportPartRenamed rename) olds news) :
      StatementRenamed rename (.node kind olds) (.node kind news)
  | other {old new : Tree} (noImport : old.isNode .importDeclaration = false)
      (noEquals : old.isNode .importEquals = false) (same : Renamed rename old new) :
      StatementRenamed rename old new

end Tree

/-- The second file is the first one with a renaming applied to the local names that its imports
    bind and to the heads of all its decorators, wherever they are. The imports of a file are those
    at its top. What they take from which module stays as it is, and so does everything else, apart
    from the places at which it stands now. -/
def SourceFile.Renamed (rename : String → String) (before after : SourceFile) : Prop :=
  List.Forall₂ (Tree.StatementRenamed rename) before.statements after.statements

namespace Tree

variable {rename : String → String} {old new : Tree} {olds news : List Tree}

theorem Renamed.isNode_eq (renamed : Renamed rename old new) (kind : NodeKind) :
    new.isNode kind = old.isNode kind := by
  cases renamed <;> rfl

theorem Renamed.isFunction_eq (renamed : Renamed rename old new) :
    new.isFunction = old.isFunction := by
  cases renamed <;> rfl

end Tree

/-- Whether a place is that of a function or of a decorator. Other places come and go with the alias
    that a name in braces gets, but these stay. -/
def Site.isLandmark (site : Site) : Bool :=
  site.tree.isFunction || site.tree.isNode .decorator

/-- Trees in two places, one of them the other one renamed. -/
def Site.Renamed (rename : String → String) (old new : Site) : Prop :=
  Tree.Renamed rename old.tree new.tree

namespace Tree

variable {rename : String → String}

theorem sitesOf_append (above a b : List Tree) :
    sitesOf above (a ++ b) = sitesOf above a ++ sitesOf above b := by
  induction a with
  | nil => rfl
  | cons tree rest ih => rw [List.cons_append, sitesOf, sitesOf, ih, List.append_assoc]

/-- The functions and decorators in a tree. -/
def landmarks (above : List Tree) (tree : Tree) : List Site :=
  (tree.sites above).filter Site.isLandmark

def landmarksOf (above : List Tree) (trees : List Tree) : List Site :=
  (sitesOf above trees).filter Site.isLandmark

theorem landmarksOf_append (above a b : List Tree) :
    landmarksOf above (a ++ b) = landmarksOf above a ++ landmarksOf above b := by
  rw [landmarksOf, sitesOf_append, List.filter_append, landmarksOf, landmarksOf]

theorem landmarksOf_cons (above : List Tree) (tree : Tree) (rest : List Tree) :
    landmarksOf above (tree :: rest) = tree.landmarks above ++ landmarksOf above rest := by
  rw [landmarksOf, sitesOf, List.filter_append, landmarksOf, landmarks]

@[simp] theorem landmarks_leaf (above : List Tree) (token : Token) :
    (Tree.leaf token).landmarks above = [] := rfl

@[simp] theorem landmarksOf_nil (above : List Tree) : landmarksOf above [] = [] := rfl

theorem landmarks_node (above : List Tree) (kind : NodeKind) (children : List Tree) :
    (Tree.node kind children).landmarks above =
      (if (functionKind? kind).isSome || kind = .decorator then [⟨above, .node kind children⟩]
        else []) ++ landmarksOf (.node kind children :: above) children := by
  rw [landmarks, sites, List.filter_cons]
  change (if (functionKind? kind).isSome || kind = .decorator then _ else _) = _
  split <;> rfl

mutual

/-- The decorators in a tree are those among its landmarks. -/
theorem decoratorsIn_eq : ∀ (above : List Tree) (tree : Tree), decoratorsIn tree =
    ((tree.landmarks above).filter fun site => site.tree.isNode .decorator).map fun site =>
      ⟨site.tree⟩
  | above, .leaf token => rfl
  | above, .node kind children => by
    rw [decoratorsIn, decoratorsInAll_eq (.node kind children :: above) children, landmarks_node,
      List.filter_append, List.map_append]
    by_cases hkind : kind = .decorator
    · subst hkind
      rfl
    · rw [if_neg hkind]
      split <;> simp [isNode, hkind]

theorem decoratorsInAll_eq : ∀ (above : List Tree) (trees : List Tree), decoratorsInAll trees =
    ((landmarksOf above trees).filter fun site => site.tree.isNode .decorator).map fun site =>
      ⟨site.tree⟩
  | above, [] => rfl
  | above, tree :: rest => by
    rw [decoratorsInAll, decoratorsIn_eq above tree, decoratorsInAll_eq above rest,
      landmarksOf_cons, List.filter_append, List.map_append]

end

mutual

/-- Functions and decorators stay where they are among each other. -/
theorem landmarks_renamed : ∀ {old new : Tree} (above above' : List Tree),
    Renamed rename old new →
      List.Forall₂ (Site.Renamed rename) (old.landmarks above) (new.landmarks above')
  | .leaf _, _, above, above', renamed => by
    cases renamed with
    | leaf same => exact .nil
  | .node kind olds, new, above, above', renamed => by
    have hself : List.Forall₂ (Site.Renamed rename) [⟨above, .node kind olds⟩] [⟨above', new⟩] :=
      .cons renamed .nil
    cases renamed with
    -- The head is renamed in another way than the rest of a tree, so it has a lemma of its own.
    | decorator mark same head =>
      simp only [landmarks_node, landmarksOf_cons, landmarks_leaf, landmarksOf_nil, decide_true,
        Bool.or_true, if_true, List.append_nil, List.nil_append]
      exact List.rel_append hself (landmarks_headRenamed _ _ head)
    | node _ children =>
      rw [landmarks_node, landmarks_node]
      refine List.rel_append ?_ (landmarksOf_renamed _ _ children)
      split
      · exact hself
      · exact .nil

theorem landmarks_headRenamed : ∀ {old new : Tree} (above above' : List Tree),
    HeadRenamed rename old new →
      List.Forall₂ (Site.Renamed rename) (old.landmarks above) (new.landmarks above')
  | .leaf _, _, above, above', renamed => by
    cases renamed <;> exact .nil
  | .node kind olds, _, above, above', renamed => by
    rw [landmarks_node]
    cases renamed with
    | within access head others =>
      have hplain : ((functionKind? kind).isSome || kind = .decorator) = false := by
        obtain rfl | rfl := access <;> rfl
      rw [landmarks_node, hplain, landmarksOf_cons, landmarksOf_cons]
      exact List.rel_append (landmarks_headRenamed _ _ head) (landmarksOf_renamed _ _ others)
    | other _ _ noDecorator children =>
      rw [landmarks_node]
      refine List.rel_append ?_ (landmarksOf_renamed _ _ children)
      split
      · exact .cons (.node noDecorator children) .nil
      · exact .nil

theorem landmarksOf_renamed : ∀ {olds news : List Tree} (above above' : List Tree),
    List.Forall₂ (Renamed rename) olds news →
      List.Forall₂ (Site.Renamed rename) (landmarksOf above olds) (landmarksOf above' news)
  | [], _, above, above', .nil => .nil
  | _ :: _, _, above, above', .cons first others => by
    rw [landmarksOf_cons, landmarksOf_cons]
    exact List.rel_append (landmarks_renamed above above' first)
      (landmarksOf_renamed above above' others)

end

/-- Trees side by side have the landmarks of each of them. -/
theorem landmarksOf_forall₂ {R : Tree → Tree → Prop}
    (hR : ∀ {old new : Tree} (above above' : List Tree), R old new →
      List.Forall₂ (Site.Renamed rename) (old.landmarks above) (new.landmarks above'))
    {olds news : List Tree} (htrees : List.Forall₂ R olds news) (above above' : List Tree) :
    List.Forall₂ (Site.Renamed rename) (landmarksOf above olds) (landmarksOf above' news) := by
  induction htrees with
  | nil => exact .nil
  | cons first _ ih =>
    rw [landmarksOf_cons, landmarksOf_cons]
    exact List.rel_append (hR above above' first) ih

theorem SpecifierRenamed.landmarks {old new : Tree} (renamed : SpecifierRenamed rename old new)
    (above above' : List Tree) :
    List.Forall₂ (Site.Renamed rename) (old.landmarks above) (new.landmarks above') := by
  have hname (above types : List Tree) (exported : Option (Token × Token)) (localName : Token) :
      (specifier types exported localName).landmarks above =
        landmarksOf (specifier types exported localName :: above) types := by
    rw [specifier, landmarks_node, landmarksOf_append, landmarksOf_append]
    cases exported <;> simp [landmarksOf_cons, landmarks_node, functionKind?]
  cases renamed with
  | mark same => exact .nil
  | @name types types' exported exported' old new _ sameTypes =>
    rw [hname, hname]
    exact landmarksOf_renamed _ _ sameTypes

theorem ImportPartRenamed.landmarks {old new : Tree} (renamed : ImportPartRenamed rename old new)
    (above above' : List Tree) :
    List.Forall₂ (Site.Renamed rename) (old.landmarks above) (new.landmarks above') := by
  cases renamed with
  | default => simp [landmarks_node, landmarksOf_cons, functionKind?]
  | whole => simp [landmarks_node, landmarksOf_cons, functionKind?]
  | equals => simp [landmarks_node, landmarksOf_cons, functionKind?]
  | braces specifiers =>
    rw [landmarks_node, landmarks_node]
    exact landmarksOf_forall₂ (fun above above' renamed => renamed.landmarks above above')
      specifiers _ _
  | other _ same => exact landmarks_renamed above above' same

theorem StatementRenamed.landmarks {old new : Tree} (renamed : StatementRenamed rename old new)
    (above above' : List Tree) :
    List.Forall₂ (Site.Renamed rename) (old.landmarks above) (new.landmarks above') := by
  cases renamed with
  | @imports kind olds news isImport parts =>
    have hparts (above above' : List Tree) :
        List.Forall₂ (Site.Renamed rename) (landmarksOf above olds) (landmarksOf above' news) :=
      landmarksOf_forall₂ (fun above above' renamed => renamed.landmarks above above') parts _ _
    rw [landmarks_node, landmarks_node]
    obtain rfl | rfl := isImport
    · exact hparts _ _
    · exact hparts _ _
  | other _ _ same => exact landmarks_renamed above above' same

end Tree

namespace SourceFile

variable {rename : String → String} {before after : SourceFile}

theorem Renamed.landmarks (renamed : before.Renamed rename after) :
    List.Forall₂ (Site.Renamed rename) (Tree.landmarksOf [] before.statements)
      (Tree.landmarksOf [] after.statements) :=
  Tree.landmarksOf_forall₂ (fun above above' renamed => renamed.landmarks above above') renamed
    [] []

/-- The functions of a renamed file are the functions of the file, renamed. -/
theorem Renamed.functionSites (renamed : before.Renamed rename after) :
    List.Forall₂ (fun old new => Site.Renamed rename old new ∧ old.tree.isFunction = true)
      before.functionSites after.functionSites := by
  have hfunctions (file : SourceFile) : file.functionSites =
      (Tree.landmarksOf [] file.statements).filter fun site => site.tree.isFunction := by
    rw [SourceFile.functionSites, sites, Tree.landmarksOf, List.filter_filter]
    congr 1
    funext site
    cases hfunction : site.tree.isFunction <;> simp [Site.isLandmark, hfunction]
  rw [hfunctions, hfunctions]
  exact forall₂_filter renamed.landmarks fun _ _ same => Tree.Renamed.isFunction_eq same

/-- The decorators of a renamed file are the decorators of the file, renamed. -/
theorem Renamed.decorators (renamed : before.Renamed rename after) :
    List.Forall₂ (fun old new : Decorator => Tree.Renamed rename old.tree new.tree ∧
      old.tree.isNode .decorator = true) before.decorators after.decorators := by
  have hdecorators (file : SourceFile) : file.decorators =
      ((Tree.landmarksOf [] file.statements).filter fun site =>
        site.tree.isNode .decorator).map fun site => ⟨site.tree⟩ :=
    Tree.decoratorsInAll_eq [] file.statements
  rw [hdecorators, hdecorators, List.forall₂_map_left_iff, List.forall₂_map_right_iff]
  exact forall₂_filter renamed.landmarks fun _ _ same => Tree.Renamed.isNode_eq same .decorator

end SourceFile

end NamedParams.Source
