import NamedParams.Proofs.Source.Renaming

namespace NamedParams.Source

namespace Token

variable (rename : String → String) (old new : Token)

instance : Decidable (old.Same new) :=
  decidable_of_iff (new.kind = old.kind ∧ new.trivia = old.trivia ∧ new.text = old.text)
    ⟨fun ⟨kind, trivia, text⟩ => ⟨kind, trivia, text⟩,
      fun same => ⟨same.kind, same.trivia, same.text⟩⟩

instance : Decidable (old.Renamed rename new) :=
  decidable_of_iff
    (old.isIdentifier = true ∧ new.isIdentifier = true ∧ new.name = rename old.name)
    ⟨fun ⟨identifier, stays, name⟩ => ⟨identifier, stays, name⟩,
      fun renamed => ⟨renamed.identifier, renamed.stays, renamed.name⟩⟩

end Token

namespace Tree

variable (rename : String → String)

mutual

/-- Whether a tree is another one renamed. -/
def isRenamed : Tree → Tree → Bool
  | .leaf old, .leaf new => decide (old.Same new)
  | .node kind olds, .node kind' news =>
    decide (kind = kind') &&
      if kind = .decorator then isDecoratorRenamed olds news else areRenamed olds news
  | _, _ => false

def isDecoratorRenamed : List Tree → List Tree → Bool
  | [.leaf sign, expression], [.leaf sign', expression'] =>
    sign.isMark "@" && decide (sign.Same sign') && isHeadRenamed expression expression'
  | _, _ => false

def isHeadRenamed : Tree → Tree → Bool
  | .leaf old, .leaf new =>
    decide (old.Renamed rename new) || !old.isIdentifier && decide (old.Same new)
  | .node kind (target :: olds), .node kind' (target' :: news) =>
    decide (kind = kind') &&
      if kind = .call ∨ kind = .propertyAccess then
        isHeadRenamed target target' && areRenamed olds news
      else decide (kind ≠ .decorator) && (isRenamed target target' && areRenamed olds news)
  | _, _ => false

def areRenamed : List Tree → List Tree → Bool
  | [], [] => true
  | old :: olds, new :: news => isRenamed old new && areRenamed olds news
  | _, _ => false

end

variable {rename}

mutual

theorem renamed_of_isRenamed : ∀ {old new : Tree}, isRenamed rename old new = true →
    Renamed rename old new
  | .leaf old, .leaf new, h => .leaf (by simpa [isRenamed] using h)
  | .leaf _, .node _ _, h => by simp [isRenamed] at h
  | .node _ _, .leaf _, h => by simp [isRenamed] at h
  | .node kind olds, .node kind' news, h => by
    rw [isRenamed, Bool.and_eq_true, decide_eq_true_iff] at h
    obtain ⟨rfl, h⟩ := h
    split at h
    · rename_i hkind
      subst hkind
      exact renamed_of_isDecoratorRenamed h
    · exact .node ‹_› (forall₂_of_areRenamed h)

theorem renamed_of_isDecoratorRenamed : ∀ {olds news : List Tree},
    isDecoratorRenamed rename olds news = true →
      Renamed rename (.node .decorator olds) (.node .decorator news)
  | olds, news, h => by
    unfold isDecoratorRenamed at h
    split at h
    · rw [Bool.and_eq_true, Bool.and_eq_true, decide_eq_true_iff] at h
      exact .decorator h.1.1 h.1.2 (headRenamed_of_isHeadRenamed h.2)
    · cases h

theorem headRenamed_of_isHeadRenamed : ∀ {old new : Tree}, isHeadRenamed rename old new = true →
    HeadRenamed rename old new
  | .leaf old, .leaf new, h => by
    simp only [isHeadRenamed, Bool.or_eq_true, Bool.and_eq_true, decide_eq_true_iff,
      Bool.not_eq_true'] at h
    obtain renamed | ⟨keyword, same⟩ := h
    · exact .identifier renamed
    · exact .keyword keyword same
  | .leaf _, .node _ _, h => by simp [isHeadRenamed] at h
  | .node _ _, .leaf _, h => by simp [isHeadRenamed] at h
  | .node _ [], .node _ _, h => by simp [isHeadRenamed] at h
  | .node _ (_ :: _), .node _ [], h => by simp [isHeadRenamed] at h
  | .node kind (target :: olds), .node kind' (target' :: news), h => by
    rw [isHeadRenamed, Bool.and_eq_true, decide_eq_true_iff] at h
    obtain ⟨rfl, h⟩ := h
    split at h
    · rename_i access
      rw [Bool.and_eq_true] at h
      exact .within access (headRenamed_of_isHeadRenamed h.1) (forall₂_of_areRenamed h.2)
    · rename_i access
      rw [not_or] at access
      simp only [Bool.and_eq_true, decide_eq_true_iff] at h
      exact .other access.1 access.2 h.1
        (.cons (renamed_of_isRenamed h.2.1) (forall₂_of_areRenamed h.2.2))

theorem forall₂_of_areRenamed : ∀ {olds news : List Tree}, areRenamed rename olds news = true →
    List.Forall₂ (Renamed rename) olds news
  | [], [], _ => .nil
  | [], _ :: _, h => by simp [areRenamed] at h
  | _ :: _, [], h => by simp [areRenamed] at h
  | old :: olds, new :: news, h => by
    rw [areRenamed, Bool.and_eq_true] at h
    exact .cons (renamed_of_isRenamed h.1) (forall₂_of_areRenamed h.2)

end

/-- What a name in the braces of an import consists of. -/
def specifierParts? : Tree → Option (List Tree × Option (Token × Token) × Token)
  | .node .importSpecifier parts =>
    let types := parts.takeWhile (isNode .typeOnly)
    match parts.dropWhile (isNode .typeOnly) with
    | [.node .name [.leaf localName]] => some (types, none, localName)
    | [.node .propertyKey [.leaf key], .leaf word, .node .name [.leaf localName]] =>
      some (types, some (key, word), localName)
    | _ => none
  | _ => none

theorem specifier_of_specifierParts? {tree : Tree} {types : List Tree}
    {exported : Option (Token × Token)} {localName : Token}
    (hparts : tree.specifierParts? = some (types, exported, localName)) :
    tree = specifier types exported localName ∧ ∀ part ∈ types, part.isNode .typeOnly = true := by
  unfold specifierParts? at hparts
  split at hparts
  · rename_i parts
    have hsplit := List.takeWhile_append_dropWhile (p := isNode .typeOnly) (l := parts)
    have htypes := List.all_eq_true.mp (List.all_takeWhile (p := isNode .typeOnly) (l := parts))
    split at hparts
    · rename_i hrest
      cases hparts
      rw [hrest] at hsplit
      exact ⟨by simp [specifier, hsplit], htypes⟩
    · rename_i hrest
      cases hparts
      rw [hrest] at hsplit
      exact ⟨by simp [specifier, hsplit], htypes⟩
    · cases hparts
  · cases hparts

def isSpecifierRenamed (rename : String → String) (old new : Tree) : Bool :=
  match old, new with
  | .leaf old, .leaf new => decide (old.Same new)
  | old, new =>
    match old.specifierParts?, new.specifierParts? with
    | some (types, exported, old), some (types', exported', new) =>
      areRenamed rename types types' &&
        decide (exportedName exported' new = exportedName exported old ∧ old.Renamed rename new)
    | _, _ => false

theorem specifierRenamed_of_isSpecifierRenamed {old new : Tree}
    (h : isSpecifierRenamed rename old new = true) : SpecifierRenamed rename old new := by
  unfold isSpecifierRenamed at h
  split at h
  · exact .mark (of_decide_eq_true h)
  · split at h
    · rename_i hold hnew
      obtain ⟨rfl, typesOnly⟩ := specifier_of_specifierParts? hold
      obtain ⟨rfl, -⟩ := specifier_of_specifierParts? hnew
      rw [Bool.and_eq_true, decide_eq_true_iff] at h
      exact .name typesOnly (forall₂_of_areRenamed h.1) h.2.1 h.2.2
    · cases h

def isImportPartRenamed (rename : String → String) : Tree → Tree → Bool
  | .node .defaultImport [.leaf old], .node .defaultImport [.leaf new] =>
    decide (old.Renamed rename new)
  | .node .namespaceImport [.leaf star, .leaf word, .node .name [.leaf old]],
      .node .namespaceImport [.leaf star', .leaf word', .node .name [.leaf new]] =>
    decide (star.Same star' ∧ word.Same word' ∧ old.Renamed rename new)
  | .node .namedImports olds, .node .namedImports news =>
    olds.all₂ (isSpecifierRenamed rename) news
  | .node .name [.leaf old], .node .name [.leaf new] => decide (old.Renamed rename new)
  | old, new =>
    [NodeKind.defaultImport, .namespaceImport, .namedImports, .name].all (fun kind =>
      !old.isNode kind) && isRenamed rename old new

theorem importPartRenamed_of_isImportPartRenamed {old new : Tree}
    (h : isImportPartRenamed rename old new = true) : ImportPartRenamed rename old new := by
  unfold isImportPartRenamed at h
  split at h
  · exact .default (of_decide_eq_true h)
  · obtain ⟨star, word, renamed⟩ := of_decide_eq_true h
    exact .whole star word renamed
  · rw [List.all₂_eq_true] at h
    exact .braces (h.imp fun _ _ => specifierRenamed_of_isSpecifierRenamed)
  · exact .equals (of_decide_eq_true h)
  · rw [Bool.and_eq_true, List.all_eq_true] at h
    exact .other (fun kind hkind => by simpa using h.1 kind hkind) (renamed_of_isRenamed h.2)

def isStatementRenamed (rename : String → String) (old new : Tree) : Bool :=
  if old.isNode .importDeclaration || old.isNode .importEquals then
    match old, new with
    | .node kind olds, .node kind' news =>
      decide (kind = kind') && olds.all₂ (isImportPartRenamed rename) news
    | _, _ => false
  else isRenamed rename old new

theorem statementRenamed_of_isStatementRenamed {old new : Tree}
    (h : isStatementRenamed rename old new = true) : StatementRenamed rename old new := by
  unfold isStatementRenamed at h
  split at h
  · rename_i himport
    split at h
    · rw [Bool.and_eq_true, decide_eq_true_iff, List.all₂_eq_true] at h
      obtain ⟨rfl, h⟩ := h
      simp only [isNode, Bool.or_eq_true, decide_eq_true_iff] at himport
      exact .imports himport (h.imp fun _ _ => importPartRenamed_of_isImportPartRenamed)
    · cases h
  · rename_i hother
    rw [Bool.or_eq_true, not_or, Bool.not_eq_true, Bool.not_eq_true] at hother
    exact .other hother.1 hother.2 (renamed_of_isRenamed h)

end Tree

namespace SourceFile

/-- Whether a file is another one renamed. -/
def isRenamed (rename : String → String) (before after : SourceFile) : Bool :=
  before.statements.all₂ (Tree.isStatementRenamed rename) after.statements

theorem renamed_of_isRenamed {rename : String → String} {before after : SourceFile}
    (h : before.isRenamed rename after = true) : before.Renamed rename after := by
  rw [isRenamed, List.all₂_eq_true] at h
  exact h.imp fun _ _ => Tree.statementRenamed_of_isStatementRenamed

end SourceFile

end NamedParams.Source
