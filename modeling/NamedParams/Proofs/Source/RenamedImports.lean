import NamedParams.Proofs.Source.Renaming

namespace NamedParams.Source

variable {rename : String → String}

/-- A binding under another local name. -/
def ImportBinding.renamed (rename : String → String) (binding : ImportBinding) : ImportBinding :=
  { binding with localName := rename binding.localName }

/-- A name in braces is bound unless it is only a type. -/
theorem specifierBinding?_specifier (module : String) {types : List Tree}
    (typesOnly : ∀ part ∈ types, part.isNode .typeOnly = true) (exported : Option (Token × Token))
    (localName : Token) :
    specifierBinding? module (Tree.specifier types exported localName) =
      if types.isEmpty then
        some ⟨localName.displayName, module, .member (Tree.exportedName exported localName)⟩
      else none := by
  cases types with
  | nil => cases exported <;> rfl
  | cons first rest =>
    have hfirst := typesOnly first List.mem_cons_self
    cases first with
    | leaf token => cases hfirst
    | node kind children =>
      obtain rfl : kind = .typeOnly := of_decide_eq_true hfirst
      rfl

theorem forall_isNode_renamed {kind : NodeKind} {olds news : List Tree}
    (renamed : List.Forall₂ (Tree.Renamed rename) olds news)
    (holds : ∀ tree ∈ olds, tree.isNode kind = true) : ∀ tree ∈ news, tree.isNode kind = true := by
  induction renamed with
  | nil => exact fun _ hmem => absurd hmem List.not_mem_nil
  | cons first _ ih =>
    rw [List.forall_mem_cons] at holds ⊢
    rw [first.isNode_eq]
    exact ⟨holds.1, ih holds.2⟩

theorem specifierBinding?_renamed (module : String) {old new : Tree}
    (renamed : Tree.SpecifierRenamed rename old new) :
    specifierBinding? module new =
      (specifierBinding? module old).map (ImportBinding.renamed rename) := by
  cases renamed with
  | mark => rfl
  | @name types types' exported exported' old new typesOnly sameTypes sameExport renamed =>
    have typesOnly' := forall_isNode_renamed sameTypes typesOnly
    have hempty : types'.isEmpty = types.isEmpty := by
      cases sameTypes <;> rfl
    rw [specifierBinding?_specifier module typesOnly, specifierBinding?_specifier module typesOnly',
      hempty, renamed.displayName_eq, sameExport]
    cases types.isEmpty <;> rfl

theorem Tree.ImportPartRenamed.isNode_eq {old new : Tree}
    (renamed : ImportPartRenamed rename old new) (kind : NodeKind) :
    new.isNode kind = old.isNode kind := by
  cases renamed with
  | other _ same => exact same.isNode_eq kind
  | _ => rfl

section Declaration

variable {olds news : List Tree} (parts : List.Forall₂ (Tree.ImportPartRenamed rename) olds news)

include parts

/-- A declaration has a part in some role if the renamed one has it. -/
theorem part_renamed (kind role : NodeKind) :
    (Tree.node kind olds).child? role = none ∧ (Tree.node kind news).child? role = none ∨
      ∃ old new, (Tree.node kind olds).child? role = some old ∧
        (Tree.node kind news).child? role = some new ∧ Tree.ImportPartRenamed rename old new ∧
        old.isNode role = true :=
  find?_forall₂ parts fun _ _ renamed => renamed.isNode_eq role

variable {kind : NodeKind}

theorem typeOnly_renamed : ((Tree.node kind news).child? .typeOnly).isNone =
    ((Tree.node kind olds).child? .typeOnly).isNone := by
  obtain ⟨hold, hnew⟩ | ⟨old, new, hold, hnew, -⟩ := part_renamed parts kind .typeOnly
  · rw [hold, hnew]
  · rw [hold, hnew]
    rfl

theorem importedModule_renamed :
    importedModule (.node kind news) = importedModule (.node kind olds) := by
  rw [importedModule, importedModule, Tree.content?, Tree.content?]
  obtain ⟨hold, hnew⟩ | ⟨old, new, hold, hnew, renamed, hrole⟩ :=
    part_renamed parts kind .moduleSpecifier
  · rw [hold, hnew]
  · rw [hold, hnew, Option.bind_some, Option.bind_some]
    cases renamed with
    | other noName same =>
      cases same with
      | leaf => cases hrole
      | decorator => cases hrole
      | node _ children =>
        cases children with
        | nil => rfl
        | cons first _ =>
          cases first with
          | leaf same => exact congrArg literalValue same.text
          | decorator => rfl
          | node => rfl
    | _ => cases hrole

theorem wholeName_renamed :
    ((Tree.node kind news).child? .namespaceImport).bind (roleText? .name) =
      (((Tree.node kind olds).child? .namespaceImport).bind (roleText? .name)).map rename := by
  obtain ⟨hold, hnew⟩ | ⟨old, new, hold, hnew, renamed, hrole⟩ :=
    part_renamed parts kind .namespaceImport
  · rw [hold, hnew]
    rfl
  · rw [hold, hnew]
    cases renamed with
    | whole _ _ renamed => exact congrArg some renamed.displayName_eq
    | other noName => simp [noName .namespaceImport] at hrole
    | _ => cases hrole

theorem defaultName_renamed : roleText? .defaultImport (.node kind news) =
    (roleText? .defaultImport (.node kind olds)).map rename := by
  rw [roleText?, roleText?, Tree.content?, Tree.content?]
  obtain ⟨hold, hnew⟩ | ⟨old, new, hold, hnew, renamed, hrole⟩ :=
    part_renamed parts kind .defaultImport
  · rw [hold, hnew]
    rfl
  · rw [hold, hnew]
    cases renamed with
    | default renamed => exact congrArg some renamed.displayName_eq
    | other noName => simp [noName .defaultImport] at hrole
    | _ => cases hrole

theorem members_renamed (module : String) :
    ((((Tree.node kind news).child? .namedImports).map Tree.children).getD []).filterMap
        (specifierBinding? module) =
      (((((Tree.node kind olds).child? .namedImports).map Tree.children).getD []).filterMap
        (specifierBinding? module)).map (ImportBinding.renamed rename) := by
  obtain ⟨hold, hnew⟩ | ⟨old, new, hold, hnew, renamed, hrole⟩ :=
    part_renamed parts kind .namedImports
  · rw [hold, hnew]
    rfl
  · rw [hold, hnew]
    cases renamed with
    | braces specifiers =>
      exact filterMap_eq_of_forall₂ specifiers fun _ _ => specifierBinding?_renamed module
    | other noName => simp [noName .namedImports] at hrole
    | _ => cases hrole

/-- A renamed import binds what it did bind, under other local names. -/
theorem importBindings_renamed : importBindings (.node kind news) =
    (importBindings (.node kind olds)).map (ImportBinding.renamed rename) := by
  have hkind : (Tree.node kind news).isNode .importDeclaration =
      (Tree.node kind olds).isNode .importDeclaration := rfl
  rw [importBindings, importBindings, hkind, typeOnly_renamed parts]
  split
  · dsimp only
    rw [importedModule_renamed parts, wholeName_renamed parts, defaultName_renamed parts,
      members_renamed parts, List.map_append, List.map_append, Option.toList_map, Option.toList_map,
      List.map_map, List.map_map, List.map_map, List.map_map]
    rfl
  · rfl

end Declaration

theorem importBindings_statementRenamed {old new : Tree}
    (renamed : Tree.StatementRenamed rename old new) :
    importBindings new = (importBindings old).map (ImportBinding.renamed rename) := by
  cases renamed with
  | imports _ parts => exact importBindings_renamed parts
  | other noImport _ same =>
    rw [importBindings, importBindings, same.isNode_eq, noImport]
    rfl

namespace SourceFile

variable {before after : SourceFile}

theorem Renamed.importBindings (renamed : before.Renamed rename after) :
    after.importBindings = before.importBindings.map (ImportBinding.renamed rename) :=
  flatMap_eq_of_forall₂ renamed fun _ _ => importBindings_statementRenamed

/-- A renamed name leads to what the name led to. -/
theorem Renamed.get?_importIndex (renamed : before.Renamed rename after)
    (hinjective : Function.Injective rename) (name : String) :
    after.importIndex.get? (rename name) =
      (before.importIndex.get? name).map (ImportBinding.renamed rename) := by
  rw [SourceFile.get?_importIndex, SourceFile.get?_importIndex, lastBinding?, lastBinding?,
    renamed.importBindings, ← List.map_reverse, List.find?_map]
  congr 2
  funext binding
  simp [ImportBinding.renamed, hinjective.eq_iff]

end SourceFile

theorem callee_headRenamed {old new : Tree} (renamed : Tree.HeadRenamed rename old new) :
    Tree.HeadRenamed rename (callee old) (callee new) := by
  cases renamed with
  | identifier renamed => exact .identifier renamed
  | keyword keyword same => exact .keyword keyword same
  | within access head others =>
    obtain rfl | rfl := access
    · exact head
    · exact .within (.inr rfl) head others
  | @other kind olds news noCall noMember noDecorator children =>
    have hcallee (parts : List Tree) : callee (.node kind parts) = .node kind parts := by
      unfold callee
      split
      · simp_all
      · rfl
    rw [hcallee, hcallee]
    exact .other noCall noMember noDecorator children

section Resolution

variable {index renamedIndex : ImportIndex} (hindex : ∀ name,
  renamedIndex.get? (rename name) = (index.get? name).map (ImportBinding.renamed rename))

include hindex

/-- Only the target of a member is renamed, and the member is as it was. -/
theorem resolveExpression_memberRenamed {target target' : Tree} {olds news : List Tree}
    (head : Tree.HeadRenamed rename target target')
    (others : List.Forall₂ (Tree.Renamed rename) olds news) :
    renamedIndex.resolveExpression (.node .propertyAccess (target' :: news)) =
      index.resolveExpression (.node .propertyAccess (target :: olds)) := by
  cases others with
  | nil => cases head <;> rfl
  -- Only a name, a dot and a member are looked up. In all other shapes, both sides come to nothing.
  | cons dot rest =>
    cases rest with
    | nil => cases head <;> cases dot <;> rfl
    | cons member more =>
      cases more with
      | cons => cases head <;> cases dot <;> cases member <;> rfl
      | nil =>
        cases dot with
        | decorator => cases head <;> rfl
        | node => cases head <;> rfl
        | leaf =>
          cases member with
          | decorator => cases head <;> rfl
          | node => cases head <;> rfl
          | leaf same =>
            cases head with
            | @identifier old new renamed =>
              rw [ImportIndex.resolveExpression, ImportIndex.resolveExpression,
                if_pos renamed.identifier, if_pos renamed.stays, renamed.name, hindex,
                same.displayName_eq]
              cases index.get? old.name <;> rfl
            | keyword keyword same =>
              rw [ImportIndex.resolveExpression, ImportIndex.resolveExpression,
                same.isIdentifier_eq, keyword]
              rfl
            | within => rfl
            | other => rfl

theorem resolveExpression_headRenamed {old new : Tree} (renamed : Tree.HeadRenamed rename old new) :
    renamedIndex.resolveExpression new = index.resolveExpression old := by
  cases renamed with
  | @identifier old new renamed =>
    rw [ImportIndex.resolveExpression, ImportIndex.resolveExpression, if_pos renamed.identifier,
      if_pos renamed.stays, renamed.name, hindex]
    cases index.get? old.name <;> rfl
  | keyword keyword same =>
    rw [ImportIndex.resolveExpression, ImportIndex.resolveExpression, same.isIdentifier_eq, keyword]
    rfl
  | within access head others =>
    obtain rfl | rfl := access
    · rfl
    · exact resolveExpression_memberRenamed hindex head others
  | @other kind olds news noCall noMember noDecorator children =>
    have hnone (index : ImportIndex) (parts : List Tree) :
        index.resolveExpression (.node kind parts) = none := by
      unfold ImportIndex.resolveExpression
      split
      · simp_all
      · simp_all
      · rfl
    rw [hnone, hnone]

/-- A renamed decorator refers to what the decorator referred to. -/
theorem resolve_renamed {old new : Decorator} (renamed : Tree.Renamed rename old.tree new.tree)
    (hdecorator : old.tree.isNode .decorator = true) :
    renamedIndex.resolve new = index.resolve old := by
  obtain ⟨old⟩ := old
  obtain ⟨new⟩ := new
  cases renamed with
  | leaf => cases hdecorator
  | decorator _ _ head =>
    exact resolveExpression_headRenamed hindex (callee_headRenamed head)
  | node noDecorator => exact absurd (of_decide_eq_true hdecorator) noDecorator

end Resolution

/-- All decorators of a renamed file refer to what they referred to before. -/
theorem SourceFile.Renamed.map_resolve_decorators {before after : SourceFile}
    (renamed : before.Renamed rename after) (hinjective : Function.Injective rename) :
    after.decorators.map after.importIndex.resolve =
      before.decorators.map before.importIndex.resolve := by
  have hindex := renamed.get?_importIndex hinjective
  exact map_eq_of_forall₂ renamed.decorators fun _ _ ⟨same, hdecorator⟩ =>
    resolve_renamed hindex same hdecorator

end NamedParams.Source
