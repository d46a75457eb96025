import NamedParams.Proofs.Source.Renaming

namespace NamedParams.Source

variable {rename : String → String}

namespace Tree

variable {old new : Tree}

theorem Renamed.isMark_eq (renamed : Renamed rename old new) : new.isMark = old.isMark := by
  cases renamed with
  | leaf same => rw [isMark, isMark, same.kind]
  | decorator => rfl
  | node => rfl

theorem Renamed.isMarkOf_eq (renamed : Renamed rename old new) (spelling : String) :
    new.isMarkOf spelling = old.isMarkOf spelling := by
  cases renamed with
  | leaf same => exact same.isMark_eq spelling
  | decorator => rfl
  | node => rfl

/-- Apart from decorators, the parts of a renamed tree are the parts of the tree, renamed. -/
theorem Renamed.children (renamed : Renamed rename old new)
    (noDecorator : old.isNode .decorator = false) :
    List.Forall₂ (Renamed rename) old.children new.children := by
  cases renamed with
  | leaf => exact .nil
  | decorator => cases noDecorator
  | node _ children => exact children

theorem Renamed.child? (renamed : Renamed rename old new)
    (noDecorator : old.isNode .decorator = false) (role : NodeKind) :
    old.child? role = none ∧ new.child? role = none ∨
      ∃ a b, old.child? role = some a ∧ new.child? role = some b ∧ Renamed rename a b ∧
        a.isNode role = true :=
  find?_forall₂ (renamed.children noDecorator) fun _ _ same => same.isNode_eq role

theorem isNode_of_isNode {tree : Tree} {kind other : NodeKind} (htree : tree.isNode kind = true)
    (hne : other ≠ kind) : tree.isNode other = false := by
  cases tree with
  | leaf => cases htree
  | node actual children =>
    obtain rfl : actual = kind := of_decide_eq_true htree
    exact decide_eq_false hne.symm

/-- What stands in a role is renamed as well. -/
theorem Renamed.contents (renamed : Renamed rename old new)
    (noDecorator : old.isNode .decorator = false) {role : NodeKind} (hrole : role ≠ .decorator) :
    List.Forall₂ (Renamed rename) (((old.child? role).map Tree.children).getD [])
      (((new.child? role).map Tree.children).getD []) := by
  obtain ⟨hold, hnew⟩ | ⟨a, b, hold, hnew, same, hkind⟩ := renamed.child? noDecorator role
  · rw [hold, hnew]
    exact .nil
  · rw [hold, hnew]
    exact same.children (isNode_of_isNode hkind hrole.symm)

theorem content?_eq_head? (tree : Tree) (role : NodeKind) :
    tree.content? role = (((tree.child? role).map Tree.children).getD []).head? := by
  rw [Tree.content?]
  cases tree.child? role <;> rfl

theorem Renamed.content? (renamed : Renamed rename old new)
    (noDecorator : old.isNode .decorator = false) {role : NodeKind} (hrole : role ≠ .decorator) :
    old.content? role = none ∧ new.content? role = none ∨
      ∃ a b, old.content? role = some a ∧ new.content? role = some b ∧ Renamed rename a b := by
  rw [content?_eq_head?, content?_eq_head?]
  have hcontents := renamed.contents noDecorator hrole
  generalize ((old.child? role).map Tree.children).getD [] = olds,
    ((new.child? role).map Tree.children).getD [] = news at hcontents ⊢
  cases hcontents with
  | nil => exact .inl ⟨rfl, rfl⟩
  | cons first _ => exact .inr ⟨_, _, rfl, rfl, first⟩

end Tree

section Texts

/-- There is a sign of a decorator among the letters of some tokens. -/
def HasSign (tokens : List Token) : Prop :=
  ∃ token ∈ tokens, '@' ∈ token.text

theorem HasSign.append_left {tokens : List Token} (hsign : HasSign tokens) (others : List Token) :
    HasSign (tokens ++ others) := by
  obtain ⟨token, htoken, hletter⟩ := hsign
  exact ⟨token, List.mem_append_left _ htoken, hletter⟩

theorem HasSign.append_right {tokens : List Token} (hsign : HasSign tokens) (others : List Token) :
    HasSign (others ++ tokens) := by
  obtain ⟨token, htoken, hletter⟩ := hsign
  exact ⟨token, List.mem_append_right _ htoken, hletter⟩

theorem hasSign_of_isMark {sign : Token} (mark : sign.isMark "@" = true) (others : List Token) :
    HasSign (sign :: others) := by
  rw [Token.isMark, Bool.and_eq_true, beq_iff_eq] at mark
  refine ⟨sign, List.mem_cons_self, ?_⟩
  rw [← String.toList_ofList (l := sign.text), ← Token.spelling, mark.2]
  decide

theorem HasSign.mem_spell {tokens : List Token} (hsign : HasSign tokens) :
    '@' ∈ Tree.spell tokens := by
  obtain ⟨token, htoken, hletter⟩ := hsign
  cases htoken with
  | head => exact List.mem_append_left _ hletter
  | tail _ htoken =>
    exact List.mem_append_right _
      (List.mem_flatMap.mpr ⟨token, htoken, List.mem_append_right _ hletter⟩)

theorem spell_same {olds news : List Token} (same : List.Forall₂ Token.Same olds news) :
    Tree.spell news = Tree.spell olds := by
  cases same with
  | nil => rfl
  | cons first others =>
    rw [Tree.spell, Tree.spell, first.text, List.flatMap_def, List.flatMap_def,
      map_eq_of_forall₂ others fun _ _ same => congrArg₂ (· ++ ·) same.trivia same.text]

theorem decoratorsInAll_append (a b : List Tree) :
    decoratorsInAll (a ++ b) = decoratorsInAll a ++ decoratorsInAll b := by
  induction a with
  | nil => rfl
  | cons tree rest ih =>
    rw [List.cons_append, decoratorsInAll, decoratorsInAll, ih, List.append_assoc]

/-- Some trees, and the same trees renamed, either have no decorators and the same tokens, or they
    have decorators, which show in both. -/
def SpelledAlike (olds news : List Tree) : Prop :=
  decoratorsInAll olds = [] ∧ decoratorsInAll news = [] ∧
      List.Forall₂ Token.Same (Tree.tokensOf olds) (Tree.tokensOf news) ∨
    decoratorsInAll olds ≠ [] ∧ decoratorsInAll news ≠ [] ∧ HasSign (Tree.tokensOf olds) ∧
      HasSign (Tree.tokensOf news)

theorem SpelledAlike.append {olds news others renamed : List Tree} (hfirst : SpelledAlike olds news)
    (hothers : SpelledAlike others renamed) : SpelledAlike (olds ++ others) (news ++ renamed) := by
  rw [SpelledAlike, decoratorsInAll_append, decoratorsInAll_append, Tree.tokensOf_append,
    Tree.tokensOf_append]
  obtain ⟨hold, hnew, hsame⟩ | ⟨hold, hnew, hsign, hsign'⟩ := hfirst
  · obtain ⟨hold', hnew', hsame'⟩ | ⟨hold', hnew', hsign, hsign'⟩ := hothers
    · left
      rw [hold, hnew, hold', hnew']
      exact ⟨rfl, rfl, List.rel_append hsame hsame'⟩
    · exact .inr ⟨List.append_ne_nil_of_right_ne_nil _ hold',
        List.append_ne_nil_of_right_ne_nil _ hnew', hsign.append_right _, hsign'.append_right _⟩
  · exact .inr ⟨List.append_ne_nil_of_left_ne_nil hold _,
      List.append_ne_nil_of_left_ne_nil hnew _, hsign.append_left _, hsign'.append_left _⟩

mutual

theorem spelledAlike_renamed : ∀ {old new : Tree}, Tree.Renamed rename old new →
    SpelledAlike [old] [new]
  | .leaf _, _, .leaf same => .inl ⟨rfl, rfl, .cons same .nil⟩
  | .node _ _, _, .decorator mark same _ =>
    .inr ⟨List.cons_ne_nil _ _, List.cons_ne_nil _ _, hasSign_of_isMark mark _,
      hasSign_of_isMark ((same.isMark_eq "@").trans mark) _⟩
  | .node _ _, _, .node noDecorator children => by
    have hchildren := spelledAlike_renamedAll children
    simpa [SpelledAlike, decoratorsInAll, decoratorsIn, noDecorator] using hchildren

theorem spelledAlike_renamedAll : ∀ {olds news : List Tree},
    List.Forall₂ (Tree.Renamed rename) olds news → SpelledAlike olds news
  | [], _, .nil => .inl ⟨rfl, rfl, .nil⟩
  | _ :: _, _, .cons first others =>
    (spelledAlike_renamed first).append (spelledAlike_renamedAll others)

end

/-- A renamed tree is spelled as it was unless it has decorators. -/
theorem displayText_renamed {old new : Tree} (renamed : Tree.Renamed rename old new) :
    decoratorsIn old = [] ∧ decoratorsIn new = [] ∧ new.displayText = old.displayText ∨
      decoratorsIn old ≠ [] ∧ decoratorsIn new ≠ [] ∧ '@' ∈ old.displayText.toList ∧
        '@' ∈ new.displayText.toList := by
  have hspelled := spelledAlike_renamed renamed
  simp only [SpelledAlike, decoratorsInAll, List.append_nil, Tree.tokensOf_cons, Tree.tokensOf_nil]
    at hspelled
  have hsign {kind : NodeKind} {children : List Tree}
      (hsign : HasSign (Tree.node kind children).tokens) :
      '@' ∈ (Tree.node kind children).displayText.toList := by
    rw [Tree.displayText, String.toList_ofList]
    · exact hsign.mem_spell
    · exact fun _ hleaf => by cases hleaf
  obtain ⟨hold, hnew, hsame⟩ | ⟨hold, hnew, hin, hin'⟩ := hspelled
  · refine .inl ⟨hold, hnew, ?_⟩
    cases renamed with
    | leaf same => exact same.displayName_eq
    | decorator => exact congrArg String.ofList (spell_same hsame)
    | node => exact congrArg String.ofList (spell_same hsame)
  · refine .inr ⟨hold, hnew, ?_⟩
    cases renamed with
    | leaf => exact absurd rfl hold
    | decorator => exact ⟨hsign hin, hsign hin'⟩
    | node => exact ⟨hsign hin, hsign hin'⟩

end Texts

/-- Conditions hold no decorators where they are read. -/
theorem condition_renamed {old new : Tree} (renamed : Tree.Renamed rename old new) :
    condition new = condition old := by
  fun_induction condition old generalizing new with
  | case1 token hidentifier =>
    cases renamed with
    | leaf same => rw [condition, same.isIdentifier_eq, if_pos hidentifier, same.name_eq]
  | case2 token hidentifier hnull =>
    cases renamed with
    | leaf same =>
      rw [condition, same.isIdentifier_eq, if_neg hidentifier, same.kind, same.name_eq,
        if_pos hnull]
  | case3 token hidentifier hnull =>
    cases renamed with
    | leaf same =>
      rw [condition, same.isIdentifier_eq, if_neg hidentifier, same.kind, same.name_eq,
        if_neg hnull]
  | case4 _ inner _ ih =>
    cases renamed with
    | node _ children =>
      obtain ⟨_, _, _, rfl, -, hinner, -⟩ := exists_of_forall₂_three children
      rw [condition, ih hinner]
  | case5 left operator right hoperator ihleft ihright =>
    cases renamed with
    | node _ children =>
      obtain ⟨_, _, _, rfl, hleft, ⟨same⟩, hright⟩ := exists_of_forall₂_three children
      rw [condition, same.isMark_eq, if_pos hoperator, ihleft hleft, ihright hright]
  | case6 left operator right hoperator =>
    cases renamed with
    | node _ children =>
      obtain ⟨_, _, _, rfl, -, ⟨same⟩, -⟩ := exists_of_forall₂_three children
      rw [condition, same.isMark_eq, if_neg hoperator]
  -- The renamed tree has no shape that is looked into either, or the tree would have it as well.
  | case7 tree hleaf hparenthesized hbinary =>
    cases renamed with
    | leaf => exact absurd rfl (hleaf _)
    | decorator => rfl
    | node _ children =>
      unfold condition
      split
      · rename_i htree
        cases htree
      · rename_i htree
        cases htree
        obtain ⟨_, _, _, rfl, -⟩ := exists_of_forall₂_three children.flip
        exact absurd rfl (hparenthesized _ _ _)
      · rename_i htree
        cases htree
        obtain ⟨_, _, _, rfl, -, ⟨same⟩, -⟩ := exists_of_forall₂_three children.flip
        exact absurd rfl (hbinary _ _ _)
      · rfl

theorem callArguments_renamed {old new : Tree} (renamed : Tree.Renamed rename old new)
    (noDecorator : old.isNode .decorator = false) :
    List.Forall₂ (Tree.Renamed rename) (callArguments old) (callArguments new) := by
  have hcontents := renamed.contents noDecorator (by decide : NodeKind.arguments ≠ .decorator)
  exact (forall₂_filter hcontents fun _ _ same => congrArg (!·) same.isMark_eq).imp
    fun _ _ => And.left

section Statements

/-- A statement that is a call. -/
def callStatement (target : Tree) (parts others : List Tree) : Tree :=
  .node .expressionStatement (.node .call (target :: parts) :: others)

theorem callStatement_renamed {old new : Tree} (renamed : Tree.Renamed rename old new) :
    (∃ target target' parts parts' others others', old = callStatement target parts others ∧
        new = callStatement target' parts' others' ∧ Tree.Renamed rename target target' ∧
        List.Forall₂ (Tree.Renamed rename) parts parts') ∨
      (∀ target parts others, old ≠ callStatement target parts others) ∧
        ∀ target parts others, new ≠ callStatement target parts others := by
  by_cases hcall : ∃ target parts others, old = callStatement target parts others
  · obtain ⟨target, parts, others, rfl⟩ := hcall
    left
    cases renamed with
    | node _ children =>
      match children with
      | .cons (.node _ (.cons target parts)) _ =>
        exact ⟨_, _, _, _, _, _, rfl, rfl, target, parts⟩
  · right
    refine ⟨fun target parts others hold => hcall ⟨target, parts, others, hold⟩, ?_⟩
    rintro target parts others rfl
    cases renamed with
    | node _ children =>
      match children with
      | .cons (.node _ (.cons _ _)) _ => exact hcall ⟨_, _, _, rfl⟩

/-- What a statement calls. -/
def calledBy? : Tree → Option Tree
  | .node .expressionStatement (.node .call (target :: _) :: _) => some target
  | _ => none

theorem calledBy?_eq_none {tree : Tree}
    (hcall : ∀ target parts others, tree ≠ callStatement target parts others) :
    calledBy? tree = none := by
  unfold calledBy?
  split
  · exact absurd rfl (hcall _ _ _)
  · rfl

theorem calledBy?_renamed {old new : Tree} (renamed : Tree.Renamed rename old new) :
    Option.Rel (Tree.Renamed rename) (calledBy? old) (calledBy? new) := by
  obtain ⟨_, _, _, _, _, _, rfl, rfl, target, _⟩ | ⟨hold, hnew⟩ := callStatement_renamed renamed
  · exact .some target
  · rw [calledBy?_eq_none hold, calledBy?_eq_none hnew]
    exact .none

variable (names : List String)

theorem statement_callStatement (target : Tree) (parts others : List Tree) :
    statement names (callStatement target parts others) =
      ((callArguments (.node .call (target :: parts))).map condition).head?.elim .other fun stated =>
        if names.contains target.displayText then .assertion stated else .other := by
  rw [callStatement, statement]
  cases callArguments (.node .call (target :: parts)) <;> rfl

theorem statement_eq_other {tree : Tree}
    (hcall : ∀ target parts others, tree ≠ callStatement target parts others) :
    statement names tree = .other := by
  unfold statement
  split
  · exact absurd rfl (hcall _ _ _)
  · rfl

/-- No callee that is spelled as one of the names has a decorator in it. -/
def PlainCallees (callees : List Tree) : Prop :=
  ∀ target ∈ callees, target.displayText ∈ names → decoratorsIn target = []

variable {names}

theorem PlainCallees.contains_renamed {olds news : List Tree} (hold : PlainCallees names olds)
    (hnew : PlainCallees names news) {old new : Tree} (memOld : old ∈ olds) (memNew : new ∈ news)
    (renamed : Tree.Renamed rename old new) :
    names.contains new.displayText = names.contains old.displayText := by
  obtain ⟨-, -, htext⟩ | ⟨hdecorated, hdecorated', -⟩ := displayText_renamed renamed
  · rw [htext]
  · rw [List.contains_eq_mem, List.contains_eq_mem,
      decide_eq_false fun hspelled => hdecorated (hold old memOld hspelled),
      decide_eq_false fun hspelled => hdecorated' (hnew new memNew hspelled)]

theorem statement_renamed {old new : Tree} (renamed : Tree.Renamed rename old new)
    (hold : PlainCallees names (calledBy? old).toList)
    (hnew : PlainCallees names (calledBy? new).toList) :
    statement names new = statement names old := by
  obtain ⟨target, target', parts, parts', others, others', rfl, rfl, same, sameParts⟩ |
    ⟨hother, hother'⟩ := callStatement_renamed renamed
  · have hnames := hold.contains_renamed hnew (List.mem_singleton_self target)
      (List.mem_singleton_self target') same
    have hcall : Tree.Renamed rename (.node .call (target :: parts))
        (.node .call (target' :: parts')) := .node (by decide) (.cons same sameParts)
    rw [statement_callStatement, statement_callStatement, hnames,
      map_eq_of_forall₂ (callArguments_renamed hcall rfl) fun _ _ same => condition_renamed same]
  · rw [statement_eq_other names hother, statement_eq_other names hother']

/-- The statements of the block that a function has as its body, if it has one. -/
def Tree.bodyStatements (function : Tree) : List Tree :=
  ((function.content? .body).filter (Tree.isNode .block)).elim [] blockStatements

/-- What the statements of a function call. -/
def Tree.callees (function : Tree) : List Tree :=
  function.bodyStatements.filterMap calledBy?

theorem blockStatements_renamed {old new : Tree} (renamed : Tree.Renamed rename old new)
    (hblock : old.isNode .block = true) :
    List.Forall₂ (Tree.Renamed rename) (blockStatements old) (blockStatements new) :=
  (forall₂_filter (renamed.children (Tree.isNode_of_isNode hblock (by decide))) fun _ _ same =>
    congrArg (!·) same.isMark_eq).imp fun _ _ => And.left

theorem bodyStatements_renamed {old new : Tree} (renamed : Tree.Renamed rename old new)
    (noDecorator : old.isNode .decorator = false) :
    List.Forall₂ (Tree.Renamed rename) old.bodyStatements new.bodyStatements := by
  rw [Tree.bodyStatements, Tree.bodyStatements]
  obtain ⟨hold, hnew⟩ | ⟨a, b, hold, hnew, same⟩ :=
    renamed.content? noDecorator (by decide : NodeKind.body ≠ .decorator)
  · rw [hold, hnew]
    exact .nil
  · rw [hold, hnew, Option.filter_some, Option.filter_some, same.isNode_eq]
    split
    · exact blockStatements_renamed same ‹_›
    · exact .nil

theorem functionBody_eq (function : Tree) : functionBody names function =
    (function.content? .body).map fun body =>
      if body.isNode .block then .block (function.bodyStatements.map (statement names))
      else .expression := by
  rw [functionBody]
  refine Option.map_congr fun body hbody => ?_
  split
  · rw [Tree.bodyStatements, hbody, Option.filter_some, if_pos ‹_›]
    rfl
  · rfl

/-- A function in a renamed tree has the body that it had, unless the spelling of a decorator
    matters. -/
theorem functionBody_renamed {old new : Tree} (renamed : Tree.Renamed rename old new)
    (noDecorator : old.isNode .decorator = false) (hold : PlainCallees names old.callees)
    (hnew : PlainCallees names new.callees) : functionBody names new = functionBody names old := by
  have plain {tree : Tree} (hplain : PlainCallees names tree.callees) {line : Tree}
      (hline : line ∈ tree.bodyStatements) : PlainCallees names (calledBy? line).toList :=
    fun target htarget => hplain target
      (List.mem_filterMap.mpr ⟨line, hline, Option.mem_toList.mp htarget⟩)
  have hstatements : new.bodyStatements.map (statement names) =
      old.bodyStatements.map (statement names) :=
    map_eq_of_forall₂ (forall₂_mem (bodyStatements_renamed renamed noDecorator))
      fun _ _ ⟨same, memOld, memNew⟩ =>
        statement_renamed same (plain hold memOld) (plain hnew memNew)
  rw [functionBody_eq, functionBody_eq, hstatements]
  obtain ⟨hold, hnew⟩ | ⟨a, b, hold, hnew, same⟩ :=
    renamed.content? noDecorator (by decide : NodeKind.body ≠ .decorator)
  · rw [hold, hnew]
  · rw [hold, hnew, Option.map_some, Option.map_some, same.isNode_eq]

theorem callees_renamed {old new : Tree} (renamed : Tree.Renamed rename old new)
    (noDecorator : old.isNode .decorator = false) :
    List.Forall₂ (Tree.Renamed rename) old.callees new.callees :=
  List.rel_filterMap (fun _ _ same => calledBy?_renamed same)
    (bodyStatements_renamed renamed noDecorator)

/-- A name without the sign of a decorator spells no callee that has a decorator in it. -/
theorem plainCallees_of_noSign (hnames : ∀ name ∈ names, '@' ∉ name.toList) {olds news : List Tree}
    (renamed : List.Forall₂ (Tree.Renamed rename) olds news) :
    PlainCallees names olds ∧ PlainCallees names news := by
  induction renamed with
  | nil => exact ⟨List.forall_mem_nil _, List.forall_mem_nil _⟩
  | @cons old new _ _ first _ ih =>
    rw [PlainCallees, PlainCallees, List.forall_mem_cons, List.forall_mem_cons]
    obtain ⟨hold, hnew, -⟩ | ⟨-, -, hsign, hsign'⟩ := displayText_renamed first
    · exact ⟨⟨fun _ => hold, ih.1⟩, fun _ => hnew, ih.2⟩
    · exact ⟨⟨fun hspelled => absurd hsign (hnames _ hspelled), ih.1⟩,
        fun hspelled => absurd hsign' (hnames _ hspelled), ih.2⟩

end Statements

end NamedParams.Source
