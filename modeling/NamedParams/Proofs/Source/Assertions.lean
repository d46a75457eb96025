import Mathlib.Logic.Basic
import NamedParams.Proofs.Rule.RequiredReports
import NamedParams.Source.Functions

namespace NamedParams.Source

namespace Tree

/-- The tree is the bare identifier with this name. -/
def IsName (name : String) (tree : Tree) : Prop :=
  ∃ token : Token, tree = .leaf token ∧ token.isIdentifier = true ∧ token.name = name

/-- The tree is the literal null. -/
def IsNull (tree : Tree) : Prop :=
  ∃ token : Token, tree = .leaf token ∧ token.kind = .name ∧ token.name = "null"

/-- The tree is a loose inequality, and its operands are the name and null, in either order. -/
def SaysNotNull (name : String) (tree : Tree) : Prop :=
  ∃ left operator right, tree = .node .binary [left, .leaf operator, right] ∧
    operator.isMark "!=" = true ∧
    (left.IsName name ∧ right.IsNull ∨ left.IsNull ∧ right.IsName name)

/-- An expression without its outermost pair of parentheses, if it has any. -/
def unparenthesized : Tree → Tree
  | .node .parenthesized [_, inner, _] => inner
  | tree => tree

/-- The statement is a call of one of the functions, and this is the first argument of it. -/
def IsAssertion (assertionFunctions : List String) (statement argument : Tree) : Prop :=
  ∃ target parts others,
    statement = .node .expressionStatement (.node .call (target :: parts) :: others) ∧
    target.displayText ∈ assertionFunctions ∧
    (callArguments (.node .call (target :: parts))).head? = some argument

/-- The function has a block as its body, and up to some statement of the block all are assertions,
    the last of which says that the name is not null. -/
def OpensWithAssertion (assertionFunctions : List String) (name : String) (function : Tree) :
    Prop :=
  ∃ block, function.content? .body = some block ∧ block.isNode .block = true ∧ ∃ k : Nat,
    (∀ i ≤ k, ∃ statement argument, (blockStatements block)[i]? = some statement ∧
      IsAssertion assertionFunctions statement argument) ∧
    ∃ statement argument, (blockStatements block)[k]? = some statement ∧
      IsAssertion assertionFunctions statement argument ∧
      argument.unparenthesized.SaysNotNull name

end Tree

theorem condition_eq_identifier_iff {tree : Tree} {name : String} :
    condition tree = .identifier name ↔ tree.IsName name := by
  cases tree with
  | leaf token =>
    rw [condition, Tree.IsName]
    by_cases hidentifier : token.isIdentifier = true
    · simp [hidentifier]
    · rw [if_neg hidentifier]
      split <;> simp [hidentifier]
  | node kind children =>
    constructor
    · intro hcondition
      obtain ⟨_, hnode⟩ | ⟨_, _, hnode⟩ | hnode := condition_node kind children
      all_goals
        rw [hnode] at hcondition
        cases hcondition
    · rintro ⟨token, htree, _⟩
      cases htree

theorem condition_eq_nullLiteral_iff {tree : Tree} :
    condition tree = .nullLiteral ↔ tree.IsNull := by
  cases tree with
  | leaf token =>
    rw [condition, Tree.IsNull]
    by_cases hidentifier : token.isIdentifier = true
    · have hname : token.name ≠ "null" := by
        intro hname
        simp [Token.isIdentifier, hname, reservedNames] at hidentifier
      simp [hidentifier, hname]
    · rw [if_neg hidentifier]
      split <;> simp_all
  | node kind children =>
    constructor
    · intro hcondition
      obtain ⟨_, hnode⟩ | ⟨_, _, hnode⟩ | hnode := condition_node kind children
      all_goals
        rw [hnode] at hcondition
        cases hcondition
    · rintro ⟨token, htree, _⟩
      cases htree

/-- What is kept of a condition is enough to tell whether it says that a name is not null. -/
theorem condition_statesNotNull_iff {tree : Tree} {name : String} :
    (condition tree).StatesNotNull name ↔ tree.SaysNotNull name := by
  constructor
  · intro hstates
    unfold condition at hstates
    split at hstates
    · split at hstates <;> try split at hstates
      all_goals simp [Condition.StatesNotNull] at hstates
    · simp [Condition.StatesNotNull] at hstates
    · rename_i left operator right
      split at hstates
      · rename_i hoperator
        refine ⟨left, operator, right, rfl, hoperator, ?_⟩
        simpa only [Condition.StatesNotNull, Condition.notEqual.injEq, condition_eq_identifier_iff,
          condition_eq_nullLiteral_iff] using hstates
      · simp [Condition.StatesNotNull] at hstates
    · simp [Condition.StatesNotNull] at hstates
  · rintro ⟨left, operator, right, rfl, hoperator, hoperands⟩
    rw [condition, if_pos hoperator]
    simpa only [Condition.StatesNotNull, Condition.notEqual.injEq, condition_eq_identifier_iff,
      condition_eq_nullLiteral_iff] using hoperands

/-- One pair of parentheses is looked through, as in the source. -/
theorem condition_establishes_iff {tree : Tree} {name : String} :
    (condition tree).Establishes name ↔ tree.unparenthesized.SaysNotNull name := by
  rw [← Condition.unwrapped_statesNotNull, ← condition_statesNotNull_iff]
  unfold Tree.unparenthesized
  split
  · rfl
  · rename_i hplain
    have hunwrapped : (condition tree).unwrapped = condition tree := by
      unfold condition
      split
      · split <;> try split
        all_goals rfl
      · exact absurd rfl (hplain _ _ _)
      · split <;> rfl
      · rfl
    rw [hunwrapped]

/-- The statements that count as assertions are those calls, with their first argument. -/
theorem statement_eq_assertion_iff {assertionFunctions : List String} {tree : Tree}
    {stated : Condition} :
    statement assertionFunctions tree = .assertion stated ↔
      ∃ argument, tree.IsAssertion assertionFunctions argument ∧ condition argument = stated := by
  constructor
  · intro hstatement
    unfold statement at hstatement
    split at hstatement
    · rename_i target parts others
      split at hstatement
      · cases hstatement
      · rename_i first more harguments
        split at hstatement
        · rename_i hcontains
          cases hstatement
          refine ⟨first, ⟨target, parts, others, rfl, List.contains_iff_mem.mp hcontains, ?_⟩, rfl⟩
          rw [harguments, List.head?_cons]
        · cases hstatement
    · cases hstatement
  · rintro ⟨argument, ⟨target, parts, others, rfl, hcallee, hargument⟩, rfl⟩
    obtain ⟨more, hmore⟩ := List.head?_eq_some_iff.mp hargument
    simp [statement, hmore, hcallee]

theorem statement_isAssertion_iff {assertionFunctions : List String} {tree : Tree} :
    (statement assertionFunctions tree).isAssertion = true ↔
      ∃ argument, tree.IsAssertion assertionFunctions argument := by
  constructor
  · intro hassertion
    cases hstatement : statement assertionFunctions tree with
    | assertion stated =>
      obtain ⟨argument, hargument, _⟩ := statement_eq_assertion_iff.mp hstatement
      exact ⟨argument, hargument⟩
    | other =>
      rw [hstatement] at hassertion
      cases hassertion
  · rintro ⟨argument, hargument⟩
    rw [statement_eq_assertion_iff.mpr ⟨argument, hargument, rfl⟩]
    rfl

theorem statement_establishes_iff {assertionFunctions : List String} {tree : Tree}
    {name : String} :
    (statement assertionFunctions tree).Establishes name ↔
      ∃ argument, tree.IsAssertion assertionFunctions argument ∧
        argument.unparenthesized.SaysNotNull name := by
  constructor
  · intro hestablishes
    cases hstatement : statement assertionFunctions tree with
    | assertion stated =>
      obtain ⟨argument, hargument, hstated⟩ := statement_eq_assertion_iff.mp hstatement
      rw [hstatement, ← hstated] at hestablishes
      exact ⟨argument, hargument, condition_establishes_iff.mp hestablishes⟩
    | other =>
      rw [hstatement] at hestablishes
      cases hestablishes
  · rintro ⟨argument, hargument, hsays⟩
    rw [statement_eq_assertion_iff.mpr ⟨argument, hargument, rfl⟩]
    exact condition_establishes_iff.mpr hsays

private theorem exists_mem_takeWhile_iff {α : Type} {p : α → Bool} {q : α → Prop}
    {list : List α} :
    (∃ a ∈ list.takeWhile p, q a) ↔
      ∃ k : Nat, (∀ i ≤ k, ∃ a, list[i]? = some a ∧ p a = true) ∧
        ∃ a, list[k]? = some a ∧ q a := by
  induction list with
  | nil => simp
  | cons first rest ih =>
    by_cases hfirst : p first = true
    · rw [List.takeWhile_cons_of_pos hfirst]
      simp only [List.mem_cons, exists_eq_or_imp, ih]
      constructor
      · rintro (hq | ⟨k, hrun, hlast⟩)
        · refine ⟨0, ?_, first, rfl, hq⟩
          intro i hi
          obtain rfl := Nat.le_zero.mp hi
          exact ⟨first, rfl, hfirst⟩
        · refine ⟨k + 1, ?_, hlast⟩
          intro i hi
          cases i with
          | zero => exact ⟨first, rfl, hfirst⟩
          | succ i => exact hrun i (Nat.le_of_succ_le_succ hi)
      · rintro ⟨k, hrun, a, hk, hq⟩
        cases k with
        | zero =>
          cases hk
          exact .inl hq
        | succ k =>
          exact .inr ⟨k, fun i hi => hrun (i + 1) (Nat.succ_le_succ hi), a, hk, hq⟩
    · rw [List.takeWhile_cons_of_neg hfirst]
      constructor
      · rintro ⟨a, ha, _⟩
        cases ha
      · rintro ⟨k, hrun, _⟩
        obtain ⟨a, ha, hp⟩ := hrun 0 (Nat.zero_le k)
        cases ha
        exact absurd hp hfirst

/-- The body that is built for a function asserts a name exactly when the function in the source
    opens with such an assertion. -/
theorem functionBody_asserts_iff {assertionFunctions : List String} {function : Tree}
    {name : String} :
    Body.Asserts name (functionBody assertionFunctions function) ↔
      function.OpensWithAssertion assertionFunctions name := by
  unfold functionBody Tree.OpensWithAssertion
  cases hbody : function.content? .body with
  | none => simp [Body.Asserts]
  | some block =>
    rw [Option.map_some]
    by_cases hblock : block.isNode .block = true
    · rw [if_pos hblock, Body.Asserts, List.takeWhile_map]
      simp only [List.mem_map, exists_exists_and_eq_and]
      simp only [exists_mem_takeWhile_iff, Function.comp_apply, statement_isAssertion_iff,
        statement_establishes_iff, Option.some.injEq, exists_eq_left', hblock, true_and,
        exists_and_left]
    · rw [if_neg hblock]
      constructor
      · intro hasserts
        cases hasserts
      · rintro ⟨other, hother, hisblock, _⟩
        cases hother
        exact absurd hisblock hblock

end NamedParams.Source
