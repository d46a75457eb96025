import NamedParams.Proofs.Rule.Outlines

namespace NamedParams

open Outline

variable {α σ : Type}

/-- No assertion comes first. -/
def StartsPlain (statements : List Statement) : Prop :=
  ∀ statement, statements.head? = some statement → statement.isAssertion = false

/-- The opening assertions of a block are its longest run of assertions at the start. -/
theorem takeWhile_opening {opening rest : List Statement}
    (hopening : ∀ statement ∈ opening, statement.isAssertion = true) (hrest : StartsPlain rest) :
    (opening ++ rest).takeWhile Statement.isAssertion = opening := by
  rw [List.takeWhile_append_of_pos hopening]
  cases rest with
  | nil => exact List.append_nil opening
  | cons statement rest =>
    rw [List.takeWhile_cons_of_neg (by simp [hrest statement rfl]), List.append_nil]

namespace Body

/-- How a body may be reworked: its opening assertions change places and some of them are repeated,
    and whatever follows them is replaced by anything that does not go on with assertions. -/
inductive Reworked : Option Body → Option Body → Prop where
  | kept (body : Option Body) : Reworked body body
  | opening {asserted again asserted' rest rest' : List Statement}
      (hasserted : ∀ statement ∈ asserted, statement.isAssertion = true)
      (hagain : again ⊆ asserted) (hplaces : asserted'.Perm (asserted ++ again))
      (hrest : StartsPlain rest) (hrest' : StartsPlain rest') :
      Reworked (some (.block (asserted ++ rest))) (some (.block (asserted' ++ rest')))

/-- What a body asserts depends on which its opening assertions are, and on nothing else. -/
theorem asserts_block_congr {statements statements' : List Statement}
    (hsame : ∀ statement, statement ∈ statements.takeWhile Statement.isAssertion ↔
      statement ∈ statements'.takeWhile Statement.isAssertion) (name : String) :
    Asserts name (some (.block statements)) ↔ Asserts name (some (.block statements')) := by
  simp only [Asserts, hsame]

theorem Reworked.asserts_iff {body body' : Option Body} (hreworked : Reworked body body')
    (name : String) : Asserts name body' ↔ Asserts name body := by
  cases hreworked with
  | kept => exact Iff.rfl
  | @opening asserted again asserted' rest rest' hasserted hagain hplaces hrest hrest' =>
    have hmem (statement : Statement) : statement ∈ asserted' ↔ statement ∈ asserted := by
      rw [hplaces.mem_iff, List.mem_append]
      exact ⟨fun hmem => hmem.elim id (hagain ·), .inl⟩
    have hasserted' : ∀ statement ∈ asserted', statement.isAssertion = true :=
      fun statement hstatement => hasserted statement ((hmem statement).mp hstatement)
    apply asserts_block_congr
    rw [takeWhile_opening hasserted hrest, takeWhile_opening hasserted' hrest']
    exact hmem

end Body

/-- Only the assertions of its body matter for what a parameter lacks. -/
theorem Parameter.lacksMarker_congr {meaning : Decoration α → Option LibraryMember}
    {parameter : Parameter α} {body body' : Option Body}
    (hsame : Body.Asserts parameter.name body' ↔ Body.Asserts parameter.name body) :
    parameter.LacksMarker meaning body' ↔ parameter.LacksMarker meaning body := by
  rw [lacksMarker_iff, lacksMarker_iff, hsame]

/-- A function, with a body that its own may be replaced by. -/
structure ReworkedFunction (α : Type) extends FunctionHead α where
  newBody : Option Body
  reworked : Body.Reworked body newBody

namespace ReworkedFunction

def before (function : ReworkedFunction α) : FunctionHead α :=
  function.toFunctionHead

def after (function : ReworkedFunction α) : FunctionHead α :=
  { function.toFunctionHead with body := function.newBody }

theorem before_surjective : Function.Surjective (before (α := α)) :=
  fun head => ⟨⟨head, head.body, .kept head.body⟩, rfl⟩

end ReworkedFunction

/-- The bodies of any number of functions are reworked at once, in a forest that may be any. Then the
    same parameters of the same functions are reported as before, and in the same order, which is
    that of the functions and their parameters and not that of the assertions. -/
theorem recordedReports_reworked (meaning : Decoration α → Option LibraryMember)
    (ask : Decoration α → σ → σ) (take : Report α → σ → σ) (state : σ) :
    Function.Surjective (nodes (ReworkedFunction.before (α := α))) ∧
    ∀ forest : List (Outline (ReworkedFunction α)),
      let reports := select (fun function => function.parameters) (fun function parameter =>
        decide (parameter.LacksMarker meaning function.body)) forest
      recordedReports meaning ask take state (nodes ReworkedFunction.before forest) =
        reports.map (report id ReworkedFunction.before) ∧
      recordedReports meaning ask take state (nodes ReworkedFunction.after forest) =
        reports.map (report id ReworkedFunction.after) := by
  refine ⟨nodes_surjective ReworkedFunction.before_surjective, fun forest => ?_⟩
  have hbefore (function : ReworkedFunction α) :
      function.before.parameters = function.parameters.map id := (List.map_id _).symm
  have hafter (function : ReworkedFunction α) :
      function.after.parameters = function.parameters.map id := (List.map_id _).symm
  have hlacks (function : ReworkedFunction α) (parameter : Parameter α) :
      parameter.LacksMarker meaning function.newBody ↔
        parameter.LacksMarker meaning function.body :=
    Parameter.lacksMarker_congr (function.reworked.asserts_iff parameter.name)
  constructor
  · exact recordedReports_nodes meaning ask take state hbefore forest
  · rw [recordedReports_nodes meaning ask take state hafter]
    simp only [id, ReworkedFunction.after, hlacks]

end NamedParams
