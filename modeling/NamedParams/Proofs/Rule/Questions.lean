import NamedParams.Proofs.Rule.BrokenRuns

namespace NamedParams

open FunctionNode

variable {α ε : Type}

namespace FunctionNode

mutual

/-- A function without its body, and the functions inside it without theirs. -/
def withoutBody : FunctionNode α → FunctionNode α
  | mk kind name parameters _ children => mk kind name parameters none (withoutBodies children)

def withoutBodies : List (FunctionNode α) → List (FunctionNode α)
  | [] => []
  | node :: rest => node.withoutBody :: withoutBodies rest

end

mutual

theorem preorder_withoutBody : ∀ node : FunctionNode α,
    node.withoutBody.preorder.map parameters = node.preorder.map parameters
  | mk kind name _ body children => by
    rw [withoutBody, preorder, preorder, List.map_cons, List.map_cons,
      preorderOf_withoutBodies children]
    rfl

/-- Functions keep their parameters when bodies are taken away. -/
theorem preorderOf_withoutBodies : ∀ forest : List (FunctionNode α),
    (preorderOf (withoutBodies forest)).map parameters = (preorderOf forest).map parameters
  | [] => rfl
  | node :: rest => by
    rw [withoutBodies, preorderOf, preorderOf, List.map_append, List.map_append,
      preorder_withoutBody node, preorderOf_withoutBodies rest]

end

end FunctionNode

/-- The decorations that the rule asks about in some functions. -/
def requiredQuestions (meaning : Decoration α → Option LibraryMember)
    (functions : List (FunctionNode α)) : List (Decoration α) :=
  functions.flatMap (questions meaning)

/-- What is asked depends on the parameters of the functions alone. -/
theorem requiredQuestions_congr {meaning : Decoration α → Option LibraryMember}
    {functions others : List (FunctionNode α)}
    (hsame : functions.map parameters = others.map parameters) :
    requiredQuestions meaning functions = requiredQuestions meaning others := by
  have hparameters (functions : List (FunctionNode α)) : requiredQuestions meaning functions =
      (functions.map parameters).flatMap fun parameters =>
        (parameters.filter Parameter.isCandidate).flatMap fun parameter =>
          questionsUpToMarker meaning parameter.decorations := by
    rw [List.flatMap_map]
    rfl
  rw [hparameters, hparameters, hsame]

/-- Every question is about a named parameter without a default value. -/
theorem exists_parameter_of_mem_requiredQuestions {meaning : Decoration α → Option LibraryMember}
    {functions : List (FunctionNode α)} {decoration : Decoration α}
    (hasked : decoration ∈ requiredQuestions meaning functions) :
    ∃ function ∈ functions, ∃ parameter ∈ function.parameters,
      parameter.kind = .named ∧ parameter.hasDefault = false ∧
        decoration ∈ parameter.decorations := by
  obtain ⟨function, hfunction, hasked⟩ := List.mem_flatMap.mp hasked
  obtain ⟨parameter, hparameter, hasked⟩ := List.mem_flatMap.mp hasked
  obtain ⟨hparameter, hcandidate⟩ := List.mem_filter.mp hparameter
  rw [Parameter.isCandidate, Bool.and_eq_true, decide_eq_true_eq, Bool.not_eq_true'] at hcandidate
  exact ⟨function, hfunction, parameter, hparameter, hcandidate.1, hcandidate.2,
    List.mem_of_mem_take hasked⟩

section Runs

variable (meaning : Decoration α → Option LibraryMember)
  (take : List (Report α) → Report α → Except ε Unit)

/-- The run of the rule with a resolver that never throws. -/
def answeredRun (forest : List (FunctionNode α)) : Except ε Unit × Transcript α :=
  faultyRun (fun decoration => .ok (meaning decoration)) take forest

/-- Where the resolver never throws, a run makes all calls, or it ends at a report that the sink
    does not take. In both cases all questions about a function have been asked by then, or none. -/
theorem answeredRun_cases (forest : List (FunctionNode α)) :
    (answeredRun meaning take forest).1 = .ok () ∧
        (answeredRun meaning take forest).2.asked =
          requiredQuestions meaning (preorderOf forest) ∨
      ∃ before function after reports found error,
        preorderOf forest = before ++ function :: after ∧ take reports found = .error error ∧
        (answeredRun meaning take forest).1 = .error error ∧
        (answeredRun meaning take forest).2.asked =
          requiredQuestions meaning (before ++ [function]) := by
  let resolve : Decoration α → Except ε (Option LibraryMember) :=
    fun decoration => .ok (meaning decoration)
  have hmeaning : meaningOf resolve = meaning := rfl
  rw [answeredRun, faultyRun, reportForest_calls resolve take, hmeaning]
  obtain ⟨hdone, -⟩ | ⟨calls, call, rest, error, hcalls, -, hthrows, hbroken⟩ :=
    performAll_cases resolve take ((preorderOf forest).flatMap (·.calls meaning)) ⟨[], []⟩
      (Transcript.unbroken_empty resolve take)
  · rw [hdone, after_calls]
    exact .inl ⟨rfl, rfl⟩
  · obtain ⟨before, function, after, left, right, hforest, rfl, hfunction⟩ :=
      exists_of_flatMap_eq hcalls
    cases call with
    | ask decoration => cases hthrows
    | report found =>
      refine .inr ⟨before, function, after, _, found, error, hforest, hthrows, ?_⟩
      rw [hbroken, Call.brokenRecord, Transcript.after_append, after_calls]
      refine ⟨rfl, ?_⟩
      simp [Transcript.after, completeRecord, requiredQuestions,
        questions_before_report hfunction]

/-- All questions about a function have been asked at the end of a run, or none. -/
theorem exists_prefix_asked (forest : List (FunctionNode α)) :
    ∃ functions, functions <+: preorderOf forest ∧
      (answeredRun meaning take forest).2.asked = requiredQuestions meaning functions := by
  obtain ⟨-, hasked⟩ | ⟨before, function, after, _, _, _, hforest, -, -, hasked⟩ :=
    answeredRun_cases meaning take forest
  · exact ⟨_, List.prefix_rfl, hasked⟩
  · refine ⟨before ++ [function], ?_, hasked⟩
    rw [hforest, List.append_cons before function after]
    exact List.prefix_append _ _

variable {meaning take}

theorem asked_of_completes {forest : List (FunctionNode α)}
    (hcompletes : (answeredRun meaning take forest).1 = .ok ()) :
    (answeredRun meaning take forest).2.asked = requiredQuestions meaning (preorderOf forest) := by
  obtain ⟨-, hasked⟩ | ⟨_, _, _, _, _, _, -, -, herror, -⟩ :=
    answeredRun_cases meaning take forest
  · exact hasked
  · rw [hcompletes] at herror
    contradiction

theorem answeredRun_completes {forest : List (FunctionNode α)}
    (htakes : ∀ reports found, take reports found = .ok ()) :
    (answeredRun meaning take forest).1 = .ok () := by
  obtain ⟨hdone, -⟩ | ⟨_, _, _, reports, found, _, -, hthrows, -⟩ :=
    answeredRun_cases meaning take forest
  · exact hdone
  · rw [htakes] at hthrows
    contradiction

/-- What a resolver that never throws is asked, with any sink. In a run that comes to its end, which
    all runs do whose sink does not throw either, it is asked for the functions in their order, and
    for the named parameters without a default value of each, about the decorations up to the first
    one that means the marker. A sink that throws cuts this short behind all questions about the
    function that it was told of. Neither the sink nor the bodies of the functions have any other
    influence on the questions. -/
theorem asked_requiredQuestions (meaning : Decoration α → Option LibraryMember)
    (take : List (Report α) → Report α → Except ε Unit) (forest : List (FunctionNode α)) :
    let run := answeredRun meaning take forest
    (run.1 = .ok () → run.2.asked = requiredQuestions meaning (preorderOf forest)) ∧
    ((∀ reports found, take reports found = .ok ()) → run.1 = .ok ()) ∧
    (∃ functions, functions <+: preorderOf forest ∧
      run.2.asked = requiredQuestions meaning functions) ∧
    (∀ decoration ∈ run.2.asked, ∃ function ∈ preorderOf forest,
      ∃ parameter ∈ function.parameters, parameter.kind = .named ∧
        parameter.hasDefault = false ∧ decoration ∈ parameter.decorations) ∧
    ∀ (other : List (FunctionNode α)) (take' : List (Report α) → Report α → Except ε Unit),
      withoutBodies other = withoutBodies forest → run.1 = .ok () →
      (answeredRun meaning take' other).1 = .ok () →
      (answeredRun meaning take' other).2.asked = run.2.asked := by
  intro run
  refine ⟨asked_of_completes, answeredRun_completes, exists_prefix_asked meaning take forest,
    ?_, ?_⟩
  · intro decoration hasked
    obtain ⟨functions, hbegins, hfunctions⟩ := exists_prefix_asked meaning take forest
    rw [hfunctions] at hasked
    obtain ⟨function, hfunction, hparameter⟩ := exists_parameter_of_mem_requiredQuestions hasked
    exact ⟨function, hbegins.subset hfunction, hparameter⟩
  · intro other take' hbodies hcompletes hcompletes'
    have hsame : (preorderOf other).map parameters = (preorderOf forest).map parameters := by
      rw [← preorderOf_withoutBodies other, hbodies, preorderOf_withoutBodies forest]
    rw [asked_of_completes hcompletes, asked_of_completes hcompletes',
      requiredQuestions_congr hsame]

end Runs

end NamedParams
