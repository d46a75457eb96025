import Mathlib.Tactic.MkIffOfInductiveProp
import NamedParams.Rule

namespace NamedParams

variable {α σ : Type}

/-- The condition is an inequality between the name and null, in either order. -/
def Condition.StatesNotNull (name : String) (condition : Condition) : Prop :=
  condition = .notEqual (.identifier name) .nullLiteral ∨
    condition = .notEqual .nullLiteral (.identifier name)

/-- The condition is such an inequality, directly or in exactly one pair of parentheses. -/
def Condition.Establishes (name : String) (condition : Condition) : Prop :=
  condition.StatesNotNull name ∨
    ∃ inner, condition = .parenthesized inner ∧ inner.StatesNotNull name

instance (name : String) (condition : Condition) : Decidable (condition.StatesNotNull name) :=
  inferInstanceAs (Decidable (_ ∨ _))

theorem Condition.unwrapped_statesNotNull {name : String} {condition : Condition} :
    condition.unwrapped.StatesNotNull name ↔ condition.Establishes name := by
  cases condition with
  | parenthesized inner =>
    simp [Condition.unwrapped, Condition.Establishes, Condition.StatesNotNull]
  | _ => simp [Condition.unwrapped, Condition.Establishes, Condition.StatesNotNull]

instance (name : String) (condition : Condition) : Decidable (condition.Establishes name) :=
  decidable_of_iff _ Condition.unwrapped_statesNotNull

def Statement.isAssertion : Statement → Bool
  | .assertion _ => true
  | .other => false

/-- The statement is an assertion whose condition says that the name is not null. -/
def Statement.Establishes (name : String) : Statement → Prop
  | .assertion condition => condition.Establishes name
  | .other => False

instance (name : String) : DecidablePred (Statement.Establishes name)
  | .assertion condition => inferInstanceAs (Decidable (condition.Establishes name))
  | .other => isFalse id

/-- The body is a block, and the longest run of assertions at its start has one that says that the
    name is not null. -/
def Body.Asserts (name : String) : Option Body → Prop
  | some (.block statements) =>
    ∃ statement ∈ statements.takeWhile Statement.isAssertion, statement.Establishes name
  | _ => False

instance (name : String) : DecidablePred (Body.Asserts name)
  | some (.block _) => inferInstanceAs (Decidable (∃ statement ∈ _, _))
  | some .expression => isFalse id
  | none => isFalse id

/-- What makes a parameter reportable: it is named, it has neither a default value nor a
    decoration that means the marker, and the body asserts at its start that it is not null. -/
@[mk_iff]
structure Parameter.LacksMarker (meaning : Decoration α → Option LibraryMember)
    (body : Option Body) (parameter : Parameter α) : Prop where
  named : parameter.kind = .named
  noDefault : parameter.hasDefault = false
  unmarked : ∀ decoration ∈ parameter.decorations, meaning decoration ≠ some requiredMarker
  asserted : Body.Asserts parameter.name body

instance (meaning : Decoration α → Option LibraryMember) (body : Option Body) :
    DecidablePred (Parameter.LacksMarker meaning body) := fun parameter =>
  decidable_of_iff' _ (parameter.lacksMarker_iff meaning body)

/-- The reports on one function, in the order of its parameters. -/
def FunctionNode.requiredReports (meaning : Decoration α → Option LibraryMember)
    (function : FunctionNode α) : List (Report α) :=
  (function.parameters.filter fun parameter =>
    decide (parameter.LacksMarker meaning function.body)).map (⟨·, function⟩)

/-- The reports that some trees call for: function by function, each before those inside it. -/
def requiredReports (meaning : Decoration α → Option LibraryMember)
    (forest : List (FunctionNode α)) : List (Report α) :=
  (FunctionNode.preorderOf forest).flatMap (FunctionNode.requiredReports meaning)

theorem Condition.assertsNotNull_iff {condition : Condition} {name : String} :
    condition.assertsNotNull name = true ↔ condition.StatesNotNull name := by
  cases condition with
  | notEqual left right =>
    simp only [Condition.assertsNotNull, Condition.StatesNotNull, List.any_cons, List.any_nil,
      Bool.or_false, Bool.and_eq_true, Bool.or_eq_true, decide_eq_true_eq,
      Condition.notEqual.injEq]
    constructor
    · rintro ⟨hleft | hright, hleft' | hright'⟩ <;> simp_all
    · rintro (⟨hleft, hright⟩ | ⟨hleft, hright⟩) <;> simp [hleft, hright]
  | _ => simp [Condition.assertsNotNull, Condition.StatesNotNull]

/-- The scan of the opening assertions finds what their longest run contains. -/
theorem any_openingConditions {statements : List Statement} {name : String} :
    (openingConditions statements).any (·.assertsNotNull name) = true ↔
      ∃ statement ∈ statements.takeWhile Statement.isAssertion, statement.Establishes name := by
  induction statements with
  | nil => simp [openingConditions]
  | cons statement rest ih =>
    cases statement with
    | other => simp [openingConditions, Statement.isAssertion]
    | assertion condition =>
      have htake : (Statement.assertion condition :: rest).takeWhile Statement.isAssertion =
          .assertion condition :: rest.takeWhile Statement.isAssertion :=
        List.takeWhile_cons_of_pos rfl
      rw [openingConditions, List.any_cons, Bool.or_eq_true, ih, Condition.assertsNotNull_iff,
        Condition.unwrapped_statesNotNull, htake]
      simp only [List.mem_cons, exists_eq_or_imp]
      exact Iff.rfl

theorem any_openingAssertions {body : Option Body} {name : String} :
    (openingAssertions body).any (·.assertsNotNull name) = true ↔ Body.Asserts name body := by
  match body with
  | none => simp [openingAssertions, Body.Asserts]
  | some .expression => simp [openingAssertions, Body.Asserts]
  | some (.block statements) => exact any_openingConditions

/-- The required reports, found by one filter after the other. -/
theorem FunctionNode.requiredReports_eq_filter (meaning : Decoration α → Option LibraryMember)
    (function : FunctionNode α) :
    function.requiredReports meaning =
      (((function.parameters.filter Parameter.isCandidate).filter fun parameter =>
        !decide (∃ decoration ∈ parameter.decorations,
          meaning decoration = some requiredMarker)).filter fun parameter =>
        (openingAssertions function.body).any (·.assertsNotNull parameter.name)).map
          (⟨·, function⟩) := by
  rw [List.filter_filter, List.filter_filter, requiredReports]
  congr 1
  apply List.filter_congr
  intro parameter _
  rw [Bool.eq_iff_iff, decide_eq_true_iff, Parameter.lacksMarker_iff, Bool.and_eq_true,
    Bool.and_eq_true, any_openingAssertions, Parameter.isCandidate]
  simp only [Bool.not_eq_true', decide_eq_false_iff_not, Bool.and_eq_true, decide_eq_true_eq,
    not_exists, not_and, ne_eq]
  constructor
  · rintro ⟨hnamed, hdefault, hunmarked, hasserted⟩
    exact ⟨⟨hasserted, hunmarked⟩, hnamed, hdefault⟩
  · rintro ⟨⟨hasserted, hunmarked⟩, hnamed, hdefault⟩
    exact ⟨hnamed, hdefault, hunmarked, hasserted⟩

/-- The decorations up to the first one that marks its parameter, which is the last one that anyone
    asks about. -/
def questionsUpToMarker (meaning : Decoration α → Option LibraryMember)
    (decorations : List (Decoration α)) : List (Decoration α) :=
  decorations.take
    (decorations.findIdx (fun decoration => meaning decoration = some requiredMarker) + 1)

/-- The decorations that the rule asks about in a function, in order. -/
def FunctionNode.questions (meaning : Decoration α → Option LibraryMember)
    (function : FunctionNode α) : List (Decoration α) :=
  (function.parameters.filter Parameter.isCandidate).flatMap fun parameter =>
    questionsUpToMarker meaning parameter.decorations

/-- What the rule does to its surroundings: it asks and it reports. -/
inductive Call (α : Type) where
  | ask (decoration : Decoration α)
  | report (found : Report α)

namespace Call

def asked? : Call α → Option (Decoration α)
  | ask decoration => some decoration
  | report _ => none

def reported? : Call α → Option (Report α)
  | ask _ => none
  | report found => some found

end Call

/-- The calls for one function: all questions come before the first report. -/
def FunctionNode.calls (meaning : Decoration α → Option LibraryMember)
    (function : FunctionNode α) : List (Call α) :=
  (function.questions meaning).map .ask ++ (function.requiredReports meaning).map .report

theorem FunctionNode.asked?_calls (meaning : Decoration α → Option LibraryMember)
    (function : FunctionNode α) :
    (function.calls meaning).filterMap Call.asked? = function.questions meaning := by
  simp [calls, List.filterMap_map, Function.comp_def, Call.asked?]

theorem FunctionNode.reported?_calls (meaning : Decoration α → Option LibraryMember)
    (function : FunctionNode α) :
    (function.calls meaning).filterMap Call.reported? = function.requiredReports meaning := by
  simp [calls, List.filterMap_map, Function.comp_def, Call.reported?]

/-- Someone asks exactly when there are decorations. -/
theorem questionsUpToMarker_eq_nil_iff {meaning : Decoration α → Option LibraryMember}
    {decorations : List (Decoration α)} :
    questionsUpToMarker meaning decorations = [] ↔ decorations = [] := by
  rw [questionsUpToMarker, List.take_eq_nil_iff]
  simp

theorem FunctionNode.questions_eq_nil_iff {meaning : Decoration α → Option LibraryMember}
    {function : FunctionNode α} :
    function.questions meaning = [] ↔
      ∀ parameter ∈ function.parameters, parameter.isCandidate → parameter.decorations = [] := by
  simp only [questions, List.flatMap_eq_nil_iff, List.mem_filter, and_imp,
    questionsUpToMarker_eq_nil_iff]

section Performs

variable {m : Type → Type} [Monad m]

/-- The resolver and the sink of a run do what is done for the calls. An answer is the meaning of
    the decoration, if there is an answer at all. -/
structure Performs (resolve : Decoration α → m (Option LibraryMember)) (report : Report α → m Unit)
    (meaning : Decoration α → Option LibraryMember) (perform : Call α → m Unit) : Prop where
  asks : ∀ decoration, resolve decoration =
    perform (.ask decoration) >>= fun _ => pure (meaning decoration)
  reports : ∀ found, report found = perform (.report found)

namespace Performs

variable [LawfulMonad m] {resolve : Decoration α → m (Option LibraryMember)}
  {report : Report α → m Unit} {meaning : Decoration α → Option LibraryMember}
  {perform : Call α → m Unit}

theorem anyMarker_eq (hperforms : Performs resolve report meaning perform)
    (decorations : List (Decoration α)) :
    anyMarker resolve decorations =
      forM ((questionsUpToMarker meaning decorations).map .ask) perform >>= fun _ =>
      pure (decide (∃ decoration ∈ decorations, meaning decoration = some requiredMarker)) := by
  induction decorations with
  | nil => simp [anyMarker, questionsUpToMarker]
  | cons decoration rest ih =>
    rw [anyMarker, hperforms.asks, questionsUpToMarker, List.findIdx_cons]
    by_cases hmarker : meaning decoration = some requiredMarker
    · simp [hmarker]
    · simp only [hmarker, ↓reduceIte, decide_false, cond_false, List.take_succ_cons, List.map_cons,
        List.forM_cons, bind_assoc, pure_bind, List.mem_cons, exists_eq_or_imp, false_or]
      rw [ih, questionsUpToMarker]

theorem unmarked_eq (hperforms : Performs resolve report meaning perform)
    (parameters : List (Parameter α)) :
    unmarked resolve parameters =
      forM ((parameters.flatMap fun parameter =>
        questionsUpToMarker meaning parameter.decorations).map .ask) perform >>= fun _ =>
      pure (parameters.filter fun parameter => !decide (∃ decoration ∈ parameter.decorations,
        meaning decoration = some requiredMarker)) := by
  induction parameters with
  | nil => simp [unmarked]
  | cons parameter rest ih =>
    rw [unmarked, hperforms.anyMarker_eq, ih, List.flatMap_cons, List.map_append,
      List.forM_append, List.filter_cons]
    simp only [bind_assoc, pure_bind]
    by_cases hmarked : ∃ decoration ∈ parameter.decorations,
        meaning decoration = some requiredMarker
    · simp only [hmarked, decide_true, Bool.not_true, Bool.false_eq_true, ↓reduceIte]
    · simp only [hmarked, decide_false, Bool.not_false, Bool.false_eq_true, ↓reduceIte]

omit [LawfulMonad m] in
theorem reportAsserted_eq (hperforms : Performs resolve report meaning perform)
    (function : FunctionNode α) (conditions : List Condition) (parameters : List (Parameter α)) :
    reportAsserted report function conditions parameters =
      forM (((parameters.filter fun parameter =>
        conditions.any (·.assertsNotNull parameter.name)).map (⟨·, function⟩)).map .report)
        perform := by
  induction parameters with
  | nil => rfl
  | cons parameter rest ih =>
    rw [reportAsserted, List.filter_cons]
    split
    · rw [ih, List.map_cons, List.map_cons, List.forM_cons, hperforms.reports]
    · exact ih

/-- The rule makes the calls for a function and no others. -/
theorem reportFunction_eq (hperforms : Performs resolve report meaning perform)
    (function : FunctionNode α) :
    reportFunction resolve report function = forM (function.calls meaning) perform := by
  rw [reportFunction, candidates, hperforms.unmarked_eq, bind_assoc, FunctionNode.calls,
    List.forM_append, FunctionNode.questions, function.requiredReports_eq_filter]
  congr 1
  funext _
  rw [pure_bind, hperforms.reportAsserted_eq]

mutual

theorem reportTree_eq (hperforms : Performs resolve report meaning perform) :
    ∀ tree : FunctionNode α,
      reportTree resolve report tree = forM (tree.preorder.flatMap (·.calls meaning)) perform
  | .mk kind name parameters body children => by
    rw [reportTree, hperforms.reportFunction_eq, reportForest_eq hperforms children,
      FunctionNode.preorder, List.flatMap_cons, List.forM_append]

/-- The rule makes the calls for the functions of a forest, for each before those inside it. -/
theorem reportForest_eq (hperforms : Performs resolve report meaning perform) :
    ∀ forest : List (FunctionNode α),
      reportForest resolve report forest =
        forM ((FunctionNode.preorderOf forest).flatMap (·.calls meaning)) perform
  | [] => rfl
  | tree :: rest => by
    rw [reportForest, reportTree_eq hperforms tree, reportForest_eq hperforms rest,
      FunctionNode.preorderOf, List.flatMap_append, List.forM_append]

end

end Performs

end Performs

/-- Decorations are resolved by their meaning, and `log` observes the reports: a report adds itself
    at the end, and a question adds none. The rest of the state may change in any way. -/
structure Observed (resolve : Decoration α → StateM σ (Option LibraryMember))
    (report : Report α → StateM σ Unit) (meaning : Decoration α → Option LibraryMember)
    (log : σ → List (Report α)) : Prop where
  answers : ∀ decoration state, (resolve decoration state).1 = meaning decoration
  asks : ∀ decoration state, log (resolve decoration state).2 = log state
  adds : ∀ found state, log (report found state).2 = log state ++ [found]

namespace Observed

variable {resolve : Decoration α → StateM σ (Option LibraryMember)}
  {report : Report α → StateM σ Unit} {meaning : Decoration α → Option LibraryMember}
  {log : σ → List (Report α)}

theorem bind_apply {β γ : Type} (first : StateM σ β) (next : β → StateM σ γ) (state : σ) :
    (first >>= next) state = next (first state).1 (first state).2 := rfl

/-- What the calls do to the state. -/
def perform (resolve : Decoration α → StateM σ (Option LibraryMember))
    (report : Report α → StateM σ Unit) : Call α → StateM σ Unit
  | .ask decoration => do
    let _ ← resolve decoration
    pure ()
  | .report found => report found

theorem performs (hobserved : Observed resolve report meaning log) :
    Performs resolve report meaning (perform resolve report) := by
  refine ⟨fun decoration => ?_, fun _ => rfl⟩
  funext state
  exact Prod.ext (hobserved.answers decoration state) rfl

theorem log_forM (hobserved : Observed resolve report meaning log) (calls : List (Call α))
    (state : σ) :
    log (forM calls (perform resolve report) state).2 =
      log state ++ calls.filterMap Call.reported? := by
  induction calls generalizing state with
  | nil => exact (List.append_nil _).symm
  | cons call rest ih =>
    rw [List.forM_cons, bind_apply, ih, List.filterMap_cons]
    cases call with
    | ask decoration => exact congrArg (· ++ _) (hobserved.asks decoration state)
    | report found =>
      rw [perform, hobserved.adds, List.append_assoc]
      rfl

/-- A forest adds its required reports. -/
theorem reportForest (hobserved : Observed resolve report meaning log)
    (forest : List (FunctionNode α)) (state : σ) :
    log (NamedParams.reportForest resolve report forest state).2 =
      log state ++ requiredReports meaning forest := by
  rw [hobserved.performs.reportForest_eq, hobserved.log_forM, requiredReports,
    List.filterMap_flatMap]
  simp only [FunctionNode.reported?_calls]

end Observed

/-- A resolver that never throws: a decoration has a meaning, and to ask for it may change a
    state. The reports so far are kept beside the state. -/
def quietResolver (meaning : Decoration α → Option LibraryMember) (ask : Decoration α → σ → σ)
    (decoration : Decoration α) : StateM (σ × List (Report α)) (Option LibraryMember) :=
  fun (state, reports) => (meaning decoration, (ask decoration state, reports))

/-- A sink that never throws and may change a state, with the reports it has got. -/
def recordingSink (take : Report α → σ → σ) (found : Report α) :
    StateM (σ × List (Report α)) Unit :=
  fun (state, reports) => ((), (take found state, reports ++ [found]))

/-- The rule makes exactly the required reports, each once and in pre-order, whatever the resolver
    and the sink do to their state as long as neither throws. -/
theorem reportForest_records_requiredReports (meaning : Decoration α → Option LibraryMember)
    (ask : Decoration α → σ → σ) (take : Report α → σ → σ) (forest : List (FunctionNode α))
    (state : σ) :
    (reportForest (quietResolver meaning ask) (recordingSink take) forest (state, [])).2.2 =
      requiredReports meaning forest := by
  have hobserved : Observed (quietResolver meaning ask) (recordingSink take) meaning
      (fun recorded : σ × List (Report α) => recorded.2) :=
    ⟨fun _ _ => rfl, fun _ _ => rfl, fun _ _ => rfl⟩
  exact hobserved.reportForest forest (state, [])

end NamedParams
