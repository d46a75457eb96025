import NamedParams.Proofs.Rule.Outlines

namespace NamedParams

open Outline

variable {α σ : Type}

/-- What may be added to a parameter: a default value, or a decoration at a place among those that
    it has. -/
inductive Addition (α : Type) where
  | defaultValue
  | decoration (place : Nat) (added : Decoration α)

namespace Addition

def apply (parameter : Parameter α) : Addition α → Parameter α
  | defaultValue => { parameter with hasDefault := true }
  | decoration place added =>
    { parameter with
      decorations := parameter.decorations.take place ++ added :: parameter.decorations.drop place }

/-- A default value is a remedy, and so is the marker. Other decorations are none. -/
def IsRemedy (meaning : Decoration α → Option LibraryMember) : Addition α → Prop
  | defaultValue => True
  | decoration _ added => meaning added = some requiredMarker

instance (meaning : Decoration α → Option LibraryMember) : DecidablePred (IsRemedy meaning)
  | defaultValue => isTrue trivial
  | decoration _ added => inferInstanceAs (Decidable (meaning added = some requiredMarker))

variable {meaning : Decoration α → Option LibraryMember} {body : Option Body}

/-- A parameter with a remedy lacks nothing, and no other addition makes a difference. -/
theorem lacksMarker_apply_iff (addition : Addition α) (parameter : Parameter α) :
    (addition.apply parameter).LacksMarker meaning body ↔
      parameter.LacksMarker meaning body ∧ ¬ addition.IsRemedy meaning := by
  cases addition with
  | defaultValue => simp [apply, IsRemedy, Parameter.lacksMarker_iff]
  | decoration place added =>
    have hmem (other : Decoration α) :
        other ∈ parameter.decorations.take place ++ added :: parameter.decorations.drop place ↔
          other = added ∨ other ∈ parameter.decorations := by
      rw [← List.mem_cons, List.perm_middle.mem_iff, List.take_append_drop]
    rw [Parameter.lacksMarker_iff, Parameter.lacksMarker_iff, apply, IsRemedy]
    simp only [hmem, forall_eq_or_imp]
    constructor
    · rintro ⟨hnamed, hdefault, ⟨hadded, hunmarked⟩, hasserted⟩
      exact ⟨⟨hnamed, hdefault, hunmarked, hasserted⟩, hadded⟩
    · rintro ⟨⟨hnamed, hdefault, hunmarked, hasserted⟩, hadded⟩
      exact ⟨hnamed, hdefault, ⟨hadded, hunmarked⟩, hasserted⟩

end Addition

/-- A parameter, with what is added to it one after the other. -/
structure AmendedParameter (α : Type) where
  before : Parameter α
  additions : List (Addition α)

namespace AmendedParameter

variable {meaning : Decoration α → Option LibraryMember}

def after (parameter : AmendedParameter α) : Parameter α :=
  parameter.additions.foldl Addition.apply parameter.before

/-- Among the additions to the parameter is a remedy. -/
def IsRemedied (meaning : Decoration α → Option LibraryMember)
    (parameter : AmendedParameter α) : Prop :=
  ∃ addition ∈ parameter.additions, addition.IsRemedy meaning

instance : DecidablePred (IsRemedied meaning) := fun parameter =>
  inferInstanceAs (Decidable (∃ addition ∈ parameter.additions, addition.IsRemedy meaning))

theorem lacksMarker_after_iff (parameter : AmendedParameter α) (body : Option Body) :
    parameter.after.LacksMarker meaning body ↔
      parameter.before.LacksMarker meaning body ∧ ¬ parameter.IsRemedied meaning := by
  obtain ⟨before, additions⟩ := parameter
  rw [after, IsRemedied]
  dsimp only
  induction additions generalizing before with
  | nil => simp
  | cons addition rest ih =>
    rw [List.foldl_cons, ih, addition.lacksMarker_apply_iff]
    simp only [List.mem_cons, exists_eq_or_imp, not_or, and_assoc]

end AmendedParameter

/-- A function whose parameters are amended. -/
structure AmendedFunction (α : Type) where
  kind : FunctionKind
  name : Option String
  parameters : List (AmendedParameter α)
  body : Option Body

namespace AmendedFunction

/-- The function with a version of each of its parameters. -/
def head (version : AmendedParameter α → Parameter α) (function : AmendedFunction α) :
    FunctionHead α :=
  ⟨function.kind, function.name, function.parameters.map version, function.body⟩

theorem head_before_surjective :
    Function.Surjective (head (AmendedParameter.before (α := α))) := by
  intro function
  refine ⟨⟨function.kind, function.name, function.parameters.map (⟨·, []⟩), function.body⟩, ?_⟩
  simp [head, Function.comp_def]

end AmendedFunction

/-- Parameters are amended anywhere and at once, in a forest that may be any. Of the reports on the
    forest as it was, exactly those on the parameters that were given a remedy are gone, and the
    others are on the same parameters and in the same order. Decorations that do not mean the marker
    change nothing, wherever they are added. -/
theorem recordedReports_amended (meaning : Decoration α → Option LibraryMember)
    (ask : Decoration α → σ → σ) (take : Report α → σ → σ) (state : σ) :
    Function.Surjective (nodes (AmendedFunction.head (AmendedParameter.before (α := α)))) ∧
    ∀ forest : List (Outline (AmendedFunction α)),
      let reports := select AmendedFunction.parameters (fun function parameter =>
        decide (parameter.before.LacksMarker meaning function.body)) forest
      recordedReports meaning ask take state
          (nodes (AmendedFunction.head AmendedParameter.before) forest) =
        reports.map (report AmendedParameter.before
          (AmendedFunction.head AmendedParameter.before)) ∧
      recordedReports meaning ask take state
          (nodes (AmendedFunction.head AmendedParameter.after) forest) =
        (reports.filter fun found => decide (¬ found.1.IsRemedied meaning)).map
          (report AmendedParameter.after (AmendedFunction.head AmendedParameter.after)) := by
  refine ⟨nodes_surjective AmendedFunction.head_before_surjective, fun forest => ?_⟩
  intro reports
  have hfilter := filter_select AmendedFunction.parameters (fun function parameter =>
    decide (parameter.before.LacksMarker meaning function.body))
    (fun parameter => decide (¬ parameter.IsRemedied meaning)) forest
  constructor
  · exact recordedReports_nodes meaning ask take state (fun _ => rfl) forest
  · rw [recordedReports_nodes meaning ask take state fun _ => rfl, hfilter]
    simp only [AmendedParameter.lacksMarker_after_iff, Bool.decide_and, AmendedFunction.head,
      Bool.and_comm]

end NamedParams
