import NamedParams.Proofs.Detector.FreshDetector
import NamedParams.Proofs.Source.BuiltParameters

namespace NamedParams

open NamedParams.Source

namespace Source

/-- What makes the rule ask about the decorators of an element's parameter: there are some, the
    element does not collect the remaining properties, and it has no default value of its own. Its
    function need not assert anything. -/
structure NamedElement.IsQuestioned (named : NamedElement) : Prop where
  noRest : named.element.children.any (Tree.isMarkOf "...") = false
  noDefault : named.element.child? .initializer = none
  decorated : decoratorsOf named.parameter ≠ []

/-- The check of a text asks for its imports. -/
def SourceFile.AsksForImports (file : SourceFile) : Prop :=
  ∃ named ∈ file.namedElements, named.IsQuestioned

instance : DecidablePred NamedElement.IsQuestioned := fun named =>
  decidable_of_iff (named.element.children.any (Tree.isMarkOf "...") = false ∧
      (named.element.child? .initializer).isNone = true ∧
      (decoratorsOf named.parameter).isEmpty = false)
    ⟨fun ⟨hrest, hdefault, hdecorated⟩ =>
        ⟨hrest, Option.isNone_iff_eq_none.mp hdefault, List.isEmpty_eq_false_iff.mp hdecorated⟩,
      fun ⟨hrest, hdefault, hdecorated⟩ =>
        ⟨hrest, Option.isNone_iff_eq_none.mpr hdefault, List.isEmpty_eq_false_iff.mpr hdecorated⟩⟩

instance : DecidablePred SourceFile.AsksForImports := fun file =>
  inferInstanceAs (Decidable (∃ named ∈ file.namedElements, named.IsQuestioned))

end Source

/-- What the check of a file does for the calls of the rule. -/
def FileReports.perform : Call Decorator → StateM FileReports Unit
  | .ask _ => fun state => ((), { state with consulted := true })
  | .report found => fun state => ((), { state with reports := state.reports ++ [found] })

theorem FileReports.consulted_forM (calls : List (Call Decorator)) (state : FileReports) :
    (forM calls perform state).2.consulted =
      (state.consulted || calls.any fun call => call.asked?.isSome) := by
  induction calls generalizing state with
  | nil => exact (Bool.or_false _).symm
  | cons call rest ih =>
    rw [List.forM_cons, Observed.bind_apply, ih, List.any_cons]
    cases call with
    | ask decoration => simp [perform, Call.asked?]
    | report found => simp [perform, Call.asked?]

/-- The check of a file asks for the meaning of decorators when one of its functions has a candidate
    with decorations. -/
theorem reportsOf_consulted {functions : List (FunctionNode Decorator)} {index : ImportIndex} :
    (reportsOf functions index).consulted = true ↔
      ∃ function ∈ FunctionNode.preorderOf functions, ∃ parameter ∈ function.parameters,
        parameter.isCandidate = true ∧ parameter.decorations ≠ [] := by
  let meaning : Decoration Decorator → Option LibraryMember :=
    fun decoration => index.resolve decoration.handle
  have hperforms : Performs
      (fun (decoration : Decoration Decorator) (state : FileReports) =>
        (index.resolve decoration.handle, { state with consulted := true }))
      (fun found state => ((), { state with reports := state.reports ++ [found] }))
      meaning FileReports.perform :=
    ⟨fun _ => rfl, fun _ => rfl⟩
  have hcalls : (reportsOf functions index).consulted =
      ((FunctionNode.preorderOf functions).flatMap (·.calls meaning)).any
        fun call => call.asked?.isSome := by
    have hrun := congrArg (fun run : StateM FileReports Unit => (run ⟨[], false⟩).2.consulted)
      (hperforms.reportForest_eq functions)
    exact hrun.trans ((FileReports.consulted_forM _ _).trans (Bool.false_or _))
  have hasked : ∀ function : FunctionNode Decorator,
      (∃ call ∈ function.calls meaning, call.asked?.isSome = true) ↔
        function.questions meaning ≠ [] := by
    intro function
    rw [← function.asked?_calls, Ne, List.filterMap_eq_nil_iff]
    simp only [Option.isSome_iff_ne_none, not_forall, exists_prop]
  rw [hcalls, List.any_flatMap]
  simp only [List.any_eq_true, hasked, Ne, FunctionNode.questions_eq_nil_iff, not_forall,
    exists_prop]

theorem reportsOf_functions_consulted {file : SourceFile} {assertionFunctions : List String}
    {index : ImportIndex} :
    (reportsOf (file.functions assertionFunctions) index).consulted = true ↔
      file.AsksForImports := by
  rw [reportsOf_consulted]
  constructor
  · rintro ⟨function, hfunction, found, hfound, hcandidate, hdecorated⟩
    obtain ⟨site, hsite, parameter, hparameter, kind, part, name, hpart, hname, rfl⟩ :=
      mem_built_parameters_iff.mp ⟨function, hfunction, hfound⟩
    rw [Parameter.isCandidate, Bool.and_eq_true, decide_eq_true_eq, Bool.not_eq_true',
      partParameter, Option.isSome_eq_false_iff, Option.isNone_iff_eq_none] at hcandidate
    obtain ⟨hkind, hdefault⟩ := hcandidate
    cases hpart with
    | itself => cases hkind
    | element helement hrest =>
      exact ⟨⟨site, parameter, part, name⟩,
        NamedElement.belongs_iff.mpr ⟨hsite, hparameter, helement, hname⟩,
        hrest, hdefault, fun hnone => hdecorated (List.map_eq_nil_iff.mpr hnone)⟩
  · rintro ⟨named, hnamed, hrest, hdefault, hdecorated⟩
    have hbelongs := NamedElement.belongs_iff.mp hnamed
    obtain ⟨function, hfunction, hfound⟩ := mem_built_parameters_iff.mpr
      ⟨named.site, hbelongs.site, named.parameter, hbelongs.parameter, .named, named.element,
        named.name, .element hbelongs.element hrest, hbelongs.name, rfl⟩
    refine ⟨function, hfunction, _, hfound, ?_, fun hnone => hdecorated (List.map_eq_nil_iff.mp hnone)⟩
    rw [Parameter.isCandidate, partParameter, hdefault]
    rfl

/-- The imports that are settled for a file stay. If there are none, a check settles those of its
    text, provided that it asks for them. -/
theorem checkFile_settled (config : Config) (file : ProjectFile) :
    (checkFile config file).file.settled =
      file.settled.or
        (if file.source.AsksForImports then some file.source.importIndex else none) := by
  rw [checkFile]
  dsimp only
  by_cases hasks : file.source.AsksForImports
  · rw [if_pos (reportsOf_functions_consulted.mpr hasks), if_pos hasks, ProjectFile.index]
    cases file.settled <;> rfl
  · rw [if_neg (fun hconsulted => hasks (reportsOf_functions_consulted.mp hconsulted)),
      if_neg hasks, Option.or_none]

/-- The first of some texts that is at a path and whose check asks for its imports. -/
def askingText? (path : String) (sources : List SourceFile) : Option SourceFile :=
  sources.find? fun source => decide (source.path = path ∧ source.AsksForImports)

theorem askingText?_append (path : String) (a b : List SourceFile) :
    askingText? path (a ++ b) = (askingText? path a).or (askingText? path b) :=
  List.find?_append

/-- A check settles the imports of its file if it asks for them, and those of no other file. -/
theorem Session.settled?_update_checkFile (config : Config) {session : Session} {path : String}
    {file : ProjectFile} (hfile : session.find? path = some file) (other : String) :
    (session.update (checkFile config file).file).settled? other =
      (session.settled? other).or
        ((askingText? other [file.source]).map SourceFile.importIndex) := by
  have hpath : file.source.path = path := path_of_find? hfile
  rw [settled?, find?_update, checkFile_source, settled?, askingText?, List.find?_singleton, hpath]
  by_cases hother : path = other
  · subst hother
    rw [if_pos rfl, hfile, Option.map_some, Option.bind_some, Option.bind_some, checkFile_settled]
    by_cases hasks : file.source.AsksForImports
    · simp [hasks]
    · simp [hasks]
  · simp [hother]

theorem tallyFiles_settled (config : Config) (logger : Logger) (paths : List String)
    (other : String) : ∀ (tally : Tally) (detector : Detector),
      (tallyFiles config logger paths (tally, detector)).2.session.settled? other =
        (detector.session.settled? other).or
          ((askingText? other ((detector.session.checked config paths).map
            ProjectFile.source)).map SourceFile.importIndex) := by
  induction paths with
  | nil => exact fun tally detector => (Option.or_none).symm
  | cons path rest ih =>
    intro tally detector
    rw [tallyFiles]
    cases hexcludes : config.excludes path with
    | true =>
      rw [if_pos rfl, Session.checked_cons_of_excludes hexcludes]
      exact ih tally detector
    | false =>
      have hadds := tally.add_adds config logger detector path
      rw [if_neg Bool.false_ne_true, Session.checked_cons hexcludes, ih,
        hadds.session.checked_eq rest, List.map_append, askingText?_append, Option.map_or,
        ← Option.or_assoc]
      congr 1
      rw [Tally.add]
      cases hfile : detector.session.find? path with
      | none => exact (Option.or_none).symm
      | some file => exact Session.settled?_update_checkFile config hfile other

namespace Detector

variable (config : Config) (logger : Logger) (root : List String) (detector : Detector)

/-- The imports that are settled for a file stay. If there are none, a step settles those of the
    text that it checks there, provided that the check asks for them. -/
theorem step_settled (step : Step) (path : String) :
    (detector.step config logger root step).2.session.settled? path =
      (detector.session.settled? path).or
        ((askingText? path ((detector.checkedBy config logger root step).map
          ProjectFile.source)).map SourceFile.importIndex) := by
  cases step with
  | create given content =>
    exact (Session.settled?_create _ _ content path).trans (Option.or_none).symm
  | write given content => exact (Option.or_none).symm
  | checkPaths paths =>
    rw [← detector.session.settled?_loadAll config logger root paths]
    exact tallyFiles_settled config logger _ path _ _
  | checkFiles paths =>
    rw [Detector.step, checkedBy]
    cases detector.session.absent? root paths with
    | some message => exact (Option.or_none).symm
    | none => exact tallyFiles_settled config logger _ path _ _
  | checkOne given =>
    rw [Detector.step, checkedBy]
    cases hfile : detector.session.find? (filePath root given) with
    | none => cases detector.session.absent? root [given] <;> exact (Option.or_none).symm
    | some file =>
      rw [Session.absent?_of_find? hfile]
      exact Session.settled?_update_checkFile config hfile path

end Detector

end NamedParams
