import Mathlib.Data.List.Infix
import NamedParams.Proofs.Rule.RequiredReports

namespace NamedParams

variable {α ε : Type}

/-- What a run has done so far: the decorations that it has asked about, the last one perhaps in
    vain, and the reports that were taken. -/
structure Transcript (α : Type) where
  asked : List (Decoration α)
  reports : List (Report α)

/-- A resolver that may throw. That it was asked is on record in any case. -/
def faultyResolver (resolve : Decoration α → Except ε (Option LibraryMember))
    (decoration : Decoration α) : ExceptT ε (StateM (Transcript α)) (Option LibraryMember) :=
  fun transcript =>
    (resolve decoration, { transcript with asked := transcript.asked ++ [decoration] })

/-- A sink that may throw, depending on the report and on those before it. Only the reports that it
    takes are on record. -/
def faultySink (take : List (Report α) → Report α → Except ε Unit) (found : Report α) :
    ExceptT ε (StateM (Transcript α)) Unit :=
  fun transcript =>
    match take transcript.reports found with
    | .ok () => (.ok (), { transcript with reports := transcript.reports ++ [found] })
    | .error error => (.error error, transcript)

/-- The run of the rule with a resolver and a sink that may throw. -/
def faultyRun (resolve : Decoration α → Except ε (Option LibraryMember))
    (take : List (Report α) → Report α → Except ε Unit) (forest : List (FunctionNode α)) :
    Except ε Unit × Transcript α :=
  reportForest (faultyResolver resolve) (faultySink take) forest ⟨[], []⟩

/-- What a decoration means when a resolver that throws is one that knows nothing. -/
def meaningOf (resolve : Decoration α → Except ε (Option LibraryMember))
    (decoration : Decoration α) : Option LibraryMember :=
  match resolve decoration with
  | .ok found => found
  | .error _ => none

/-- The run of the rule in which nothing throws. -/
def quietRun (meaning : Decoration α → Option LibraryMember) (forest : List (FunctionNode α)) :
    Except ε Unit × Transcript α :=
  faultyRun (fun decoration => .ok (meaning decoration)) (fun _ _ => .ok ()) forest

namespace Call

variable (resolve : Decoration α → Except ε (Option LibraryMember))
  (take : List (Report α) → Report α → Except ε Unit)

def perform : Call α → ExceptT ε (StateM (Transcript α)) Unit
  | ask decoration => do
    let _ ← faultyResolver resolve decoration
    pure ()
  | report found => faultySink take found

/-- Calls one after the other, up to the first one that throws. -/
def performAll : List (Call α) → ExceptT ε (StateM (Transcript α)) Unit
  | [] => pure ()
  | call :: rest => do
    call.perform resolve take
    performAll rest

theorem performAll_eq_forM (calls : List (Call α)) :
    performAll resolve take calls = forM calls (perform resolve take) := by
  induction calls with
  | nil => rfl
  | cons call rest ih => rw [performAll, ih, List.forM_cons]

end Call

theorem bind_of_ok {β γ : Type} {first : ExceptT ε (StateM (Transcript α)) β}
    {before after : Transcript α} {value : β} (hfirst : first before = (.ok value, after))
    (next : β → ExceptT ε (StateM (Transcript α)) γ) :
    (first >>= next) before = next value after := by
  have hbind : (first >>= next) before =
      ExceptT.bindCont next (first before).1 (first before).2 := rfl
  rw [hbind, hfirst]
  rfl

theorem bind_of_error {β γ : Type} {first : ExceptT ε (StateM (Transcript α)) β}
    {before after : Transcript α} {error : ε} (hfirst : first before = (.error error, after))
    (next : β → ExceptT ε (StateM (Transcript α)) γ) :
    (first >>= next) before = (.error error, after) := by
  have hbind : (first >>= next) before =
      ExceptT.bindCont next (first before).1 (first before).2 := rfl
  rw [hbind, hfirst]
  rfl

section Calls

variable (resolve : Decoration α → Except ε (Option LibraryMember))
  (take : List (Report α) → Report α → Except ε Unit)

open Call

theorem faultyResolver_of_ok {decoration : Decoration α} {found : Option LibraryMember}
    (hanswer : resolve decoration = .ok found) (transcript : Transcript α) :
    faultyResolver resolve decoration transcript =
      (.ok found, { transcript with asked := transcript.asked ++ [decoration] }) := by
  rw [faultyResolver, hanswer]

theorem faultyResolver_of_error {decoration : Decoration α} {error : ε}
    (hanswer : resolve decoration = .error error) (transcript : Transcript α) :
    faultyResolver resolve decoration transcript =
      (.error error, { transcript with asked := transcript.asked ++ [decoration] }) := by
  rw [faultyResolver, hanswer]

theorem performs_faulty :
    Performs (faultyResolver resolve) (faultySink take) (meaningOf resolve)
      (perform resolve take) := by
  refine ⟨fun decoration => ?_, fun found => rfl⟩
  rw [perform, bind_assoc]
  funext transcript
  cases hanswer : resolve decoration with
  | ok found =>
    have hasked := faultyResolver_of_ok resolve hanswer transcript
    rw [bind_of_ok hasked, hasked, meaningOf, hanswer]
    rfl
  | error error =>
    have hasked := faultyResolver_of_error resolve hanswer transcript
    rw [bind_of_error hasked, hasked]

/-- The rule makes the calls for the functions of a forest, for each before those inside it. -/
theorem reportForest_calls (forest : List (FunctionNode α)) :
    reportForest (faultyResolver resolve) (faultySink take) forest =
      performAll resolve take
        ((FunctionNode.preorderOf forest).flatMap (·.calls (meaningOf resolve))) := by
  rw [(performs_faulty resolve take).reportForest_eq, performAll_eq_forM]

end Calls

namespace Transcript

/-- The record after some calls that do not throw. -/
def after (transcript : Transcript α) (calls : List (Call α)) : Transcript α :=
  ⟨transcript.asked ++ calls.filterMap Call.asked?,
    transcript.reports ++ calls.filterMap Call.reported?⟩

@[simp] theorem after_nil (transcript : Transcript α) : transcript.after [] = transcript := by
  simp [after]

theorem after_ask (transcript : Transcript α) (decoration : Decoration α) :
    transcript.after [.ask decoration] =
      { transcript with asked := transcript.asked ++ [decoration] } := by
  simp [after, List.filterMap_cons, Call.asked?, Call.reported?]

theorem after_report (transcript : Transcript α) (found : Report α) :
    transcript.after [.report found] =
      { transcript with reports := transcript.reports ++ [found] } := by
  simp [after, List.filterMap_cons, Call.asked?, Call.reported?]

theorem after_append (transcript : Transcript α) (a b : List (Call α)) :
    transcript.after (a ++ b) = (transcript.after a).after b := by
  simp [after]

variable (resolve : Decoration α → Except ε (Option LibraryMember))
  (take : List (Report α) → Report α → Except ε Unit)

/-- Nothing that is on record has thrown. -/
structure Unbroken (transcript : Transcript α) : Prop where
  answered : ∀ decoration ∈ transcript.asked, ∃ found, resolve decoration = .ok found
  taken : ∀ before found, before ++ [found] <+: transcript.reports → take before found = .ok ()

end Transcript

section Calls

variable (resolve : Decoration α → Except ε (Option LibraryMember))
  (take : List (Report α) → Report α → Except ε Unit)

open Call

/-- At a call that throws, the run ends with its error. A question is on record nevertheless. -/
def Call.ThrowsAt (transcript : Transcript α) (error : ε) : Call α → Prop
  | ask decoration => resolve decoration = .error error
  | report found => take transcript.reports found = .error error

def Call.brokenRecord (transcript : Transcript α) : Call α → Transcript α
  | ask decoration => transcript.after [ask decoration]
  | report _ => transcript

theorem Call.perform_of_throwsAt {transcript : Transcript α} {error : ε} {call : Call α}
    (hthrows : call.ThrowsAt resolve take transcript error) :
    call.perform resolve take transcript = (.error error, call.brokenRecord transcript) := by
  cases call with
  | ask decoration =>
    rw [brokenRecord, Transcript.after_ask]
    exact bind_of_error (faultyResolver_of_error resolve hthrows transcript) _
  | report found =>
    rw [perform, faultySink, hthrows]
    rfl

/-- A call that does not throw goes on record. -/
theorem Call.perform_cases {transcript : Transcript α}
    (hunbroken : transcript.Unbroken resolve take) (call : Call α) :
    (call.perform resolve take transcript = (.ok (), transcript.after [call]) ∧
      (transcript.after [call]).Unbroken resolve take) ∨
      ∃ error, call.ThrowsAt resolve take transcript error := by
  cases call with
  | ask decoration =>
    rw [Transcript.after_ask]
    cases hanswer : resolve decoration with
    | error error => exact .inr ⟨error, hanswer⟩
    | ok found =>
      refine .inl ⟨?_, ?_, hunbroken.taken⟩
      · exact bind_of_ok (faultyResolver_of_ok resolve hanswer transcript) _
      · intro other hother
        obtain hother | hother := List.mem_append.mp hother
        · exact hunbroken.answered other hother
        · rw [List.mem_singleton.mp hother]
          exact ⟨found, hanswer⟩
  | report found =>
    rw [Transcript.after_report]
    cases hanswer : take transcript.reports found with
    | error error => exact .inr ⟨error, hanswer⟩
    | ok _ =>
      refine .inl ⟨?_, hunbroken.answered, ?_⟩
      · rw [perform, faultySink, hanswer]
      · intro before other hother
        obtain heq | hother := List.prefix_concat_iff.mp hother
        · obtain ⟨rfl, hlast⟩ := List.append_inj' heq rfl
          rw [List.singleton_injective hlast, hanswer]
        · exact hunbroken.taken before other hother

/-- Calls are made to the end, or up to the first one that throws. -/
theorem performAll_cases : ∀ (calls : List (Call α)) (transcript : Transcript α),
    transcript.Unbroken resolve take →
      (performAll resolve take calls transcript = (.ok (), transcript.after calls) ∧
        (transcript.after calls).Unbroken resolve take) ∨
      ∃ before call rest error, calls = before ++ call :: rest ∧
        (transcript.after before).Unbroken resolve take ∧
        call.ThrowsAt resolve take (transcript.after before) error ∧
        performAll resolve take calls transcript =
          (.error error, call.brokenRecord (transcript.after before))
  | [], transcript, hunbroken => by
    rw [Transcript.after_nil]
    exact .inl ⟨rfl, hunbroken⟩
  | call :: rest, transcript, hunbroken => by
    have hsplit : transcript.after (call :: rest) = (transcript.after [call]).after rest :=
      transcript.after_append [call] rest
    obtain ⟨hcall, hnext⟩ | ⟨error, hthrows⟩ := call.perform_cases resolve take hunbroken
    · rw [performAll, bind_of_ok hcall, hsplit]
      obtain hdone | ⟨before, next, more, error, rfl, hbefore, hthrows, hbroken⟩ :=
        performAll_cases rest (transcript.after [call]) hnext
      · exact .inl hdone
      · rw [← Transcript.after_append] at hbefore hthrows hbroken
        exact .inr ⟨call :: before, next, more, error, rfl, hbefore, hthrows, hbroken⟩
    · refine .inr ⟨[], call, rest, error, rfl, ?_, ?_, ?_⟩
      · rwa [Transcript.after_nil]
      · rwa [Transcript.after_nil]
      · rw [performAll, bind_of_error (call.perform_of_throwsAt resolve take hthrows),
          Transcript.after_nil]

end Calls

/-- The record of a run that makes all calls for some functions. -/
def completeRecord (meaning : Decoration α → Option LibraryMember)
    (functions : List (FunctionNode α)) : Transcript α :=
  ⟨functions.flatMap (·.questions meaning), functions.flatMap (·.requiredReports meaning)⟩

theorem after_calls (meaning : Decoration α → Option LibraryMember)
    (functions : List (FunctionNode α)) :
    (⟨[], []⟩ : Transcript α).after (functions.flatMap (·.calls meaning)) =
      completeRecord meaning functions := by
  simp [Transcript.after, completeRecord, List.filterMap_flatMap, FunctionNode.asked?_calls,
    FunctionNode.reported?_calls]

theorem Transcript.unbroken_empty (resolve : Decoration α → Except ε (Option LibraryMember))
    (take : List (Report α) → Report α → Except ε Unit) :
    (⟨[], []⟩ : Transcript α).Unbroken resolve take :=
  ⟨by simp, by simp⟩

theorem quietRun_eq (meaning : Decoration α → Option LibraryMember)
    (forest : List (FunctionNode α)) :
    (quietRun meaning forest : Except ε Unit × Transcript α) =
      (.ok (), completeRecord meaning (FunctionNode.preorderOf forest)) := by
  let resolve : Decoration α → Except ε (Option LibraryMember) :=
    fun decoration => .ok (meaning decoration)
  let take : List (Report α) → Report α → Except ε Unit := fun _ _ => .ok ()
  have hmeaning : meaningOf resolve = meaning := rfl
  rw [quietRun, faultyRun, reportForest_calls resolve take, hmeaning, ← after_calls]
  obtain ⟨hdone, _⟩ | ⟨before, call, rest, error, _, _, hthrows, _⟩ :=
    performAll_cases resolve take
      ((FunctionNode.preorderOf forest).flatMap (·.calls meaning)) ⟨[], []⟩
      (Transcript.unbroken_empty resolve take)
  · exact hdone
  · cases call <;> cases hthrows

/-- Wherever a list made of pieces is split, one of the pieces is split. -/
theorem exists_of_flatMap_eq {β γ : Type} {pieces : β → List γ} {list : List β}
    {before after : List γ} {c : γ} (hsplit : list.flatMap pieces = before ++ c :: after) :
    ∃ first item last left right, list = first ++ item :: last ∧
      before = first.flatMap pieces ++ left ∧ pieces item = left ++ c :: right := by
  induction list generalizing before with
  | nil => simp at hsplit
  | cons item rest ih =>
    rw [List.flatMap_cons, List.append_eq_append_iff] at hsplit
    obtain ⟨more, rfl, hrest⟩ | ⟨more, hitem, hrest⟩ := hsplit
    · obtain ⟨first, other, last, left, right, rfl, rfl, hother⟩ := ih hrest
      exact ⟨item :: first, other, last, left, right, rfl, by simp, hother⟩
    · cases more with
      | nil =>
        have hnext : rest.flatMap pieces = [] ++ c :: after := hrest.symm
        obtain ⟨first, other, last, left, right, rfl, hleft, hother⟩ := ih hnext
        refine ⟨item :: first, other, last, left, right, rfl, ?_, hother⟩
        rw [List.flatMap_cons, List.append_assoc, ← hleft, hitem, List.append_nil, List.append_nil]
      | cons c' right =>
        obtain ⟨rfl, _⟩ := List.cons.inj hrest
        exact ⟨[], item, rest, before, right, rfl, rfl, hitem⟩

namespace FunctionNode

variable (meaning : Decoration α → Option LibraryMember) (function : FunctionNode α)

/-- No question about a function comes after a report on it. -/
theorem calls_ordered :
    (function.calls meaning).Pairwise fun first second =>
      second.asked? = none ∨ first.reported? = none := by
  rw [calls, List.pairwise_append, List.pairwise_map, List.pairwise_map]
  refine ⟨List.pairwise_of_forall fun _ _ => .inr rfl,
    List.pairwise_of_forall fun _ _ => .inl rfl, ?_⟩
  intro first hfirst second _
  obtain ⟨decoration, _, rfl⟩ := List.mem_map.mp hfirst
  exact .inr rfl

variable {meaning function} {left right : List (Call α)}

theorem reports_before_ask {decoration : Decoration α}
    (hcalls : function.calls meaning = left ++ .ask decoration :: right) :
    left.filterMap Call.reported? = [] := by
  have hordered := function.calls_ordered meaning
  rw [hcalls, List.pairwise_append] at hordered
  rw [List.filterMap_eq_nil_iff]
  intro call hcall
  exact (hordered.2.2 call hcall _ List.mem_cons_self).resolve_left (by simp [Call.asked?])

theorem questions_before_report {found : Report α}
    (hcalls : function.calls meaning = left ++ .report found :: right) :
    left.filterMap Call.asked? = function.questions meaning := by
  have hordered := function.calls_ordered meaning
  rw [hcalls, List.pairwise_append, List.pairwise_cons] at hordered
  have hafter : right.filterMap Call.asked? = [] := by
    rw [List.filterMap_eq_nil_iff]
    intro call hcall
    exact (hordered.2.1.1 call hcall).resolve_right (by simp [Call.reported?])
  rw [← asked?_calls, hcalls, List.filterMap_append, List.filterMap_cons]
  simp [Call.asked?, hafter]

end FunctionNode

section Stopped

variable (resolve : Decoration α → Except ε (Option LibraryMember))
  (take : List (Report α) → Report α → Except ε Unit)

/-- How a run stands that an error of the resolver or of the sink has ended in a function, after
    the functions before it. -/
inductive Stopped (quiet : Transcript α) (before : List (FunctionNode α))
    (function : FunctionNode α) (error : ε) : Transcript α → Prop where
  /-- The resolver threw at one of the questions about the function. All reports on the functions
      before are on record, and none on this one. -/
  | byResolver {asked : List (Decoration α)} {decoration : Decoration α}
      (hasked : asked ++ [decoration] <+: function.questions (meaningOf resolve))
      (hthrows : resolve decoration = .error error)
      (hunbroken : Transcript.Unbroken resolve take
        ⟨(completeRecord (meaningOf resolve) before).asked ++ asked,
          (completeRecord (meaningOf resolve) before).reports⟩) :
      Stopped quiet before function error
        ⟨(completeRecord (meaningOf resolve) before).asked ++ asked ++ [decoration],
          (completeRecord (meaningOf resolve) before).reports⟩
  /-- The sink threw at a report on the function. The reports before it are on record, and all
      questions about the function. -/
  | bySink {n : Nat} {found : Report α} (hfound : quiet.reports[n]? = some found)
      (hfirst : (completeRecord (meaningOf resolve) before).reports.length ≤ n)
      (hlast : n < (completeRecord (meaningOf resolve) (before ++ [function])).reports.length)
      (hthrows : take (quiet.reports.take n) found = .error error)
      (hunbroken : Transcript.Unbroken resolve take
        ⟨(completeRecord (meaningOf resolve) (before ++ [function])).asked,
          quiet.reports.take n⟩) :
      Stopped quiet before function error
        ⟨(completeRecord (meaningOf resolve) (before ++ [function])).asked, quiet.reports.take n⟩

variable {before after : List (FunctionNode α)} {function : FunctionNode α}
  {left right : List (Call α)} {error : ε}

theorem stopped_of_ask {decoration : Decoration α}
    (hcalls : function.calls (meaningOf resolve) = left ++ .ask decoration :: right)
    (hunbroken : ((completeRecord (meaningOf resolve) before).after left).Unbroken resolve take)
    (hthrows : resolve decoration = .error error) :
    let quiet := completeRecord (meaningOf resolve) (before ++ function :: after)
    let transcript := ((completeRecord (meaningOf resolve) before).after left).after
      [.ask decoration]
    transcript.asked <+: quiet.asked ∧ transcript.reports <+: quiet.reports ∧
      Stopped resolve take quiet before function error transcript := by
  have hquestions : function.questions (meaningOf resolve) =
      left.filterMap Call.asked? ++ [decoration] ++ right.filterMap Call.asked? := by
    rw [← FunctionNode.asked?_calls, hcalls]
    simp [Call.asked?]
  have hrecord : (completeRecord (meaningOf resolve) before).after left =
      ⟨(completeRecord (meaningOf resolve) before).asked ++ left.filterMap Call.asked?,
        (completeRecord (meaningOf resolve) before).reports⟩ := by
    rw [Transcript.after, FunctionNode.reports_before_ask hcalls, List.append_nil]
  rw [hrecord] at hunbroken
  rw [hrecord, Transcript.after_ask]
  refine ⟨?_, ?_, .byResolver ?_ hthrows hunbroken⟩
  · simp [completeRecord, hquestions]
  · simp [completeRecord]
  · exact hquestions ▸ List.prefix_append _ _

theorem stopped_of_report {found : Report α}
    (hcalls : function.calls (meaningOf resolve) = left ++ .report found :: right)
    (hunbroken : ((completeRecord (meaningOf resolve) before).after left).Unbroken resolve take)
    (hthrows : take ((completeRecord (meaningOf resolve) before).after left).reports found =
      .error error) :
    let quiet := completeRecord (meaningOf resolve) (before ++ function :: after)
    let transcript := (completeRecord (meaningOf resolve) before).after left
    transcript.asked <+: quiet.asked ∧ transcript.reports <+: quiet.reports ∧
      Stopped resolve take quiet before function error transcript := by
  intro quiet transcript
  have hreports : function.requiredReports (meaningOf resolve) =
      left.filterMap Call.reported? ++ found :: right.filterMap Call.reported? := by
    rw [← FunctionNode.reported?_calls, hcalls]
    simp [Call.reported?]
  have hasked : transcript.asked =
      (completeRecord (meaningOf resolve) (before ++ [function])).asked := by
    simp [transcript, Transcript.after, completeRecord,
      FunctionNode.questions_before_report hcalls]
  have hquiet : quiet.reports = transcript.reports ++ found ::
      (right.filterMap Call.reported? ++ (completeRecord (meaningOf resolve) after).reports) := by
    simp [quiet, transcript, Transcript.after, completeRecord, hreports]
  have htake : quiet.reports.take transcript.reports.length = transcript.reports := by
    rw [hquiet, List.take_left' rfl]
  have hrecord : transcript =
      ⟨(completeRecord (meaningOf resolve) (before ++ [function])).asked,
        quiet.reports.take transcript.reports.length⟩ := by
    rw [htake, ← hasked]
  refine ⟨?_, htake ▸ List.take_prefix _ _, ?_⟩
  · rw [hasked]
    simp [quiet, completeRecord]
  · rw [hrecord]
    refine .bySink ?_ ?_ ?_ (htake ▸ hthrows) (hrecord ▸ hunbroken)
    · rw [hquiet, List.getElem?_append_right le_rfl]
      simp
    · simp [transcript, Transcript.after]
    · simp [transcript, Transcript.after, completeRecord, hreports]

/-- A run either comes to its end, and then nothing has thrown and its record is that of the run in
    which nothing throws, or it ends with the first error, unchanged, and its record is a part of
    that. An error of the resolver leaves all reports on the functions before the one that is being
    looked at, and none on that one. An error of the sink at some report leaves the reports before
    that, when all questions about the function have been asked. -/
theorem faultyRun_completes_or_stops (forest : List (FunctionNode α)) :
    ∃ quiet : Transcript α,
      (quietRun (meaningOf resolve) forest : Except ε Unit × Transcript α) = (.ok (), quiet) ∧
      ((faultyRun resolve take forest = (.ok (), quiet) ∧ quiet.Unbroken resolve take) ∨
        ∃ error before function after transcript,
          faultyRun resolve take forest = (.error error, transcript) ∧
          FunctionNode.preorderOf forest = before ++ function :: after ∧
          transcript.asked <+: quiet.asked ∧ transcript.reports <+: quiet.reports ∧
          Stopped resolve take quiet before function error transcript) := by
  refine ⟨_, quietRun_eq _ forest, ?_⟩
  rw [faultyRun, reportForest_calls resolve take]
  obtain ⟨hdone, hunbroken⟩ | ⟨calls, call, rest, error, hcalls, hunbroken, hthrows, hbroken⟩ :=
    performAll_cases resolve take
      ((FunctionNode.preorderOf forest).flatMap (·.calls (meaningOf resolve))) ⟨[], []⟩
      (Transcript.unbroken_empty resolve take)
  · rw [after_calls] at hdone hunbroken
    exact .inl ⟨hdone, hunbroken⟩
  · obtain ⟨before, function, after, left, right, hforest, rfl, hfunction⟩ :=
      exists_of_flatMap_eq hcalls
    rw [Transcript.after_append, after_calls] at hunbroken hthrows hbroken
    refine .inr ⟨error, before, function, after, _, hbroken, hforest, ?_⟩
    rw [hforest]
    cases call with
    | ask decoration => exact stopped_of_ask resolve take hfunction hunbroken hthrows
    | report found => exact stopped_of_report resolve take hfunction hunbroken hthrows

end Stopped

end NamedParams
