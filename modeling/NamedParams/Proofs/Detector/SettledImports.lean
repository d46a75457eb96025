import Mathlib.Data.List.Induction
import NamedParams.Detector.Step
import NamedParams.Proofs.Detector.CheckedFiles

namespace NamedParams

open NamedParams.Source

@[simp] theorem Source.SourceFile.parse_path (path content : String) :
    (SourceFile.parse path content).path = path := rfl

namespace Session

theorem find?_add (session : Session) (file : ProjectFile) (path : String) :
    { session with files := session.files ++ [file] }.find? path =
      (session.find? path).or (if file.source.path = path then some file else none) := by
  rw [find?, List.find?_append, List.find?_singleton, find?]
  simp only [decide_eq_true_eq]

/-- After its text has been set, a file has that text and the imports that it had settled. -/
theorem find?_create (session : Session) (path content other : String) :
    (session.create path content).find? other =
      if path = other then
        some ⟨SourceFile.parse path content, (session.find? path).bind ProjectFile.settled⟩
      else session.find? other := by
  rw [create]
  cases hold : session.find? path with
  | none =>
    rw [find?_add, SourceFile.parse_path]
    by_cases hother : path = other
    · subst hother
      rw [if_pos rfl, if_pos rfl, hold]
      rfl
    · rw [if_neg hother, if_neg hother, Option.or_none]
  | some old =>
    change (session.update ⟨SourceFile.parse path content, old.settled⟩).find? other = _
    rw [find?_update, SourceFile.parse_path]
    by_cases hother : path = other
    · subst hother
      rw [if_pos rfl, if_pos rfl, hold]
      rfl
    · rw [if_neg hother, if_neg hother]

/-- The imports that are settled for the file at a path. -/
def settled? (session : Session) (path : String) : Option ImportIndex :=
  (session.find? path).bind ProjectFile.settled

theorem settled?_create (session : Session) (path content other : String) :
    (session.create path content).settled? other = session.settled? other := by
  rw [settled?, find?_create]
  by_cases hother : path = other
  · subst hother
    rw [if_pos rfl]
    rfl
  · rw [if_neg hother]
    rfl

theorem settled?_load {session after : Session} {place : List String}
    (hload : session.load place = some after) (path : String) :
    after.settled? path = session.settled? path := by
  rw [load] at hload
  cases hold : session.find? (Path.absolute place) with
  | some old =>
    simp only [hold, Option.some.injEq] at hload
    rw [hload]
  | none =>
    simp only [hold, Option.map_eq_some_iff] at hload
    obtain ⟨content, _, rfl⟩ := hload
    exact session.settled?_create _ content path

end Session

theorem Loading.settled?_add (config : Config) (logger : Logger) (root : List String)
    (loading : Loading) (added path : String) :
    (loading.add config logger root added).session.settled? path =
      loading.session.settled? path := by
  rw [Loading.add]
  split
  · rfl
  · dsimp only
    split
    · rename_i after hload
      exact Session.settled?_load hload path
    · rfl

namespace Session

theorem settled?_loadAll (config : Config) (logger : Logger) (root : List String)
    (session : Session) (paths : List String) (path : String) :
    (session.loadAll config logger root paths).session.settled? path = session.settled? path := by
  have hfold : ∀ loading : Loading, (paths.foldl (fun (loading : Loading) path =>
      loading.add config logger root path) loading).session.settled? path =
      loading.session.settled? path := by
    induction paths with
    | nil => exact fun loading => rfl
    | cons first rest ih =>
      intro loading
      rw [List.foldl_cons, ih, Loading.settled?_add]
  exact hfold ⟨[], [], session⟩

/-- On the way from one session to another, the settled imports of each file have stayed, or there
    were none and those of its text have been settled. -/
def KeepsSettled (before after : Session) : Prop :=
  ∀ path, after.settled? path = before.settled? path ∨
    before.settled? path = none ∧
      ∃ file, after.find? path = some file ∧ file.settled = some file.source.importIndex

theorem Settles.keepsSettled {before after : Session} (hsettles : before.Settles after) :
    before.KeepsSettled after := by
  intro path
  obtain hsame | hsettled := hsettles.files path
  · exact .inl (by rw [settled?, settled?, hsame])
  · rw [settled?, settled?, hsettled]
    cases before.find? path with
    | none => exact .inl rfl
    | some old =>
      rw [Option.map_some, Option.bind_some, Option.bind_some]
      cases hold : old.settled with
      | none =>
        refine .inr ⟨rfl, old.settle, rfl, ?_⟩
        rw [ProjectFile.settle, ProjectFile.index, hold, Option.getD_none]
      | some index =>
        left
        rw [ProjectFile.settle, ProjectFile.index, hold, Option.getD_some]

end Session

namespace Detector

variable (config : Config) (logger : Logger) (root : List String)

/-- No step takes settled imports back, whatever becomes of the text. -/
theorem step_keepsSettled (detector : Detector) (step : Step) :
    detector.session.KeepsSettled (detector.step config logger root step).2.session := by
  cases step with
  | create path content => exact fun other => .inl (Session.settled?_create _ _ content other)
  | write path content => exact fun other => .inl rfl
  | checkPaths paths =>
    have hsettles := checkFiles_settles config logger
      { detector with session := (detector.session.loadAll config logger root paths).session }
      (detector.session.loadAll config logger root paths).loaded
    intro path
    rw [← detector.session.settled?_loadAll config logger root paths path]
    exact hsettles.keepsSettled path
  | checkFiles paths =>
    rw [Detector.step]
    split
    · exact fun path => .inl rfl
    · exact (checkFiles_settles config logger detector _).keepsSettled
  | checkOne path =>
    rw [Detector.step]
    split
    · rename_i file hfile
      exact (Session.settles_update config hfile).keepsSettled
    · exact fun path => .inl rfl

theorem run_append (detector : Detector) (steps : List Step) (last : Step) :
    (run config logger root detector (steps ++ [last])).2 =
      ((run config logger root detector steps).2.step config logger root last).2 := by
  induction steps generalizing detector with
  | nil => rfl
  | cons first rest ih => exact ih (detector.step config logger root first).2

/-- After some steps, and not before all of them, a file has settled imports. They are those of the
    text that it has then. -/
structure FirstSettled (detector : Detector) (path : String) (steps : List Step)
    (file : ProjectFile) : Prop where
  found : (run config logger root detector steps).2.session.find? path = some file
  settled : file.settled = some file.source.importIndex
  first : ∀ earlier, earlier <+: steps → earlier ≠ steps →
    (run config logger root detector earlier).2.session.settled? path = none

/-- When a file has no settled imports after some steps, it had none on the way. -/
theorem settled?_eq_none_of_prefix (detector : Detector) {path : String} {steps : List Step}
    (hnone : (run config logger root detector steps).2.session.settled? path = none)
    {earlier : List Step} (hearlier : earlier <+: steps) :
    (run config logger root detector earlier).2.session.settled? path = none := by
  induction steps using List.reverseRecOn with
  | nil =>
    rw [List.prefix_nil.mp hearlier]
    exact hnone
  | append_singleton steps last ih =>
    obtain heq | hshorter := List.prefix_concat_iff.mp hearlier
    · rw [heq]
      exact hnone
    · rw [run_append] at hnone
      refine ih ?_ hshorter
      obtain hsame | ⟨hbefore, _⟩ := step_keepsSettled config logger root _ last path
      · rw [← hsame]
        exact hnone
      · exact hbefore

/-- Settled imports are those of the text that the file had when they were settled for the first
    time, if none were settled at the start. -/
theorem run_settled (detector : Detector) {path : String}
    (hstart : detector.session.settled? path = none) (steps : List Step) {index : ImportIndex}
    (hindex : (run config logger root detector steps).2.session.settled? path = some index) :
    ∃ before, before <+: steps ∧ ∃ file,
      FirstSettled config logger root detector path before file ∧
        index = file.source.importIndex := by
  -- The step lemma looks at the last step, so the steps are taken off from the end.
  induction steps using List.reverseRecOn with
  | nil =>
    rw [run, hstart] at hindex
    cases hindex
  | append_singleton steps last ih =>
    rw [run_append] at hindex
    obtain hsame | ⟨hnone, file, hfile, hsettled⟩ :=
      step_keepsSettled config logger root (run config logger root detector steps).2 last path
    · rw [hsame] at hindex
      obtain ⟨before, hbefore, hfirst⟩ := ih hindex
      exact ⟨before, hbefore.trans (List.prefix_append _ _), hfirst⟩
    · refine ⟨steps ++ [last], List.prefix_refl _, file, ⟨?_, hsettled, ?_⟩, ?_⟩
      · rw [run_append]
        exact hfile
      · intro earlier hearlier hne
        obtain heq | hshorter := List.prefix_concat_iff.mp hearlier
        · exact absurd heq hne
        · exact settled?_eq_none_of_prefix config logger root detector hnone hshorter
      · rw [Session.settled?, hfile, Option.bind_some, hsettled] at hindex
        exact (Option.some.inj hindex).symm

end Detector

end NamedParams
