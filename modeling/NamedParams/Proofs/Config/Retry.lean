import Mathlib.Data.List.Induction
import NamedParams.Proofs.Config.FirstSuccess

namespace NamedParams.ConfigSession

variable {root : List String}

/-- The configuration that an answer brings. -/
def Answer.loaded? : Answer → Option LoadedConfig
  | .loaded config => some config
  | _ => none

theorem run_append_answers (root : List String) (session : ConfigSession)
    (steps more : List Step) :
    (session.run root (steps ++ more)).1 =
      (session.run root steps).1 ++ ((session.run root steps).2.run root more).1 := by
  induction steps generalizing session with
  | nil => rfl
  | cons step rest ih =>
    rw [List.cons_append, run_cons_answers, run_cons_answers, run_cons_session, ih]
    rfl

theorem run_append_session (root : List String) (session : ConfigSession)
    (steps more : List Step) :
    (session.run root (steps ++ more)).2 = ((session.run root steps).2.run root more).2 := by
  induction steps generalizing session with
  | nil => rfl
  | cons step rest ih =>
    rw [List.cons_append, run_cons_session, run_cons_session, ih]

/-- Where all loads have failed, nothing is loaded. -/
theorem blank_of_failed {tree : FileTree} {steps : List Step}
    (hfailed : ∀ answer ∈ ((start tree).run root steps).1, answer.loaded? = none) :
    ((start tree).run root steps).2.loader.Blank root := by
  obtain ⟨-, hblank⟩ | ⟨before, request, after, loaded, -, -, -, hanswers, -⟩ :=
    run_of_blank (blank_start root tree) steps
  · exact hblank
  · have hmem : Answer.loaded loaded ∈ ((start tree).run root steps).1 := by
      rw [hanswers]
      exact List.mem_append_right _ List.mem_cons_self
    cases hfailed _ hmem

/-- Whether one of some steps was a load that came upon a file and failed because its content is no
    configuration. -/
def HasRefused (root : List String) (session : ConfigSession) (steps : List Step)
    (file : ConfigFile) : Prop :=
  ∃ before request, before ++ [.load request] <+: steps ∧
    request.file? (session.run root before).2.tree root = .ok (some file) ∧
    file.IsRefused root ∧
    ((session.run root before).2.step root (.load request)).1 =
      .failed (.notAnObject (Path.absolute file.place))

theorem HasRefused.append {session : ConfigSession} {steps : List Step} {file : ConfigFile}
    (hrefused : session.HasRefused root steps file) (more : List Step) :
    session.HasRefused root (steps ++ more) file := by
  obtain ⟨before, request, hbefore, hfile⟩ := hrefused
  exact ⟨before, request, hbefore.trans (List.prefix_append _ _), hfile⟩

/-- All that is remembered where all loads have failed are files that have been refused. -/
theorem hasRefused_of_remembered {tree : FileTree} {steps : List Step}
    (hfailed : ∀ answer ∈ ((start tree).run root steps).1, answer.loaded? = none) :
    ∀ found ∈ ((start tree).run root steps).2.loader.remembered,
      ∃ file, found = some file ∧ (start tree).HasRefused root steps file := by
  -- What a step leaves behind depends on those before it, so the steps are taken off from the end.
  induction steps using List.reverseRecOn with
  | nil => exact List.forall_mem_nil _
  | append_singleton steps last ih =>
    rw [run_append_answers] at hfailed
    obtain ⟨hbefore, hlast⟩ := List.forall_mem_append.mp hfailed
    have hkept {found : Option ConfigFile}
        (hfound : found ∈ ((start tree).run root steps).2.loader.remembered) :
        ∃ file, found = some file ∧ (start tree).HasRefused root (steps ++ [last]) file := by
      obtain ⟨file, rfl, hrefused⟩ := ih hbefore found hfound
      exact ⟨file, rfl, hrefused.append [last]⟩
    rw [run_append_session]
    intro found hfound
    cases last with
    | path => exact hkept hfound
    | defaults => exact hkept hfound
    | write tree => exact hkept hfound
    | load request =>
      obtain ⟨loaded, hanswer, -⟩ | ⟨failure, hanswer, -, -, hnew⟩ :=
        (blank_of_failed hbefore).load ((start tree).run root steps).2.tree request
      · have hnone :
            (((start tree).run root steps).2.step root (.load request)).1.loaded? = none :=
          hlast _ List.mem_cons_self
        rw [step_load_answer, hanswer] at hnone
        cases hnone
      · obtain hold | ⟨hfile, hconfig⟩ := hnew found hfound
        · exact hkept hold
        · obtain ⟨file, rfl, hrefused⟩ := ConfigLoader.isRefused_of_configOf hconfig
          refine ⟨file, rfl, steps, request, List.prefix_refl _, hfile, hrefused, ?_⟩
          rw [ConfigFile.IsRefused, hconfig] at hrefused
          cases hrefused
          rw [step_load_answer, hanswer]
          rfl

/-- The answer to a load that has been refused is one of the answers. -/
theorem HasRefused.failed_mem {session : ConfigSession} {steps : List Step} {file : ConfigFile}
    (hrefused : session.HasRefused root steps file) :
    .failed (.notAnObject (Path.absolute file.place)) ∈ (session.run root steps).1 := by
  obtain ⟨before, request, ⟨more, rfl⟩, -, -, hanswer⟩ := hrefused
  rw [List.append_assoc, run_append_answers, ← hanswer]
  exact List.mem_append_right _ List.mem_cons_self

/-- Where nothing has been loaded, a load fails on a file that is remembered, and else it is
    answered by what there is. -/
theorem step_load_of_blank {session : ConfigSession} (hblank : session.loader.Blank root)
    (request : ConfigRequest) :
    (session.step root (.load request)).1 =
      match session.loader.recalled session.tree root request with
      | some file => .failed (.notAnObject (Path.absolute file.place))
      | none => .ofLoad (request.outcome session.tree root) := by
  rw [step_load_answer, hblank.load_answer]
  cases session.loader.recalled session.tree root request <;> rfl

theorem step_load_start (root : List String) (tree : FileTree) (request : ConfigRequest) :
    ((start tree).step root (.load request)).1 = .ofLoad (request.outcome tree root) := by
  rw [step_load_of_blank (blank_start root tree)]
  rw [show (start tree).loader.recalled (start tree).tree root request = none from
    ConfigLoader.recalled_start]
  rfl

/-- After loads that have all failed, the next one is answered as by a new loader exactly when the
    file that is remembered for it, if there is one, would be refused once more. What is remembered
    has been refused before: a load came upon the file and failed because of its content. So a
    failure to find or to read a file leaves no trace. Configurations that are programs are outside
    of the model, so that here a load fails to read them (`ConfigFile.readFormat`). -/
theorem run_retry_fresh_iff {tree : FileTree} {steps : List Step}
    (hfailed : ∀ answer ∈ ((start tree).run root steps).1, answer.loaded? = none)
    (request : ConfigRequest) :
    let session := ((start tree).run root steps).2
    let recalled := session.loader.recalled session.tree root request
    ((session.step root (.load request)).1 = ((start session.tree).step root (.load request)).1 ↔
      ∀ file, recalled = some file →
        ((start session.tree).step root (.load request)).1 =
          .failed (.notAnObject (Path.absolute file.place))) ∧
    (∀ file, recalled = some file → (start tree).HasRefused root steps file) ∧
    ((∀ place, .failed (.notAnObject place) ∉ ((start tree).run root steps).1) →
      (session.step root (.load request)).1 =
        ((start session.tree).step root (.load request)).1) := by
  intro session recalled
  have hanswer := step_load_of_blank (blank_of_failed hfailed) request
  have hrefused : ∀ file, recalled = some file → (start tree).HasRefused root steps file := by
    intro file hfile
    obtain ⟨-, hmemory⟩ := ConfigLoader.recalled_eq_some.mp hfile
    obtain ⟨_, hsame, hrefused⟩ :=
      hasRefused_of_remembered hfailed _ (ConfigLoader.mem_of_memory? hmemory)
    cases hsame
    exact hrefused
  have hiff : (session.step root (.load request)).1 =
        ((start session.tree).step root (.load request)).1 ↔
      ∀ file, recalled = some file → ((start session.tree).step root (.load request)).1 =
        .failed (.notAnObject (Path.absolute file.place)) := by
    rw [hanswer]
    change _ ↔ ∀ file, session.loader.recalled session.tree root request = some file → _
    cases session.loader.recalled session.tree root request with
    | none => exact iff_of_true (step_load_start root session.tree request).symm (by simp)
    | some file => simp [eq_comm]
  refine ⟨hiff, hrefused, fun hread => hiff.mpr fun file hfile => ?_⟩
  exact absurd (hrefused file hfile).failed_mem (hread _)

theorem run_retry_fresh_iff_of_malformedFile :
    let search : ConfigRequest := ⟨none, none, false⟩
    let other : ConfigRequest := ⟨some "other.json", none, false⟩
    let tree (text : String) : FileTree :=
      ⟨[(["p", ".paramguardrc.json"], text), (["p", "other.json"], "[]")], []⟩
    let steps := [.load other, .load search, .write (tree "\x7b\x7d")]
    let session := ((start (tree "\x7b")).run ["p"] steps).2
    (∀ answer ∈ ((start (tree "\x7b")).run ["p"] steps).1, answer.loaded? = none) ∧
      (session.step ["p"] (.load search)).1 = .loaded ⟨.default, some ["p", ".paramguardrc.json"]⟩ ∧
      (session.step ["p"] (.load search)).1 =
        ((start session.tree).step ["p"] (.load search)).1 := by
  intro search other tree steps session
  have hfailed : ∀ answer ∈ ((start (tree "\x7b")).run ["p"] steps).1, answer.loaded? = none := by
    decide +kernel
  have hnone : session.loader.recalled session.tree ["p"] search = none := by
    rw [← Option.isNone_iff_eq_none]
    decide +kernel
  obtain ⟨hfresh, -⟩ := run_retry_fresh_iff hfailed search
  refine ⟨hfailed, by decide +kernel, hfresh.mpr fun file hfile => ?_⟩
  cases hnone.symm.trans hfile

/-- A file that was refused and has been written anew is refused once more. -/
theorem step_not_fresh_of_refusedFile :
    let search : ConfigRequest := ⟨none, none, false⟩
    let tree (text : String) : FileTree := ⟨[(["p", ".paramguardrc.json"], text)], []⟩
    let failed := .failed (.notAnObject "/p/.paramguardrc.json")
    let (answers, session) :=
      (start (tree "[]")).run ["p"] [.load search, .write (tree "\x7b\x7d")]
    answers = [failed, .written] ∧
      (session.step ["p"] (.load search)).1 = failed ∧
      ((start session.tree).step ["p"] (.load search)).1 =
        .loaded ⟨.default, some ["p", ".paramguardrc.json"]⟩ := by
  decide +kernel

end NamedParams.ConfigSession
