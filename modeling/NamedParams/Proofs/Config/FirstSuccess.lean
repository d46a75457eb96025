import Mathlib.Data.List.Forall2
import NamedParams.Proofs.Config.Recall
import NamedParams.Proofs.Outcomes

namespace NamedParams

namespace ConfigFile

/-- The value that the file at a place writes, with the settings of the files that it builds on. -/
def valueAt (tree : FileTree) (place : List String) : Except ConfigFault (Option Json) :=
  readValue tree (tree.files.length + 1) [] place

theorem read_eq_ok {tree : FileTree} {place : List String} {found : Option ConfigFile}
    (hread : read tree place = .ok found) :
    found = none ∧ valueAt tree place = .ok (some .null) ∨
      ∃ content, found = some ⟨place, content⟩ ∧ valueAt tree place = .ok content := by
  rw [read, ← valueAt] at hread
  obtain ⟨content, hvalue, hread⟩ := bind_eq_ok_iff.mp hread
  rw [hvalue]
  split at hread
  · cases hread
    exact .inl ⟨rfl, rfl⟩
  · cases hread
    exact .inr ⟨content, rfl, rfl⟩

end ConfigFile

namespace ConfigLoader

theorem exists_content_of_findIn {tree : FileTree} {directory : List String} {names : List String}
    {file : ConfigFile} (hfound : findIn tree directory names = .ok (some file)) :
    ∃ content, file.content = some content := by
  induction names with
  | nil => cases hfound
  | cons name names ih =>
    rw [findIn] at hfound
    split at hfound
    · split at hfound
      · rename_i hcontent
        cases hfound
        exact Option.isSome_iff_exists.mp hcontent
      · exact ih hfound
    · exact ih hfound
    · exact ih hfound
    · exact ih hfound
    · cases hfound

/-- Files without content are not what a search looks for. -/
theorem exists_content_of_firstFound {tree : FileTree} {places : List (List String)}
    {file : ConfigFile} (hfound : firstFound tree places = .ok (some file)) :
    ∃ content, file.content = some content := by
  induction places with
  | nil => cases hfound
  | cons place rest ih =>
    rw [firstFound] at hfound
    split at hfound
    · exact ih hfound
    · rw [searchPlace] at hfound
      split at hfound
      · exact exists_content_of_findIn hfound
      · cases hfound
      · cases hfound
      · cases hfound

end ConfigLoader

namespace ConfigRequest

/-- What a request fixes: a configuration, and the file in use. There is no such file when
    configurations are off, when a search finds none, and when the file that was asked for holds
    null. A file that was asked for is in use even if it is empty. -/
inductive Fixes (request : ConfigRequest) (tree : FileTree) (root : List String) :
    LoadedConfig → Prop where
  | off (hoff : request.isOff = true) : Fixes request tree root ⟨.default, none⟩
  | null {path : String} (hon : request.isOff = false) (hgiven : request.given? = some path)
    (hvalue : ConfigFile.valueAt tree (Path.resolve root path) = .ok (some .null)) :
    Fixes request tree root ⟨.default, none⟩
  | empty {path : String} (hon : request.isOff = false) (hgiven : request.given? = some path)
    (hvalue : ConfigFile.valueAt tree (Path.resolve root path) = .ok none) :
    Fixes request tree root ⟨.default, some (Path.resolve root path)⟩
  | given {path : String} {value : Json} {config : Config} (hon : request.isOff = false)
    (hgiven : request.given? = some path)
    (hvalue : ConfigFile.valueAt tree (Path.resolve root path) = .ok (some value))
    (hconfig : Config.ofJson? root (some (Path.absolute (Path.resolve root path))) value =
      some config) :
    Fixes request tree root ⟨config, some (Path.resolve root path)⟩
  | nothing (hon : request.isOff = false) (hsearch : request.given? = none)
    (hfound : ConfigLoader.firstFound tree (request.ladder tree root) = .ok none) :
    Fixes request tree root ⟨.default, none⟩
  | found {place : List String} {value : Json} {config : Config} (hon : request.isOff = false)
    (hsearch : request.given? = none)
    (hfound : ConfigLoader.firstFound tree (request.ladder tree root) =
      .ok (some ⟨place, some value⟩))
    (hconfig : Config.ofJson? root (some (Path.absolute place)) value = some config) :
    Fixes request tree root ⟨config, some place⟩

theorem exists_config_of_configOf {root place : List String} {value : Json}
    {loaded : LoadedConfig}
    (hconfig : ConfigLoader.configOf root (some ⟨place, some value⟩) = .ok loaded) :
    ∃ config, Config.ofJson? root (some (Path.absolute place)) value = some config ∧
      loaded = ⟨config, some place⟩ := by
  rw [ConfigLoader.configOf] at hconfig
  split at hconfig
  · rename_i config hvalue
    cases hconfig
    exact ⟨config, hvalue, rfl⟩
  · cases hconfig

section Fixes

variable {request : ConfigRequest} {tree : FileTree} {root : List String} {loaded : LoadedConfig}

theorem fixes_of_given (hon : request.isOff = false) {path : String}
    (hgiven : request.given? = some path) {found : Option ConfigFile}
    (hread : ConfigFile.read tree (Path.resolve root path) = .ok found)
    (hconfig : ConfigLoader.configOf root found = .ok loaded) : request.Fixes tree root loaded := by
  obtain ⟨rfl, hvalue⟩ | ⟨content, rfl, hvalue⟩ := ConfigFile.read_eq_ok hread
  · cases hconfig
    exact .null hon hgiven hvalue
  · cases content with
    | none =>
      cases hconfig
      exact .empty hon hgiven hvalue
    | some value =>
      obtain ⟨config, hdescribed, rfl⟩ := exists_config_of_configOf hconfig
      exact .given hon hgiven hvalue hdescribed

theorem fixes_of_search (hon : request.isOff = false) (hsearch : request.given? = none)
    {found : Option ConfigFile}
    (hfound : ConfigLoader.firstFound tree (request.ladder tree root) = .ok found)
    (hconfig : ConfigLoader.configOf root found = .ok loaded) : request.Fixes tree root loaded := by
  cases found with
  | none =>
    cases hconfig
    exact .nothing hon hsearch hfound
  | some file =>
    obtain ⟨place, content⟩ := file
    obtain ⟨value, rfl⟩ := ConfigLoader.exists_content_of_firstFound hfound
    obtain ⟨config, hdescribed, rfl⟩ := exists_config_of_configOf hconfig
    exact .found hon hsearch hfound hdescribed

theorem fixes_of_outcome (houtcome : request.outcome tree root = .ok loaded) :
    request.Fixes tree root loaded := by
  rw [outcome] at houtcome
  cases hoff : request.isOff with
  | true =>
    rw [hoff] at houtcome
    cases houtcome
    exact .off hoff
  | false =>
    rw [hoff] at houtcome
    obtain ⟨found, hfile, hconfig⟩ := bind_eq_ok_iff.mp houtcome
    rw [file?] at hfile
    split at hfile
    · rename_i path hgiven
      split at hfile
      · rename_i hread
        cases hfile
        exact fixes_of_given hoff hgiven hread hconfig
      · cases hfile
      · cases hfile
    · rename_i hsearch
      rcases hfound : ConfigLoader.firstFound tree (request.ladder tree root) with fault | here
      · rw [hfound] at hfile
        cases hfile
      · rw [hfound] at hfile
        cases hfile
        exact fixes_of_search hoff hsearch hfound hconfig

end Fixes

end ConfigRequest

namespace ConfigSession

variable {root : List String} {session : ConfigSession}

/-- What a step answers when a configuration has been loaded. -/
def Step.answerFrom (loaded : LoadedConfig) : Step → Answer
  | .load _ => .loaded loaded
  | .path => .path (loaded.file.map Path.absolute)
  | .defaults => .defaults .default
  | .write _ => .written

/-- What a step may answer as long as nothing has been loaded. No load fails that wants no
    configuration. -/
inductive Step.IsUnset : Step → Answer → Prop where
  | load {request : ConfigRequest} (failure : ConfigFailure) (hon : request.isOff = false) :
    IsUnset (.load request) (.failed failure)
  | path : IsUnset .path (.path none)
  | defaults : IsUnset .defaults (.defaults .default)
  | write (tree : FileTree) : IsUnset (.write tree) .written

theorem step_load_answer (root : List String) (session : ConfigSession) (request : ConfigRequest) :
    (session.step root (.load request)).1 =
      .ofLoad (session.loader.load session.tree root request).1 := rfl

theorem run_cons_answers (root : List String) (session : ConfigSession) (step : Step)
    (rest : List Step) :
    (session.run root (step :: rest)).1 =
      (session.step root step).1 :: ((session.step root step).2.run root rest).1 := rfl

theorem run_cons_session (root : List String) (session : ConfigSession) (step : Step)
    (rest : List Step) :
    (session.run root (step :: rest)).2 = ((session.step root step).2.run root rest).2 := rfl

variable (root) in
theorem step_of_loaded {loaded : LoadedConfig} (hloaded : session.loader.loaded = some loaded)
    (step : Step) :
    (session.step root step).1 = step.answerFrom loaded ∧
      (session.step root step).2.loader = session.loader := by
  cases step with
  | load request =>
    rw [ConfigSession.step, ConfigLoader.load_of_loaded hloaded]
    exact ⟨rfl, rfl⟩
  | path =>
    refine ⟨?_, rfl⟩
    rw [ConfigSession.step, ConfigLoader.path?, hloaded]
    rfl
  | defaults => exact ⟨rfl, rfl⟩
  | write tree => exact ⟨rfl, rfl⟩

/-- Once a configuration has been loaded, nothing changes it. -/
theorem run_of_loaded {loaded : LoadedConfig} (hloaded : session.loader.loaded = some loaded)
    (steps : List Step) :
    (session.run root steps).1 = steps.map (·.answerFrom loaded) ∧
      (session.run root steps).2.loader = session.loader := by
  induction steps generalizing session with
  | nil => exact ⟨rfl, rfl⟩
  | cons step rest ih =>
    obtain ⟨hanswer, hkept⟩ := step_of_loaded root hloaded step
    obtain ⟨hanswers, hrest⟩ := ih (hkept ▸ hloaded)
    constructor
    · rw [run_cons_answers, List.map_cons, hanswer, hanswers]
    · exact hrest.trans hkept

theorem blank_start (root : List String) (tree : FileTree) : (start tree).loader.Blank root :=
  ConfigLoader.blank_start

/-- As long as nothing has been loaded, a step loads what a new loader would load, or still nothing
    is loaded. -/
theorem step_of_blank (hblank : session.loader.Blank root) (step : Step) :
    (∃ request loaded, step = .load request ∧
      (session.step root step).1 = .loaded loaded ∧
      (session.step root step).2.loader.loaded = some loaded ∧
      request.outcome session.tree root = .ok loaded) ∨
    step.IsUnset (session.step root step).1 ∧ (session.step root step).2.loader.Blank root := by
  cases step with
  | load request =>
    obtain ⟨loaded, hanswer, hloaded, houtcome⟩ | ⟨failure, hanswer, hon, hafter, -⟩ :=
      hblank.load session.tree request
    · refine .inl ⟨request, loaded, rfl, ?_, hloaded, houtcome⟩
      rw [step_load_answer, hanswer]
      rfl
    · refine .inr ⟨?_, hafter⟩
      rw [step_load_answer, hanswer]
      exact .load failure hon
  | path =>
    refine .inr ⟨?_, hblank⟩
    rw [ConfigSession.step, ConfigLoader.path?, hblank.loaded]
    exact .path
  | defaults => exact .inr ⟨.defaults, hblank⟩
  | write tree => exact .inr ⟨.write tree, hblank⟩

variable (root session) in
/-- All along some steps, nothing is loaded: loads fail, no path is answered, and neither a
    configuration nor a path is stored. -/
structure Unset (steps : List Step) : Prop where
  answers : List.Forall₂ Step.IsUnset steps (session.run root steps).1
  stored : ∀ before, before <+: steps →
    (session.run root before).2.loader.loaded = none ∧
      (session.run root before).2.loader.path? = none

theorem Unset.nil (hblank : session.loader.Blank root) : session.Unset root [] := by
  refine ⟨.nil, fun before hbefore => ?_⟩
  rw [List.prefix_nil.mp hbefore]
  refine ⟨hblank.loaded, ?_⟩
  rw [run, ConfigLoader.path?, hblank.loaded]
  rfl

theorem Unset.cons (hblank : session.loader.Blank root) {step : Step} {rest : List Step}
    (hanswer : step.IsUnset (session.step root step).1)
    (hrest : (session.step root step).2.Unset root rest) : session.Unset root (step :: rest) := by
  refine ⟨.cons hanswer hrest.answers, fun before hbefore => ?_⟩
  obtain rfl | ⟨more, rfl, hmore⟩ := List.prefix_cons_iff.mp hbefore
  · exact (Unset.nil hblank).stored [] (List.prefix_refl _)
  · exact hrest.stored more hmore

/-- Steps from where nothing has been loaded: nothing is loaded all along, or they divide at the
    first load that succeeds. It loads what a new loader would load, and decides all answers that
    come after it. -/
theorem run_of_blank (hblank : session.loader.Blank root) (steps : List Step) :
    session.Unset root steps ∧ (session.run root steps).2.loader.Blank root ∨
    ∃ before request after loaded, steps = before ++ .load request :: after ∧
      session.Unset root before ∧
      request.outcome (session.run root before).2.tree root = .ok loaded ∧
      (session.run root steps).1 =
        (session.run root before).1 ++ (.load request :: after).map (·.answerFrom loaded) ∧
      ∀ more, more <+: after →
        (session.run root (before ++ .load request :: more)).2.loader.loaded = some loaded := by
  induction steps generalizing session with
  | nil => exact .inl ⟨Unset.nil hblank, hblank⟩
  | cons step rest ih =>
    obtain ⟨request, loaded, rfl, hanswer, hloaded, houtcome⟩ | ⟨hanswer, hafter⟩ :=
      step_of_blank hblank step
    · right
      refine ⟨[], request, rest, loaded, rfl, Unset.nil hblank, houtcome, ?_, fun more _ => ?_⟩
      · rw [run_cons_answers, hanswer, (run_of_loaded hloaded rest).1]
        rfl
      · rw [List.nil_append, run_cons_session, (run_of_loaded hloaded more).2]
        exact hloaded
    · obtain ⟨hunset, hend⟩ |
        ⟨before, request, after, loaded, rfl, hunset, houtcome, hanswers, hkept⟩ := ih hafter
      · exact .inl ⟨hunset.cons hblank hanswer, hend⟩
      · refine .inr ⟨step :: before, request, after, loaded, rfl, hunset.cons hblank hanswer,
          houtcome, ?_, hkept⟩
        rw [run_cons_answers, hanswers]
        rfl

/-- The first load that succeeds decides. Before it, no path is answered, and a load that fails
    leaves neither a configuration nor a path behind. From then on every load succeeds with the same
    configuration, whatever it asks for and whatever has been written, and the path answered is
    always the one that was fixed with it. The defaults never change. A load that comes upon a
    configuration that is a program fails here, as what it computes is outside of the model
    (`ConfigFile.readFormat`). -/
theorem run_keeps_first_success (root : List String) (tree : FileTree) (steps : List Step) :
    (start tree).Unset root steps ∨
    ∃ before request after loaded, steps = before ++ .load request :: after ∧
      (start tree).Unset root before ∧
      request.Fixes ((start tree).run root before).2.tree root loaded ∧
      ((start tree).run root steps).1 =
        ((start tree).run root before).1 ++ (.load request :: after).map (·.answerFrom loaded) ∧
      ∀ more, more <+: after →
        ((start tree).run root (before ++ .load request :: more)).2.loader.loaded =
          some loaded := by
  obtain ⟨hunset, -⟩ |
    ⟨before, request, after, loaded, hsteps, hunset, houtcome, hanswers, hkept⟩ :=
      run_of_blank (blank_start root tree) steps
  · exact .inl hunset
  · exact .inr ⟨before, request, after, loaded, hsteps, hunset,
      ConfigRequest.fixes_of_outcome houtcome, hanswers, hkept⟩

end ConfigSession

end NamedParams
