import NamedParams.Proofs.Config.ReadFiles

namespace NamedParams

namespace ConfigRequest

/-- Whether a request asks for the file at a path. -/
def Asks (request : ConfigRequest) (path : String) : Prop :=
  request.isOff = false ∧ request.path = some path ∧ path ≠ ""

/-- Whether a request leaves it to a search to find a file. -/
def Searches (request : ConfigRequest) : Prop :=
  request.isOff = false ∧ ∀ path, request.path = some path → path = ""

/-- Where a search starts. -/
def startPlace (request : ConfigRequest) (root : List String) : List String :=
  Path.resolve root (request.start.getD "")

/-- The places of the files that a request may read. -/
def places (request : ConfigRequest) (tree : FileTree) (root : List String) : List (List String) :=
  match request.given? with
  | some path => [Path.resolve root path]
  | none => ConfigLoader.placesIn tree (request.ladder tree root)

/-- Whether a search can start, and comes upon a place. -/
def ComesUpon (request : ConfigRequest) (tree : FileTree) (root place : List String) : Prop :=
  request.Searches ∧ tree.kindOf (request.startPlace root) ≠ .error .notDirectory ∧
    ConfigFile.ComesUpon tree (request.places tree root) place

/-- What a request fails with, and the file that is to blame: the path as it was given if that
    cannot be read, the place of the file if its value is refused, and none if a search fails. -/
inductive Fails (request : ConfigRequest) (tree : FileTree) (root : List String) :
    FailureCode → Option String → Prop where
  | missing {path : String} (hasks : request.Asks path)
    (hkind : tree.kindOf (Path.resolve root path) = .error .missing) :
    Fails request tree root .configNotFound (some path)
  | unreadable {path : String} (hasks : request.Asks path)
    (hkind : tree.kindOf (Path.resolve root path) = .ok .directory ∨
      tree.kindOf (Path.resolve root path) = .error .notDirectory) :
    Fails request tree root .invalidConfig (some path)
  | malformed {path : String} (hasks : request.Asks path)
    (hwrites : ConfigFile.Writes tree (Path.resolve root path) (.error .malformed)) :
    Fails request tree root .invalidConfig (some path)
  | refused {path : String} {value : Json} (hasks : request.Asks path)
    (hwrites : ConfigFile.Writes tree (Path.resolve root path) (.ok (some value)))
    (hnull : value ≠ .null) (hobject : ∀ members, value ≠ .object members) :
    Fails request tree root .invalidConfig (some (Path.absolute (Path.resolve root path)))
  | blocked (hsearches : request.Searches)
    (hkind : tree.kindOf (request.startPlace root) = .error .notDirectory) :
    Fails request tree root .invalidConfig none
  | foundMalformed {place : List String} (hcomes : request.ComesUpon tree root place)
    (hwrites : ConfigFile.Writes tree place (.error .malformed)) :
    Fails request tree root .invalidConfig none
  | foundRefused {place : List String} {value : Json} (hcomes : request.ComesUpon tree root place)
    (hwrites : ConfigFile.Writes tree place (.ok (some value)))
    (hnull : value ≠ .null) (hobject : ∀ members, value ≠ .object members) :
    Fails request tree root .invalidConfig (some (Path.absolute place))

/-- Only values that are no objects are refused, with the file that they come from. -/
theorem configOf_eq_error_iff {root : List String} {found : Option ConfigFile}
    {failure : ConfigFailure} :
    ConfigLoader.configOf root found = .error failure ↔
      ∃ place value, found = some ⟨place, some value⟩ ∧ (∀ members, value ≠ .object members) ∧
        failure = .notAnObject (Path.absolute place) := by
  constructor
  · intro hfails
    match found with
    | none => cases hfails
    | some ⟨place, none⟩ => cases hfails
    | some ⟨place, some value⟩ =>
      refine ⟨place, value, rfl, ?_, ?_⟩
      · rintro members rfl
        cases hfails
      · rw [ConfigLoader.configOf] at hfails
        split at hfails
        · cases hfails
        · cases hfails
          rfl
  · rintro ⟨place, value, rfl, hobject, rfl⟩
    cases value with
    | object members => exact absurd rfl (hobject members)
    | _ => rfl

section Requests

variable {request : ConfigRequest} {tree : FileTree} {root : List String}

theorem given?_eq_some_iff {path : String} :
    request.given? = some path ↔ request.path = some path ∧ path ≠ "" := by
  rw [given?, Option.filter_eq_some_iff, bne_iff_ne]

theorem given?_eq_none_iff :
    request.given? = none ↔ ∀ path, request.path = some path → path = "" := by
  rw [given?, Option.filter_eq_none_iff]
  simp

theorem outcome_of_isOff (hoff : request.isOff = true) :
    request.outcome tree root = .ok ⟨.default, none⟩ := by
  rw [outcome, if_pos hoff]

theorem outcome_of_on (hon : request.isOff = false) :
    request.outcome tree root = request.file? tree root >>= ConfigLoader.configOf root := by
  rw [outcome, if_neg (by simp [hon])]

theorem Asks.given? {path : String} (hasks : request.Asks path) : request.given? = some path :=
  given?_eq_some_iff.mpr hasks.2

theorem Searches.given? (hsearches : request.Searches) : request.given? = none :=
  given?_eq_none_iff.mpr hsearches.2

theorem Asks.file?_eq {path : String} (hasks : request.Asks path) :
    request.file? tree root =
      match ConfigFile.read tree (Path.resolve root path) with
      | .ok file => .ok file
      | .error .missing => .error (.notFound path)
      | .error _ => .error (.notRead (some path)) := by
  rw [file?]
  split
  · rename_i other hother
    obtain rfl : other = path := Option.some.inj (hother.symm.trans hasks.given?)
    rfl
  · rename_i hnone
    cases hnone.symm.trans hasks.given?

theorem Searches.file?_eq (hsearches : request.Searches) :
    request.file? tree root =
      if tree.kindOf (request.startPlace root) = .error .notDirectory then .error (.notRead none)
      else (ConfigFile.firstAt tree (request.places tree root)).mapError fun _ =>
        .notRead none := by
  rw [file?, hsearches.given?]
  dsimp only
  rw [ladder, ConfigLoader.firstFound_ladder, ← startPlace]
  split
  · rfl
  · rw [places, hsearches.given?]
    rfl

/-- The file that is asked for stands alone if all that may be read do. -/
theorem standsAlone_of_given?
    (halone : ∀ place ∈ request.places tree root, ConfigFile.StandsAlone tree place)
    {path : String} (hgiven : request.given? = some path) :
    ConfigFile.StandsAlone tree (Path.resolve root path) := by
  refine halone _ ?_
  rw [places, hgiven]
  exact List.mem_singleton_self _

/-- Whatever a request fails with, its outcome fails with. -/
theorem Fails.outcome (halone : ∀ place ∈ request.places tree root, ConfigFile.StandsAlone tree place)
    {code : FailureCode} {file : Option String} (hfails : request.Fails tree root code file) :
    ∃ failure, request.outcome tree root = .error failure ∧ failure.code = code ∧
      failure.file = file := by
  have hgiven {path : String} (hasks : request.Asks path) :
      ConfigFile.StandsAlone tree (Path.resolve root path) :=
    standsAlone_of_given? halone hasks.given?
  cases hfails with
  | @missing path hasks hkind =>
    refine ⟨.notFound path, ?_, rfl, rfl⟩
    rw [outcome_of_on hasks.1, hasks.file?_eq,
      (ConfigFile.ReadsAs.missing hkind).read_eq (hgiven hasks)]
    rfl
  | @unreadable path hasks hkind =>
    refine ⟨.notRead (some path), ?_, rfl, rfl⟩
    rw [outcome_of_on hasks.1, hasks.file?_eq,
      (ConfigFile.ReadsAs.unreadable hkind).read_eq (hgiven hasks)]
    rfl
  | @malformed path hasks hwrites =>
    refine ⟨.notRead (some path), ?_, rfl, rfl⟩
    rw [outcome_of_on hasks.1, hasks.file?_eq,
      (ConfigFile.ReadsAs.malformed hwrites).read_eq (hgiven hasks)]
    rfl
  | @refused path value hasks hwrites hnull hobject =>
    refine ⟨.notAnObject (Path.absolute (Path.resolve root path)), ?_, rfl, rfl⟩
    rw [outcome_of_on hasks.1, hasks.file?_eq,
      (ConfigFile.ReadsAs.value hwrites hnull).read_eq (hgiven hasks)]
    exact configOf_eq_error_iff.mpr ⟨_, value, rfl, hobject, rfl⟩
  | blocked hsearches hkind =>
    refine ⟨.notRead none, ?_, rfl, rfl⟩
    rw [outcome_of_on hsearches.1, hsearches.file?_eq, if_pos hkind]
    rfl
  | foundMalformed hcomes hwrites =>
    obtain ⟨hsearches, hway, hcomes⟩ := hcomes
    refine ⟨.notRead none, ?_, rfl, rfl⟩
    rw [outcome_of_on hsearches.1, hsearches.file?_eq, if_neg hway,
      ConfigFile.firstAt_of_malformed halone hcomes hwrites]
    rfl
  | @foundRefused place value hcomes hwrites hnull hobject =>
    obtain ⟨hsearches, hway, hcomes⟩ := hcomes
    refine ⟨.notAnObject (Path.absolute place), ?_, rfl, rfl⟩
    rw [outcome_of_on hsearches.1, hsearches.file?_eq, if_neg hway,
      ConfigFile.firstAt_of_value halone hcomes hwrites hnull]
    exact configOf_eq_error_iff.mpr ⟨_, value, rfl, hobject, rfl⟩

theorem Asks.fails_of_outcome {path : String} (hasks : request.Asks path)
    (halone : ConfigFile.StandsAlone tree (Path.resolve root path)) {failure : ConfigFailure}
    (houtcome : request.outcome tree root = .error failure) :
    request.Fails tree root failure.code failure.file := by
  obtain ⟨result, hreads⟩ := ConfigFile.exists_readsAs tree (Path.resolve root path)
  rw [outcome_of_on hasks.1, hasks.file?_eq, hreads.read_eq halone] at houtcome
  cases hreads with
  | missing hkind =>
    cases houtcome
    exact .missing hasks hkind
  | unreadable hkind =>
    cases houtcome
    exact .unreadable hasks hkind
  | malformed hwrites =>
    cases houtcome
    exact .malformed hasks hwrites
  | null | empty => cases houtcome
  | @value value hwrites hnull =>
    have hconfig : ConfigLoader.configOf root (some ⟨Path.resolve root path, some value⟩) =
        .error failure := houtcome
    obtain ⟨_, _, hfound, hobject, rfl⟩ := configOf_eq_error_iff.mp hconfig
    cases hfound
    exact .refused hasks hwrites hnull hobject

theorem Searches.fails_of_outcome (hsearches : request.Searches)
    (halone : ∀ place ∈ request.places tree root, ConfigFile.StandsAlone tree place)
    {failure : ConfigFailure} (houtcome : request.outcome tree root = .error failure) :
    request.Fails tree root failure.code failure.file := by
  rw [outcome_of_on hsearches.1, hsearches.file?_eq] at houtcome
  split at houtcome
  · rename_i hkind
    cases houtcome
    exact .blocked hsearches hkind
  · rename_i hway
    rcases hfirst : ConfigFile.firstAt tree (request.places tree root) with fault | found
    · rw [hfirst] at houtcome
      cases houtcome
      obtain ⟨-, place, hcomes, hwrites⟩ := (ConfigFile.firstAt_eq_error_iff halone).mp hfirst
      exact .foundMalformed ⟨hsearches, hway, hcomes⟩ hwrites
    · rw [hfirst] at houtcome
      obtain ⟨place, value, rfl, hobject, rfl⟩ := configOf_eq_error_iff.mp houtcome
      obtain ⟨hcomes, _, hvalue, hnull, hwrites⟩ := (ConfigFile.firstAt_eq_some_iff halone).mp hfirst
      cases hvalue
      exact .foundRefused ⟨hsearches, hway, hcomes⟩ hwrites hnull hobject

theorem fails_of_outcome
    (halone : ∀ place ∈ request.places tree root, ConfigFile.StandsAlone tree place)
    {failure : ConfigFailure} (houtcome : request.outcome tree root = .error failure) :
    request.Fails tree root failure.code failure.file := by
  cases hoff : request.isOff with
  | true =>
    rw [outcome_of_isOff hoff] at houtcome
    cases houtcome
  | false =>
    cases hgiven : request.given? with
    | none => exact Searches.fails_of_outcome ⟨hoff, given?_eq_none_iff.mp hgiven⟩ halone houtcome
    | some path =>
      exact Asks.fails_of_outcome ⟨hoff, given?_eq_some_iff.mp hgiven⟩
        (standsAlone_of_given? halone hgiven) houtcome

/-- A request is told that there is no file only where it has asked for one that is missing. -/
theorem fails_configNotFound_iff {file : Option String} :
    request.Fails tree root .configNotFound file ↔ ∃ path, file = some path ∧ request.Asks path ∧
      tree.kindOf (Path.resolve root path) = .error .missing := by
  constructor
  · intro hfails
    cases hfails with
    | missing hasks hkind => exact ⟨_, rfl, hasks, hkind⟩
  · rintro ⟨path, rfl, hasks, hkind⟩
    exact .missing hasks hkind

theorem Fails.code_cases {code : FailureCode} {file : Option String}
    (hfails : request.Fails tree root code file) :
    code = .configNotFound ∨ code = .invalidConfig := by
  cases hfails <;> simp

end Requests

/-- The first load of a loader succeeds, or breaks off with an error of the configuration. It breaks
    off exactly in the cases in which its request fails, with the code and the file of the case, and
    says that there is no file exactly where a path was given at which nothing is. Configurations
    that are programs are outside of the model, and count as malformed here
    (`ConfigFile.readFormat`). -/
theorem load_start_classified {tree : FileTree} {root : List String} {request : ConfigRequest}
    (halone : ∀ place ∈ request.places tree root, ConfigFile.StandsAlone tree place) :
    let answer := (ConfigLoader.start.load tree root request).1.mapError ConfigFailure.thrown
    (∀ code file, (∃ message trace cause,
        answer = .error (.config message trace code file cause)) ↔
      request.Fails tree root code file) ∧
    ((∃ loaded, answer = .ok loaded) ↔ ∀ code file, ¬ request.Fails tree root code file) ∧
    (∀ file, request.Fails tree root .configNotFound file ↔
      ∃ path, file = some path ∧ request.isOff = false ∧ request.path = some path ∧ path ≠ "" ∧
        tree.kindOf (Path.resolve root path) = .error .missing) ∧
    (∀ code file, request.Fails tree root code file →
      code = .configNotFound ∨ code = .invalidConfig) ∧
    (request.isOff = true → answer = .ok ⟨.default, none⟩) := by
  intro answer
  have hanswer : answer = (request.outcome tree root).mapError ConfigFailure.thrown := by
    rw [← load_start_eq_outcome]
  have hfails {code : FailureCode} {file : Option String}
      (hcase : request.Fails tree root code file) : ∃ failure : ConfigFailure,
        answer = .error failure.thrown ∧ failure.code = code ∧ failure.file = file := by
    obtain ⟨failure, houtcome, hcode, hfile⟩ := hcase.outcome halone
    refine ⟨failure, ?_, hcode, hfile⟩
    rw [hanswer, houtcome]
    rfl
  refine ⟨fun code file => ⟨?_, fun hcase => ?_⟩, ⟨?_, fun hnone => ?_⟩, fun file => ?_,
    fun code file hcase => hcase.code_cases, fun hoff => ?_⟩
  · rintro ⟨message, trace, cause, hthrown⟩
    rw [hanswer] at hthrown
    rcases houtcome : request.outcome tree root with failure | loaded
    · rw [houtcome] at hthrown
      cases hthrown
      exact fails_of_outcome halone houtcome
    · rw [houtcome] at hthrown
      cases hthrown
  · obtain ⟨failure, hthrown, rfl, rfl⟩ := hfails hcase
    exact ⟨failure.message, _, none, hthrown⟩
  · rintro ⟨loaded, hloaded⟩ code file hcase
    obtain ⟨failure, hthrown, -⟩ := hfails hcase
    cases hthrown.symm.trans hloaded
  · rcases houtcome : request.outcome tree root with failure | loaded
    · exact absurd (fails_of_outcome halone houtcome) (hnone _ _)
    · exact ⟨loaded, by rw [hanswer, houtcome]; rfl⟩
  · rw [fails_configNotFound_iff]
    simp only [Asks, and_assoc]
  · rw [hanswer, outcome_of_isOff hoff]
    rfl

/-- A search that passes over a file with null in it, and comes upon a value that is no object. -/
theorem load_start_classified_of_foundRefused :
    let tree : FileTree := ⟨[(["p", "sub", ".paramguardrc.json"], "null"),
      (["p", ".paramguardrc.json"], "7"), (["p", "package.json"], "[")], []⟩
    let request : ConfigRequest := ⟨some "", some "sub", false⟩
    (∀ place ∈ request.places tree ["p"], ConfigFile.StandsAlone tree place) ∧
      request.Fails tree ["p"] .invalidConfig (some "/p/.paramguardrc.json") := by
  intro tree request
  have halone : ∀ place ∈ request.places tree ["p"], ConfigFile.StandsAlone tree place := by
    decide +kernel
  have hload : (ConfigLoader.start.load tree ["p"] request).1 =
      .error (.notAnObject "/p/.paramguardrc.json") := by
    decide +kernel
  refine ⟨halone, ((load_start_classified halone).1 _ _).mp ?_⟩
  rw [hload]
  exact ⟨Config.notAnObject, _, none, rfl⟩

end ConfigRequest

end NamedParams
