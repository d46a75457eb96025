import NamedParams.Config.Session
import Mathlib.Data.List.Basic

namespace NamedParams

namespace ConfigLoader

/-- The first file that is found in some directories, whatever earlier searches have found. -/
def firstFound (tree : FileTree) : List (List String) → Except ConfigFault (Option ConfigFile)
  | [] => .ok none
  | place :: rest =>
    match searchPlace tree place with
    | .ok none => firstFound tree rest
    | found => found

/-- What is remembered of the first directory that has been searched before, unless the search ends
    on the way there. -/
def memoryAlong? (tree : FileTree) (searches : ConfigFindings) :
    List (List String) → Option (Option ConfigFile)
  | [] => none
  | place :: rest =>
    match searches.lookup place with
    | some found => some found
    | none =>
      match searchPlace tree place with
      | .ok none => memoryAlong? tree searches rest
      | _ => none

section Search

variable {tree : FileTree} {searches : ConfigFindings}

theorem searchAlong_cons {place : List String} (hlookup : searches.lookup place = none)
    (rest : List (List String)) :
    searchAlong tree searches (place :: rest) =
      match searchPlace tree place with
      | .error fault => .error fault
      | .ok (some file) => .ok (some file, (place, some file) :: searches)
      | .ok none =>
        (searchAlong tree searches rest).map fun (found, after) =>
          (found, (place, found) :: after) := by
  rw [searchAlong, hlookup]
  obtain fault | found := searchPlace tree place
  · rfl
  · cases found with
    | some file => rfl
    | none =>
      dsimp only [bind, Except.bind]
      cases searchAlong tree searches rest <;> rfl

/-- A search finds what is remembered, and else what there is. -/
theorem searchAlong_found (places : List (List String)) :
    (searchAlong tree searches places).map Prod.fst =
      match memoryAlong? tree searches places with
      | some found => .ok found
      | none => firstFound tree places := by
  induction places with
  | nil => rfl
  | cons place rest ih =>
    rw [memoryAlong?, firstFound]
    cases hlookup : searches.lookup place with
    | some found =>
      rw [searchAlong, hlookup]
      rfl
    | none =>
      rw [searchAlong_cons hlookup]
      obtain fault | found := searchPlace tree place
      · rfl
      · cases found with
        | some file => rfl
        | none =>
          dsimp only
          rw [← ih]
          cases searchAlong tree searches rest <;> rfl

/-- A search remembers what it finds, and nothing else. -/
theorem mem_of_searchAlong {places : List (List String)} {found : Option ConfigFile}
    {after : ConfigFindings} (hsearch : searchAlong tree searches places = .ok (found, after)) :
    ∀ entry ∈ after, entry ∈ searches ∨ entry.2 = found := by
  induction places generalizing found after with
  | nil =>
    cases hsearch
    exact fun entry hentry => .inl hentry
  | cons place rest ih =>
    cases hlookup : searches.lookup place with
    | some old =>
      simp only [searchAlong, hlookup, Except.ok.injEq, Prod.mk.injEq] at hsearch
      exact fun entry hentry => .inl (hsearch.2 ▸ hentry)
    | none =>
      rw [searchAlong_cons hlookup] at hsearch
      rcases hplace : searchPlace tree place with fault | _ | file
      · simp only [hplace] at hsearch
        cases hsearch
      · simp only [hplace] at hsearch
        rcases hrest : searchAlong tree searches rest with fault | ⟨later, others⟩
        · rw [hrest] at hsearch
          cases hsearch
        · rw [hrest] at hsearch
          cases hsearch
          intro entry hentry
          obtain rfl | hother := List.mem_cons.mp hentry
          · exact .inr rfl
          · exact ih hrest entry hother
      · simp only [hplace] at hsearch
        cases hsearch
        intro entry hentry
        obtain rfl | hold := List.mem_cons.mp hentry
        · exact .inr rfl
        · exact .inl hold

end Search

end ConfigLoader

namespace ConfigRequest

variable (request : ConfigRequest) (tree : FileTree) (root : List String)

/-- The path of the file that is asked for. Without one, a file is searched for. -/
def given? : Option String :=
  request.path.filter (· != "")

/-- The directories that are searched, from where the search starts up. -/
def ladder : List (List String) :=
  ConfigLoader.ladder tree (Path.resolve root (request.start.getD ""))

/-- The file that a request leads to, whatever has been read before. -/
def file? : Except ConfigFailure (Option ConfigFile) :=
  match request.given? with
  | some path =>
    match ConfigFile.read tree (Path.resolve root path) with
    | .ok file => .ok file
    | .error .missing => .error (.notFound path)
    | .error _ => .error (.notRead (some path))
  | none =>
    (ConfigLoader.firstFound tree (request.ladder tree root)).mapError fun _ => .notRead none

/-- What a request comes to, whatever has been read before. -/
def outcome : Except ConfigFailure LoadedConfig :=
  if request.isOff then .ok ⟨.default, none⟩
  else request.file? tree root >>= ConfigLoader.configOf root

end ConfigRequest

namespace ConfigLoader

variable (loader : ConfigLoader) (tree : FileTree) (root : List String) (request : ConfigRequest)

/-- What is remembered of the file that a request leads to. -/
def memory? : Option (Option ConfigFile) :=
  match request.given? with
  | some path => loader.readFiles.lookup (Path.resolve root path)
  | none => memoryAlong? tree loader.searches (request.ladder tree root)

/-- The file that a loader takes for a request: the one that it remembers, and else the one that
    there is. -/
def fileFor : Except ConfigFailure (Option ConfigFile) :=
  match loader.memory? tree root request with
  | some file => .ok file
  | none => request.file? tree root

/-- What has been read, and found in searches. -/
def remembered : List (Option ConfigFile) :=
  (loader.readFiles ++ loader.searches).map Prod.snd

/-- The file for a request, and the loader that remembers it. -/
def fetch : Except ConfigFailure (Option ConfigFile × ConfigLoader) :=
  match request.given? with
  | some path => loader.readFile tree root path
  | none => loader.search tree (Path.resolve root (request.start.getD ""))

theorem readFile_file (path : String) :
    (loader.readFile tree root path).map Prod.fst =
      match loader.readFiles.lookup (Path.resolve root path) with
      | some file => .ok file
      | none =>
        match ConfigFile.read tree (Path.resolve root path) with
        | .ok file => .ok file
        | .error .missing => .error (.notFound path)
        | .error _ => .error (.notRead (some path)) := by
  rw [readFile]
  cases loader.readFiles.lookup (Path.resolve root path) with
  | some file => rfl
  | none =>
    obtain fault | file := ConfigFile.read tree (Path.resolve root path)
    · cases fault <;> rfl
    · rfl

theorem search_file (start : List String) :
    (loader.search tree start).map Prod.fst =
      ((searchAlong tree loader.searches (ConfigLoader.ladder tree start)).map Prod.fst).mapError
        fun _ => .notRead none := by
  rw [search]
  cases searchAlong tree loader.searches (ConfigLoader.ladder tree start) <;> rfl

theorem fetch_file :
    (loader.fetch tree root request).map Prod.fst = loader.fileFor tree root request := by
  rw [fetch, fileFor, memory?, ConfigRequest.file?]
  cases request.given? with
  | some path => exact loader.readFile_file tree root path
  | none =>
    dsimp only
    rw [search_file, searchAlong_found, ConfigRequest.ladder]
    cases memoryAlong? tree loader.searches _ <;> rfl

theorem mem_remembered {found : Option ConfigFile} :
    found ∈ loader.remembered ↔
      (∃ place, (place, found) ∈ loader.readFiles) ∨ ∃ place, (place, found) ∈ loader.searches := by
  simp [remembered]

variable {loader tree root request}

/-- The loader after a file has been taken: nothing is loaded yet, and at most that file is
    remembered anew. -/
structure Remembers (before after : ConfigLoader) (file : Option ConfigFile) : Prop where
  loaded : after.loaded = before.loaded
  files : ∀ found ∈ after.remembered, found ∈ before.remembered ∨ found = file

theorem remembers_of_readFile {path : String} {file : Option ConfigFile} {after : ConfigLoader}
    (hread : loader.readFile tree root path = .ok (file, after)) :
    loader.Remembers after file := by
  rw [readFile] at hread
  cases hlookup : loader.readFiles.lookup (Path.resolve root path) with
  | some old =>
    simp only [hlookup] at hread
    cases hread
    exact ⟨rfl, fun found hfound => .inl hfound⟩
  | none =>
    rcases hfile : ConfigFile.read tree (Path.resolve root path) with fault | here
    · simp only [hlookup, hfile] at hread
      cases fault <;> cases hread
    · simp only [hlookup, hfile] at hread
      cases hread
      refine ⟨rfl, fun found hfound => ?_⟩
      rw [remembered, List.cons_append, List.map_cons, List.mem_cons] at hfound
      exact hfound.symm

theorem remembers_of_search {start : List String} {file : Option ConfigFile}
    {after : ConfigLoader} (hsearch : loader.search tree start = .ok (file, after)) :
    loader.Remembers after file := by
  rw [search] at hsearch
  rcases halong : searchAlong tree loader.searches (ConfigLoader.ladder tree start) with
    fault | ⟨here, searches⟩
  · simp only [halong] at hsearch
    cases hsearch
  · simp only [halong] at hsearch
    cases hsearch
    refine ⟨rfl, fun found hfound => ?_⟩
    obtain hread | ⟨place, hplace⟩ := (mem_remembered _).mp hfound
    · exact .inl ((mem_remembered _).mpr (.inl hread))
    · obtain hold | hnew := mem_of_searchAlong halong _ hplace
      · exact .inl ((mem_remembered _).mpr (.inr ⟨place, hold⟩))
      · exact .inr hnew

theorem remembers_of_fetch {file : Option ConfigFile} {after : ConfigLoader}
    (hfetch : loader.fetch tree root request = .ok (file, after)) :
    loader.Remembers after file := by
  rw [fetch] at hfetch
  split at hfetch
  · exact remembers_of_readFile hfetch
  · exact remembers_of_search hfetch

theorem mem_of_lookup {findings : ConfigFindings} {place : List String}
    {found : Option ConfigFile} (hlookup : findings.lookup place = some found) :
    found ∈ findings.map Prod.snd := by
  obtain ⟨before, after, rfl, -⟩ := List.lookup_eq_some_iff.mp hlookup
  simp

theorem mem_of_memoryAlong? {searches : ConfigFindings} {places : List (List String)}
    {found : Option ConfigFile} (hmemory : memoryAlong? tree searches places = some found) :
    found ∈ searches.map Prod.snd := by
  induction places with
  | nil => cases hmemory
  | cons place rest ih =>
    rw [memoryAlong?] at hmemory
    split at hmemory
    · rename_i hlookup
      cases hmemory
      exact mem_of_lookup hlookup
    · split at hmemory
      · exact ih hmemory
      · cases hmemory

theorem mem_of_memory? {found : Option ConfigFile}
    (hmemory : loader.memory? tree root request = some found) : found ∈ loader.remembered := by
  rw [remembered, List.map_append, List.mem_append]
  rw [memory?] at hmemory
  split at hmemory
  · exact .inl (mem_of_lookup hmemory)
  · exact .inr (mem_of_memoryAlong? hmemory)

theorem load_of_loaded {loaded : LoadedConfig} (hloaded : loader.loaded = some loaded) :
    loader.load tree root request = (.ok loaded, loader) := by
  rw [load, hloaded]

variable (tree root) in
theorem load_of_isOff (hnone : loader.loaded = none) (hoff : request.isOff = true) :
    loader.load tree root request =
      (.ok ⟨.default, none⟩, { loader with loaded := some ⟨.default, none⟩ }) := by
  rw [load, hnone, hoff]
  rfl

variable (tree root) in
theorem load_of_isOn (hnone : loader.loaded = none) (hon : request.isOff = false) :
    loader.load tree root request =
      match loader.fetch tree root request with
      | .error failure => (.error failure, loader)
      | .ok (file, after) =>
        match configOf root file with
        | .ok loaded => (.ok loaded, { after with loaded := some loaded })
        | .error failure => (.error failure, after) := by
  rw [load, hnone, hon]
  rfl

variable (tree root) in
/-- A loader that has loaded nothing takes a file, remembers it, and loads what it describes. -/
theorem load_cases (hnone : loader.loaded = none) (hon : request.isOff = false) :
    (∃ failure, loader.fileFor tree root request = .error failure ∧
      loader.load tree root request = (.error failure, loader)) ∨
    ∃ file after, loader.fileFor tree root request = .ok file ∧ loader.Remembers after file ∧
      loader.load tree root request =
        (configOf root file, { after with loaded := (configOf root file).toOption }) := by
  rw [load_of_isOn tree root hnone hon, ← fetch_file]
  rcases hfetch : loader.fetch tree root request with failure | ⟨file, after⟩
  · exact .inl ⟨failure, rfl, rfl⟩
  · have hremembers := remembers_of_fetch hfetch
    refine .inr ⟨file, after, rfl, hremembers, ?_⟩
    dsimp only
    cases configOf root file with
    | ok loaded => rfl
    | error failure =>
      obtain ⟨loaded, readFiles, searches⟩ := after
      rw [show loaded = none from hremembers.loaded.trans hnone]
      rfl

end ConfigLoader

/-- Whether the content of a file is no configuration. -/
def ConfigFile.IsRefused (root : List String) (file : ConfigFile) : Prop :=
  ConfigLoader.configOf root (some file) = .error (.notAnObject (Path.absolute file.place))

namespace ConfigLoader

variable {loader : ConfigLoader} {tree : FileTree} {root : List String} {request : ConfigRequest}

theorem isRefused_of_configOf {found : Option ConfigFile} {failure : ConfigFailure}
    (hconfig : configOf root found = .error failure) :
    ∃ file, found = some file ∧ file.IsRefused root := by
  match found with
  | none => cases hconfig
  | some ⟨place, none⟩ => cases hconfig
  | some ⟨place, some content⟩ =>
    rw [configOf] at hconfig
    split at hconfig
    · cases hconfig
    · rename_i hnone
      refine ⟨_, rfl, ?_⟩
      rw [ConfigFile.IsRefused, configOf, hnone]

variable (root) in
/-- Whether a loader has loaded nothing, and remembers no file that it has not refused. -/
structure Blank (loader : ConfigLoader) : Prop where
  loaded : loader.loaded = none
  refused : ∀ found ∈ loader.remembered, ∃ file, found = some file ∧ file.IsRefused root

theorem blank_start : start.Blank root :=
  ⟨rfl, List.forall_mem_nil _⟩

/-- What a loader remembers for a request, if it looks for a file at all. -/
def recalled (loader : ConfigLoader) (tree : FileTree) (root : List String)
    (request : ConfigRequest) : Option ConfigFile :=
  if request.isOff then none else (loader.memory? tree root request).join

theorem recalled_eq_some {file : ConfigFile} :
    loader.recalled tree root request = some file ↔
      request.isOff = false ∧ loader.memory? tree root request = some (some file) := by
  rw [recalled]
  cases request.isOff <;> simp [Option.join_eq_some_iff]

theorem memoryAlong?_nil (places : List (List String)) : memoryAlong? tree [] places = none := by
  induction places with
  | nil => rfl
  | cons place rest ih =>
    rw [memoryAlong?, List.lookup_nil]
    dsimp only
    split
    · exact ih
    · rfl

theorem recalled_start : start.recalled tree root request = none := by
  rw [recalled, memory?]
  split
  · rfl
  · split
    · rfl
    · rw [show start.searches = [] from rfl, memoryAlong?_nil]
      rfl

/-- A loader that has loaded nothing refuses a file that it remembers once more, and answers any
    other request as it would without its memory. -/
theorem Blank.load_answer (hblank : loader.Blank root) :
    (loader.load tree root request).1 =
      match loader.recalled tree root request with
      | some file => .error (.notAnObject (Path.absolute file.place))
      | none => request.outcome tree root := by
  rw [recalled, ConfigRequest.outcome]
  cases hoff : request.isOff with
  | true =>
    rw [load_of_isOff tree root hblank.loaded hoff]
    rfl
  | false =>
    have hanswer : (loader.load tree root request).1 =
        loader.fileFor tree root request >>= configOf root := by
      obtain ⟨failure, hfile, hload⟩ | ⟨file, after, hfile, -, hload⟩ :=
        load_cases tree root hblank.loaded hoff
      · rw [hload, hfile]
        rfl
      · rw [hload, hfile]
        rfl
    rw [hanswer, fileFor]
    cases hmemory : loader.memory? tree root request with
    | none => rfl
    | some found =>
      obtain ⟨file, rfl, hrefused⟩ := hblank.refused found (mem_of_memory? hmemory)
      exact hrefused

variable (tree request) in
/-- A loader that has loaded nothing loads what a new loader would load, or it still has loaded
    nothing. All that it may remember then is a file that it has refused. -/
theorem Blank.load (hblank : loader.Blank root) :
    (∃ loaded, (loader.load tree root request).1 = .ok loaded ∧
      (loader.load tree root request).2.loaded = some loaded ∧
      request.outcome tree root = .ok loaded) ∨
    ∃ failure, (loader.load tree root request).1 = .error failure ∧ request.isOff = false ∧
      (loader.load tree root request).2.Blank root ∧
      ∀ found ∈ (loader.load tree root request).2.remembered, found ∈ loader.remembered ∨
        request.file? tree root = .ok found ∧ configOf root found = .error failure := by
  have houtcome {loaded : LoadedConfig}
      (hloaded : (loader.load tree root request).1 = .ok loaded) :
      request.outcome tree root = .ok loaded := by
    rw [hblank.load_answer] at hloaded
    split at hloaded
    · cases hloaded
    · exact hloaded
  cases hoff : request.isOff with
  | true =>
    have hload := load_of_isOff tree root hblank.loaded hoff
    exact .inl ⟨⟨.default, none⟩, by rw [hload], by rw [hload], houtcome (by rw [hload])⟩
  | false =>
    obtain ⟨failure, -, hload⟩ | ⟨file, after, hfile, hremembers, hload⟩ :=
      load_cases tree root hblank.loaded hoff
    · rw [hload]
      exact .inr ⟨failure, rfl, rfl, hblank, fun found hfound => .inl hfound⟩
    · cases hconfig : configOf root file with
      | ok loaded =>
        rw [hconfig] at hload
        exact .inl ⟨loaded, by rw [hload], by rw [hload]; rfl, houtcome (by rw [hload])⟩
      | error failure =>
        rw [hconfig] at hload
        rw [hload]
        refine .inr ⟨failure, rfl, rfl, ⟨rfl, fun found hfound => ?_⟩, fun found hfound => ?_⟩
        · obtain hold | rfl := hremembers.files found hfound
          · exact hblank.refused found hold
          · exact isRefused_of_configOf hconfig
        · obtain hold | rfl := hremembers.files found hfound
          · exact .inl hold
          · rw [fileFor] at hfile
            split at hfile
            · rename_i hmemory
              cases hfile
              exact .inl (mem_of_memory? hmemory)
            · exact .inr ⟨hfile, hconfig⟩

end ConfigLoader

/-- A new loader answers by what there is. -/
theorem ConfigRequest.load_start_eq_outcome {request : ConfigRequest} {tree : FileTree}
    {root : List String} :
    (ConfigLoader.start.load tree root request).1 = request.outcome tree root := by
  rw [ConfigLoader.blank_start.load_answer, ConfigLoader.recalled_start]

end NamedParams
