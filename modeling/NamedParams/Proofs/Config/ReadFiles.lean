import NamedParams.Proofs.Config.FirstSuccess
import NamedParams.Proofs.Files.Kinds

namespace NamedParams

namespace ConfigFile

/-- Whether there is a file at a place, and what its text comes to when it is read. -/
def Writes (tree : FileTree) (place : List String) (result : Except ConfigFault (Option Json)) :
    Prop :=
  tree.kindOf place = .ok .file ∧
    ∃ text, tree.read? place = some text ∧ readText (place.getLastD "") text = result

/-- Whether what is at a place builds on no other file. -/
def StandsAlone (tree : FileTree) (place : List String) : Prop :=
  ∀ value, Writes tree place (.ok (some value)) → value.get? importKey = none

/-- What reading a file that stands alone comes to, by what there is at its place. -/
inductive ReadsAs (tree : FileTree) (place : List String) :
    Except ConfigFault (Option ConfigFile) → Prop where
  | missing (hkind : tree.kindOf place = .error .missing) : ReadsAs tree place (.error .missing)
  | unreadable (hkind : tree.kindOf place = .ok .directory ∨
      tree.kindOf place = .error .notDirectory) : ReadsAs tree place (.error .unreadable)
  | malformed (hwrites : Writes tree place (.error .malformed)) :
    ReadsAs tree place (.error .malformed)
  | null (hwrites : Writes tree place (.ok (some .null))) : ReadsAs tree place (.ok none)
  | empty (hwrites : Writes tree place (.ok none)) : ReadsAs tree place (.ok (some ⟨place, none⟩))
  | value {value : Json} (hwrites : Writes tree place (.ok (some value))) (hnull : value ≠ .null) :
    ReadsAs tree place (.ok (some ⟨place, some value⟩))

section Reading

variable {tree : FileTree} {place : List String}

theorem standsAlone_iff :
    StandsAlone tree place ↔ (tree.kindOf place = .ok .file → ∀ text ∈ tree.read? place,
      ((readText (place.getLastD "") text).toOption.join.bind (·.get? importKey)).isNone) := by
  constructor
  · intro halone hkind text htext
    rcases hread : readText (place.getLastD "") text with fault | _ | value
    · rfl
    · rfl
    · have hnone := halone value ⟨hkind, text, htext, hread⟩
      exact Option.isNone_iff_eq_none.mpr hnone
  · rintro halone value ⟨hkind, text, htext, hread⟩
    have hnone := halone hkind text htext
    rw [hread] at hnone
    exact Option.isNone_iff_eq_none.mp hnone

instance : Decidable (StandsAlone tree place) :=
  decidable_of_iff _ standsAlone_iff.symm

theorem malformed_of_readText {name text : String} {fault : ConfigFault}
    (hread : readText name text = .error fault) : fault = .malformed := by
  rw [readText] at hread
  split at hread
  · cases hread
  · dsimp only at hread
    split at hread
    · cases hread
      rfl
    · split at hread
      · rename_i value _ _
        cases value <;> cases hread
        rfl
      · cases hread

theorem Writes.readPlace {result : Except ConfigFault (Option Json)}
    (hwrites : Writes tree place result) :
    (readPlace tree place >>= readText (place.getLastD "")) = result := by
  obtain ⟨hkind, text, htext, hresult⟩ := hwrites
  rw [ConfigFile.readPlace, hkind, htext]
  exact hresult

/-- The value of a file that stands alone is what its text writes. -/
theorem valueAt_of_writes (halone : StandsAlone tree place)
    {result : Except ConfigFault (Option Json)} (hwrites : Writes tree place result) :
    valueAt tree place = result := by
  have hsteps := hwrites.readPlace
  obtain ⟨text, hplace⟩ : ∃ text, ConfigFile.readPlace tree place = .ok text := by
    rw [ConfigFile.readPlace, hwrites.1]
    exact ⟨_, rfl⟩
  have hread : readText (place.getLastD "") text = result := by
    rw [hplace] at hsteps
    exact hsteps
  rw [valueAt, readValue, hplace]
  simp only [bind, Except.bind, hread]
  rcases result with fault | content
  · rfl
  · dsimp only
    split
    · rw [importPaths, halone _ hwrites]
      rfl
    · rfl

/-- Reading a file that stands alone comes to what there is. -/
theorem ReadsAs.read_eq (halone : StandsAlone tree place)
    {result : Except ConfigFault (Option ConfigFile)} (hreads : ReadsAs tree place result) :
    read tree place = result := by
  cases hreads with
  | missing hkind => rw [read, readValue, readPlace, hkind]; rfl
  | unreadable hkind =>
    obtain hkind | hkind := hkind
    · rw [read, readValue, readPlace, hkind]; rfl
    · rw [read, readValue, readPlace, hkind]; rfl
  | malformed hwrites | null hwrites | empty hwrites =>
    rw [read, ← valueAt, valueAt_of_writes halone hwrites]; rfl
  | @value value hwrites hnull =>
    rw [read, ← valueAt, valueAt_of_writes halone hwrites]
    cases value with
    | null => contradiction
    | _ => rfl

theorem exists_readsAs (tree : FileTree) (place : List String) :
    ∃ result, ReadsAs tree place result := by
  cases hkind : tree.kindOf place with
  | error error =>
    cases error with
    | missing => exact ⟨_, .missing hkind⟩
    | notDirectory => exact ⟨_, .unreadable (.inr hkind)⟩
  | ok kind =>
    cases kind with
    | directory => exact ⟨_, .unreadable (.inl hkind)⟩
    | file =>
      obtain ⟨text, htext⟩ := Option.isSome_iff_exists.mp (isSome_read?_of_kindOf hkind)
      have hwrites : Writes tree place (readText (place.getLastD "") text) :=
        ⟨hkind, text, htext, rfl⟩
      rcases hresult : readText (place.getLastD "") text with fault | _ | value
      · obtain rfl := malformed_of_readText hresult
        exact ⟨_, .malformed (hresult ▸ hwrites)⟩
      · exact ⟨_, .empty (hresult ▸ hwrites)⟩
      · rw [hresult] at hwrites
        cases value with
        | null => exact ⟨_, .null hwrites⟩
        | _ => exact ⟨_, .value hwrites (by simp)⟩

end Reading

/-- Whether a search passes over a place: there is no file, or one that writes nothing or null. -/
def PassedOver (tree : FileTree) (place : List String) : Prop :=
  tree.kindOf place ≠ .ok .file ∨ Writes tree place (.ok none) ∨ Writes tree place (.ok (some .null))

/-- Whether a place is the one that a search comes upon: it passes over all places before it. -/
def ComesUpon (tree : FileTree) (places : List (List String)) (place : List String) : Prop :=
  ∃ before after, places = before ++ place :: after ∧ ∀ other ∈ before, PassedOver tree other

/-- The first file with content at some places. -/
def firstAt (tree : FileTree) : List (List String) → Except ConfigFault (Option ConfigFile)
  | [] => .ok none
  | place :: rest =>
    match read tree place with
    | .ok (some file) => if file.content.isSome then .ok (some file) else firstAt tree rest
    | .ok none | .error .missing | .error .unreadable => firstAt tree rest
    | .error .malformed => .error .malformed

section Searching

variable {tree : FileTree} {place : List String} {places rest : List (List String)}

/-- What keeps a search at a place: a file that cannot be read, or a value other than null. -/
theorem passedOver_or (tree : FileTree) (place : List String) :
    PassedOver tree place ∨ Writes tree place (.error .malformed) ∨
      ∃ value, value ≠ .null ∧ Writes tree place (.ok (some value)) := by
  obtain ⟨result, hreads⟩ := exists_readsAs tree place
  cases hreads with
  | missing hkind => exact .inl (.inl (by simp [hkind]))
  | unreadable hkind => exact .inl (.inl (by obtain hkind | hkind := hkind <;> simp [hkind]))
  | malformed hwrites => exact .inr (.inl hwrites)
  | null hwrites => exact .inl (.inr (.inr hwrites))
  | empty hwrites => exact .inl (.inr (.inl hwrites))
  | value hwrites hnull => exact .inr (.inr ⟨_, hnull, hwrites⟩)

theorem firstAt_of_passedOver (halone : StandsAlone tree place) (hpassed : PassedOver tree place)
    (rest : List (List String)) : firstAt tree (place :: rest) = firstAt tree rest := by
  rw [firstAt]
  obtain hkind | hwrites | hwrites := hpassed
  · obtain ⟨result, hreads⟩ := exists_readsAs tree place
    rw [hreads.read_eq halone]
    cases hreads with
    | missing | unreadable => rfl
    | malformed hwrites | null hwrites | empty hwrites => exact absurd hwrites.1 hkind
    | value hwrites => exact absurd hwrites.1 hkind
  · rw [(ReadsAs.empty hwrites).read_eq halone]
    rfl
  · rw [(ReadsAs.null hwrites).read_eq halone]

theorem firstAt_append_of_passedOver {before : List (List String)}
    (halone : ∀ place ∈ before, StandsAlone tree place)
    (hpassed : ∀ place ∈ before, PassedOver tree place) (rest : List (List String)) :
    firstAt tree (before ++ rest) = firstAt tree rest := by
  induction before with
  | nil => rfl
  | cons place before ih =>
    rw [List.forall_mem_cons] at halone hpassed
    rw [List.cons_append, firstAt_of_passedOver halone.1 hpassed.1, ih halone.2 hpassed.2]

theorem firstAt_of_malformed (halone : ∀ place ∈ places, StandsAlone tree place)
    (hcomes : ComesUpon tree places place) (hwrites : Writes tree place (.error .malformed)) :
    firstAt tree places = .error .malformed := by
  obtain ⟨before, after, rfl, hpassed⟩ := hcomes
  obtain ⟨hbefore, hplace, -⟩ := List.forall_mem_append.mp halone |>.imp_right
    List.forall_mem_cons.mp
  rw [firstAt_append_of_passedOver hbefore hpassed, firstAt,
    (ReadsAs.malformed hwrites).read_eq hplace]

theorem firstAt_of_value (halone : ∀ place ∈ places, StandsAlone tree place)
    (hcomes : ComesUpon tree places place) {value : Json}
    (hwrites : Writes tree place (.ok (some value))) (hnull : value ≠ .null) :
    firstAt tree places = .ok (some ⟨place, some value⟩) := by
  obtain ⟨before, after, rfl, hpassed⟩ := hcomes
  obtain ⟨hbefore, hplace, -⟩ := List.forall_mem_append.mp halone |>.imp_right
    List.forall_mem_cons.mp
  rw [firstAt_append_of_passedOver hbefore hpassed, firstAt,
    (ReadsAs.value hwrites hnull).read_eq hplace]
  rfl

theorem all_passedOver_or_comesUpon (tree : FileTree) (places : List (List String)) :
    (∀ place ∈ places, PassedOver tree place) ∨ ∃ place, ComesUpon tree places place ∧
      (Writes tree place (.error .malformed) ∨
        ∃ value, value ≠ .null ∧ Writes tree place (.ok (some value))) := by
  induction places with
  | nil => exact .inl (List.forall_mem_nil _)
  | cons place rest ih =>
    obtain hpassed | hstays := passedOver_or tree place
    · obtain hall | ⟨other, ⟨before, after, rfl, hbefore⟩, hstays⟩ := ih
      · exact .inl (List.forall_mem_cons.mpr ⟨hpassed, hall⟩)
      · exact .inr ⟨other, ⟨place :: before, after, rfl,
          List.forall_mem_cons.mpr ⟨hpassed, hbefore⟩⟩, hstays⟩
    · exact .inr ⟨place, ⟨[], rest, rfl, List.forall_mem_nil _⟩, hstays⟩

/-- A search of places fails at the first file that keeps it, if that cannot be read. -/
theorem firstAt_eq_error_iff (halone : ∀ place ∈ places, StandsAlone tree place)
    {fault : ConfigFault} : firstAt tree places = .error fault ↔
      fault = .malformed ∧ ∃ place, ComesUpon tree places place ∧
        Writes tree place (.error .malformed) := by
  constructor
  · intro hfails
    obtain hpassed | ⟨place, hcomes, hwrites | ⟨value, hnull, hwrites⟩⟩ :=
      all_passedOver_or_comesUpon tree places
    · rw [← List.append_nil places, firstAt_append_of_passedOver halone hpassed] at hfails
      cases hfails
    · cases hfails.symm.trans (firstAt_of_malformed halone hcomes hwrites)
      exact ⟨rfl, place, hcomes, hwrites⟩
    · cases hfails.symm.trans (firstAt_of_value halone hcomes hwrites hnull)
  · rintro ⟨rfl, place, hcomes, hwrites⟩
    exact firstAt_of_malformed halone hcomes hwrites

/-- A search of places finds the first file that keeps it, if that can be read. -/
theorem firstAt_eq_some_iff (halone : ∀ place ∈ places, StandsAlone tree place)
    {file : ConfigFile} : firstAt tree places = .ok (some file) ↔
      ComesUpon tree places file.place ∧ ∃ value, file.content = some value ∧ value ≠ .null ∧
        Writes tree file.place (.ok (some value)) := by
  constructor
  · intro hfound
    obtain hpassed | ⟨place, hcomes, hwrites | ⟨value, hnull, hwrites⟩⟩ :=
      all_passedOver_or_comesUpon tree places
    · rw [← List.append_nil places, firstAt_append_of_passedOver halone hpassed] at hfound
      cases hfound
    · cases hfound.symm.trans (firstAt_of_malformed halone hcomes hwrites)
    · cases hfound.symm.trans (firstAt_of_value halone hcomes hwrites hnull)
      exact ⟨hcomes, value, rfl, hnull, hwrites⟩
  · obtain ⟨place, content⟩ := file
    rintro ⟨hcomes, value, rfl, hnull, hwrites⟩
    exact firstAt_of_value halone hcomes hwrites hnull

end Searching

end ConfigFile

namespace ConfigLoader

open ConfigFile

/-- The places in some directories at which a search looks. -/
def placesIn (tree : FileTree) (directories : List (List String)) : List (List String) :=
  (directories.filter (tree.kindOf · = .ok .directory)).flatMap fun directory =>
    fileNames.map fun name => directory ++ [name]

section Ladder

variable {tree : FileTree}

theorem findIn_eq_firstAt (directory names : List String) :
    findIn tree directory names = firstAt tree (names.map fun name => directory ++ [name]) := by
  induction names with
  | nil => rfl
  | cons name names ih =>
    rw [findIn, ih]
    rfl

theorem firstAt_append (places rest : List (List String)) :
    firstAt tree (places ++ rest) =
      match firstAt tree places with
      | .ok none => firstAt tree rest
      | found => found := by
  induction places with
  | nil => rfl
  | cons place places ih =>
    rw [List.cons_append, firstAt, firstAt, ih]
    rcases read tree place with fault | _ | file
    · cases fault <;> rfl
    · rfl
    · dsimp only
      split <;> rfl

/-- Unless the way to a directory runs through a file, a search of directories is one of the places
    in them. -/
theorem firstFound_eq_firstAt {directories : List (List String)}
    (hways : ∀ directory ∈ directories, tree.kindOf directory ≠ .error .notDirectory) :
    firstFound tree directories = firstAt tree (placesIn tree directories) := by
  induction directories with
  | nil => rfl
  | cons directory rest ih =>
    obtain ⟨hway, hrest⟩ := List.forall_mem_cons.mp hways
    -- What is no directory holds no places, and is passed over by the search.
    have hskip (hkind : tree.kindOf directory ≠ .ok .directory)
        (hsearch : searchPlace tree directory = .ok none) :
        firstFound tree (directory :: rest) = firstAt tree (placesIn tree (directory :: rest)) := by
      rw [firstFound, hsearch, placesIn, List.filter_cons_of_neg (by simpa using hkind)]
      exact ih hrest
    cases hkind : tree.kindOf directory with
    | error error =>
      cases error with
      | missing => exact hskip (by simp [hkind]) (by rw [searchPlace, hkind])
      | notDirectory => exact absurd hkind hway
    | ok kind =>
      cases kind with
      | file => exact hskip (by simp [hkind]) (by rw [searchPlace, hkind])
      | directory =>
        have hplaces : placesIn tree (directory :: rest) =
            (fileNames.map fun name => directory ++ [name]) ++ placesIn tree rest := by
          rw [placesIn, List.filter_cons_of_pos (by simpa using hkind), List.flatMap_cons]
          rfl
        have hsearch : searchPlace tree directory = findIn tree directory fileNames := by
          rw [searchPlace, hkind]
        have hfirst := @firstAt_append tree (fileNames.map fun name => directory ++ [name])
          (placesIn tree rest)
        rw [← findIn_eq_firstAt, ← hplaces] at hfirst
        rw [firstFound, hsearch, ih hrest]
        exact hfirst.symm

theorem prefix_of_mem_ladder {directory start : List String}
    (hmem : directory ∈ ladder tree start) : directory <+: start := by
  have hall : ∀ directory ∈ (List.range (start.length + 1)).map fun i =>
      start.take (start.length - i), directory <+: start := by
    intro directory hdirectory
    obtain ⟨i, -, rfl⟩ := List.mem_map.mp hdirectory
    exact List.take_prefix _ _
  rw [ladder] at hmem
  obtain hbelow | htop := List.mem_append.mp hmem
  · exact hall _ (List.takeWhile_subset _ hbelow)
  · exact hall _ (List.mem_of_mem_drop (List.mem_of_mem_take htop))

/-- A search starts where it is told to. -/
theorem exists_ladder_eq (tree : FileTree) (start : List String) :
    ∃ rest, ladder tree start = start :: rest := by
  rw [ladder, List.range_succ_eq_map, List.map_cons, Nat.sub_zero, List.take_length]
  by_cases htop : isTop tree start = true
  · rw [List.takeWhile_cons_of_neg (by simp [htop])]
    exact ⟨_, rfl⟩
  · rw [List.takeWhile_cons_of_pos (by simp [htop])]
    exact ⟨_, rfl⟩

/-- A search fails where its start lies behind a file. Elsewhere it is one of the places in the
    directories from the start up. -/
theorem firstFound_ladder (tree : FileTree) (start : List String) :
    firstFound tree (ladder tree start) =
      if tree.kindOf start = .error .notDirectory then .error .malformed
      else firstAt tree (placesIn tree (ladder tree start)) := by
  split
  · rename_i hkind
    obtain ⟨rest, hladder⟩ := exists_ladder_eq tree start
    rw [hladder, firstFound, searchPlace, hkind]
  · rename_i hkind
    -- A file on the way to a directory above the start would be on the way to the start as well.
    refine firstFound_eq_firstAt fun directory hdirectory hway => hkind ?_
    exact FileTree.kindOf_notDirectory_of_prefix hway (prefix_of_mem_ladder hdirectory)

end Ladder

end ConfigLoader

end NamedParams
