import Mathlib.Data.List.Basic
import NamedParams.Config.Search
import NamedParams.Proofs.Files.Places

namespace NamedParams

namespace Json

/-- Whether a value is a text with something in it. -/
def isFilledText : Json → Bool
  | string text => text != ""
  | _ => false

/-- Whether some texts are those that a value lists: it is a list, and they are its filled texts, in
    their order. -/
def Lists (value : Option Json) (texts : List String) : Prop :=
  ∃ elements, value = some (array elements) ∧ texts.map string = elements.filter isFilledText

end Json

namespace Config

/-- How a setting comes from the member with its name: a list gives its filled texts, and without a
    list the setting is the default one. -/
def ListSetting (fallback : List String) (value : Option Json) (setting : List String) : Prop :=
  Json.Lists value setting ∨ (∀ texts, ¬ Json.Lists value texts) ∧ setting = fallback

/-- The same for a setting that must not be empty. A list without filled texts is none. -/
def FilledSetting (fallback : List String) (value : Option Json) (setting : List String) : Prop :=
  Json.Lists value setting ∧ setting ≠ [] ∨
    (∀ texts, Json.Lists value texts → texts = []) ∧ setting = fallback

/-- The path that a text leads to: from the directory of the file that the text comes from, if
    there is one. -/
def pathFrom (root : List String) (file : Option String) (path : String) : String :=
  match file with
  | none | some "" => path
  | some file => Path.absolute (Path.resolve (Path.resolve root (Path.parent file)) path)

/-- How the path of the compiler settings comes from the member with its name. Only texts are
    paths. -/
def PathSetting (root : List String) (file : Option String) (value : Option Json)
    (setting : Option String) : Prop :=
  (∃ path, value = some (.string path) ∧ setting = some (pathFrom root file path)) ∨
    (∀ path, value ≠ some (.string path)) ∧ setting = none

/-- Whether each setting of a configuration comes from the member of a value with its name. -/
structure Follows (root : List String) (file : Option String) (value : Json) (config : Config) :
    Prop where
  included : ListSetting default.include (value.get? "include") config.include
  excluded : ListSetting default.exclude (value.get? "exclude") config.exclude
  path : PathSetting root file (value.get? "tsconfigPath") config.tsconfigPath
  functions : FilledSetting default.assertionFunctions (value.get? "assertionFunctions")
    config.assertionFunctions

/-- The names of the settings. -/
def settingKeys : List String :=
  ["include", "exclude", "tsconfigPath", "assertionFunctions"]

/-- Whether two configurations agree in each setting of which two values have the same member, and
    altogether if the values differ in other members alone. -/
structure AgreesAs (config other : Config) (value change : Json) : Prop where
  included : value.get? "include" = change.get? "include" → config.include = other.include
  excluded : value.get? "exclude" = change.get? "exclude" → config.exclude = other.exclude
  path : value.get? "tsconfigPath" = change.get? "tsconfigPath" →
    config.tsconfigPath = other.tsconfigPath
  functions : value.get? "assertionFunctions" = change.get? "assertionFunctions" →
    config.assertionFunctions = other.assertionFunctions
  all : (∀ key ∈ settingKeys, value.get? key = change.get? key) → config = other

section Members

theorem map_string_texts (elements : List Json) :
    ((elements.filterMap Json.string?).filter (· != "")).map Json.string =
      elements.filter Json.isFilledText := by
  induction elements with
  | nil => rfl
  | cons value rest ih =>
    cases value with
    | string text =>
      have hfirst : (Json.string text :: rest).filterMap Json.string? =
          text :: rest.filterMap Json.string? := rfl
      rw [hfirst, List.filter_cons, List.filter_cons, Json.isFilledText]
      split
      · rw [List.map_cons, ih]
      · exact ih
    | _ => exact ih

theorem lists_iff {value : Option Json} {texts : List String} :
    Json.Lists value texts ↔ texts? value = some texts := by
  have hstring : Function.Injective (List.map Json.string) :=
    List.map_injective_iff.mpr fun _ _ => Json.string.inj
  match value with
  | some (.array elements) =>
    have htexts : texts? (some (.array elements)) =
        some ((elements.filterMap Json.string?).filter (· != "")) := rfl
    rw [htexts, Option.some.injEq, ← hstring.eq_iff, map_string_texts]
    simp [Json.Lists, eq_comm]
  | none | some .null | some (.bool _) | some (.number _) | some (.string _)
  | some (.object _) => simp [Json.Lists, texts?, Json.array?]

theorem listSetting (fallback : List String) (value : Option Json) :
    ListSetting fallback value ((texts? value).getD fallback) := by
  cases htexts : texts? value with
  | none =>
    refine .inr ⟨fun texts hlists => ?_, rfl⟩
    cases htexts.symm.trans (lists_iff.mp hlists)
  | some texts => exact .inl (lists_iff.mpr htexts)

theorem filledSetting (fallback : List String) (value : Option Json) :
    FilledSetting fallback value (((texts? value).filter (!·.isEmpty)).getD fallback) := by
  cases htexts : texts? value with
  | none =>
    refine .inr ⟨fun texts hlists => ?_, rfl⟩
    cases htexts.symm.trans (lists_iff.mp hlists)
  | some texts =>
    cases texts with
    | nil =>
      refine .inr ⟨fun texts hlists => ?_, rfl⟩
      exact Option.some.inj ((lists_iff.mp hlists).symm.trans htexts)
    | cons text rest => exact .inl ⟨lists_iff.mpr htexts, List.cons_ne_nil _ _⟩

variable (root : List String) (file : Option String)

theorem pathSetting (value : Option Json) :
    PathSetting root file value ((value.bind Json.string?).map (pathFrom root file)) := by
  match value with
  | some (.string path) => exact .inl ⟨path, rfl, rfl⟩
  | none | some .null | some (.bool _) | some (.number _) | some (.array _)
  | some (.object _) => exact .inr ⟨by simp, rfl⟩

theorem ofMembers_eq (members : List (String × Json)) :
    let value := Json.object members
    ofMembers root file members =
      { «include» := (texts? (value.get? "include")).getD default.include
        exclude := (texts? (value.get? "exclude")).getD default.exclude
        tsconfigPath := ((value.get? "tsconfigPath").bind Json.string?).map (pathFrom root file)
        assertionFunctions := ((texts? (value.get? "assertionFunctions")).filter
          (!·.isEmpty)).getD default.assertionFunctions } := rfl

theorem follows_ofMembers (members : List (String × Json)) :
    (ofMembers root file members).Follows root file (.object members) := by
  rw [ofMembers_eq]
  exact ⟨listSetting _ _, listSetting _ _, pathSetting root file _, filledSetting _ _⟩

theorem agreesAs_ofMembers (members others : List (String × Json)) :
    (ofMembers root file members).AgreesAs (ofMembers root file others) (.object members)
      (.object others) := by
  rw [ofMembers_eq, ofMembers_eq]
  refine ⟨fun hsame => ?_, fun hsame => ?_, fun hsame => ?_, fun hsame => ?_, fun hsame => ?_⟩
  · rw [hsame]
  · rw [hsame]
  · rw [hsame]
  · rw [hsame]
  · simp only [settingKeys, List.forall_mem_cons] at hsame
    obtain ⟨hincluded, hexcluded, hpath, hfunctions, -⟩ := hsame
    rw [hincluded, hexcluded, hpath, hfunctions]

end Members

section Again

theorem ne_empty_of_texts? {value : Option Json} {texts : List String}
    (htexts : texts? value = some texts) : ∀ text ∈ texts, text ≠ "" := by
  obtain ⟨elements, -, rfl⟩ := Option.map_eq_some_iff.mp htexts
  intro text htext
  simpa using (List.mem_filter.mp htext).2

theorem ne_empty_of_getD {value : Option Json} {fallback : List String}
    (hfallback : ∀ text ∈ fallback, text ≠ "") :
    ∀ text ∈ (texts? value).getD fallback, text ≠ "" := by
  cases htexts : texts? value with
  | none => exact hfallback
  | some texts => exact ne_empty_of_texts? htexts

theorem texts?_strings {texts : List String} (htexts : ∀ text ∈ texts, text ≠ "") :
    texts? (some (.array (texts.map .string))) = some texts := by
  have helements : (texts.map Json.string).filterMap Json.string? = texts := by
    rw [List.filterMap_map]
    exact List.filterMap_some
  have hkept : texts.filter (· != "") = texts :=
    List.filter_eq_self.mpr fun text htext => bne_iff_ne.mpr (htexts text htext)
  rw [texts?, Option.bind_some, Json.array?, Option.map_some, helements, hkept]

/-- A text is a path as it stands, or leads from the directory of a file. -/
theorem pathFrom_cases (root : List String) (file : Option String) :
    (∀ path, pathFrom root file path = path) ∨ ∃ given, ∀ path, pathFrom root file path =
      Path.absolute (Path.resolve (Path.resolve root (Path.parent given)) path) := by
  unfold pathFrom
  split
  · exact .inl fun _ => rfl
  · exact .inl fun _ => rfl
  · exact .inr ⟨_, fun _ => rfl⟩

/-- A path that has been taken from a file leads to the same place when it is taken from it once
    more. -/
theorem pathFrom_pathFrom {root : List String} (hroot : Path.IsPlace root) (file : Option String)
    (path : String) : pathFrom root file (pathFrom root file path) = pathFrom root file path := by
  obtain hsame | ⟨given, hfrom⟩ := pathFrom_cases root file
  · rw [hsame, hsame]
  · have hplace : Path.IsPlace (Path.resolve (Path.resolve root (Path.parent given)) path) :=
      Path.isPlace_resolve (Path.isPlace_resolve hroot _) path
    rw [hfrom, hfrom, Path.resolve_absolute hplace]

/-- A configuration with filled texts alone describes itself, but for its path, which is taken from
    the file once more. -/
theorem ofJson?_toJson (root : List String) (file : Option String) {config : Config}
    (hincluded : ∀ text ∈ config.include, text ≠ "")
    (hexcluded : ∀ text ∈ config.exclude, text ≠ "")
    (hfunctions : ∀ name ∈ config.assertionFunctions, name ≠ "")
    (hsome : config.assertionFunctions ≠ []) :
    ofJson? root file config.toJson =
      some { config with tsconfigPath := config.tsconfigPath.map (pathFrom root file) } := by
  have hkept : (some config.assertionFunctions).filter (!·.isEmpty) =
      some config.assertionFunctions := by simp [hsome]
  have hpath : ((config.toJson.get? "tsconfigPath").bind Json.string?) = config.tsconfigPath := by
    obtain ⟨included, excluded, path, functions⟩ := config
    cases path <;> rfl
  have hmembers : config.toJson.get? "include" = some (.array (config.include.map .string)) ∧
      config.toJson.get? "exclude" = some (.array (config.exclude.map .string)) ∧
      config.toJson.get? "assertionFunctions" =
        some (.array (config.assertionFunctions.map .string)) := ⟨rfl, rfl, rfl⟩
  obtain ⟨members, hobject⟩ : ∃ members, config.toJson = .object members := ⟨_, rfl⟩
  rw [hobject] at hmembers hpath ⊢
  rw [ofJson?, Json.object?, Option.map_some, ofMembers_eq]
  rw [hmembers.1, hmembers.2.1, hmembers.2.2, hpath, texts?_strings hincluded,
    texts?_strings hexcluded, texts?_strings hfunctions, hkept]
  rfl

theorem filled_assertionFunctions (value : Option Json) :
    ∀ names, ((texts? value).filter (!·.isEmpty)).getD default.assertionFunctions = names →
      names ≠ [] ∧ ∀ name ∈ names, name ≠ "" := by
  have hdefault : default.assertionFunctions ≠ [] ∧
      ∀ name ∈ default.assertionFunctions, name ≠ "" := by decide
  rintro names rfl
  cases htexts : (texts? value).filter (!·.isEmpty) with
  | none => exact hdefault
  | some texts =>
    obtain ⟨hlist, hsome⟩ := Option.filter_eq_some_iff.mp htexts
    exact ⟨by simpa using hsome, ne_empty_of_texts? hlist⟩

/-- What a value describes describes itself. -/
theorem ofJson?_ofMembers {root : List String} (hroot : Path.IsPlace root) (file : Option String)
    (members : List (String × Json)) :
    ofJson? root file (ofMembers root file members).toJson = some (ofMembers root file members) := by
  have hpath (path : Option String) :
      (path.map (pathFrom root file)).map (pathFrom root file) = path.map (pathFrom root file) := by
    cases path with
    | none => rfl
    | some path => exact congrArg some (pathFrom_pathFrom hroot file path)
  rw [ofMembers_eq]
  obtain ⟨hsome, hfunctions⟩ := filled_assertionFunctions _ _ rfl
  rw [ofJson?_toJson root file _ _ hfunctions hsome]
  · dsimp only
    rw [hpath]
  · exact ne_empty_of_getD (by decide)
  · exact ne_empty_of_getD (by decide)

end Again

/-- Only objects describe configurations. For any other value, and without one, the complaint knows
    the file that is to blame. -/
theorem validate_of_not_object {root : List String} {file : Option String} {value : Option Json}
    (hvalue : ∀ members, value ≠ some (.object members)) :
    validate root file value = .error
      (.config "Config must be an object" "Error: Config must be an object" .invalidConfig file
        none) := by
  have hnone : value.bind (ofJson? root file) = none := by
    match value with
    | some (.object members) => exact absurd rfl (hvalue members)
    | none | some .null | some (.bool _) | some (.number _) | some (.string _)
    | some (.array _) => rfl
  rw [validate, hnone]
  rfl

/-- A configuration is read from a value setting by setting. Exactly the values that are no objects
    are refused, with the file that they come from. In a configuration, each setting comes from the
    member with its name and does not change with any other member, and members with other names
    change nothing. Read once more with the same file, a configuration stays what it is. -/
theorem validate_normalizes {root : List String} (hroot : Path.IsPlace root)
    (file : Option String) (value : Option Json) :
    ((∃ trace, validate root file value =
        .error (.config "Config must be an object" trace .invalidConfig file none)) ↔
      ∀ members, value ≠ some (.object members)) ∧
    ∀ members, value = some (.object members) →
      ∃ config, validate root file value = .ok config ∧
        config.Follows root file (.object members) ∧
        (∀ others, ∃ other, validate root file (some (.object others)) = .ok other ∧
          config.AgreesAs other (.object members) (.object others)) ∧
        validate root file (some config.toJson) = .ok config := by
  have hobject (members : List (String × Json)) :
      validate root file (some (.object members)) = .ok (ofMembers root file members) := rfl
  refine ⟨⟨?_, fun hvalue => ⟨_, validate_of_not_object hvalue⟩⟩, ?_⟩
  · rintro ⟨trace, hrefused⟩ members rfl
    cases hrefused.symm.trans (hobject members)
  · rintro members rfl
    have hagain := ofJson?_ofMembers hroot file members
    refine ⟨ofMembers root file members, hobject members, follows_ofMembers root file members,
      fun others => ⟨_, hobject others, agreesAs_ofMembers root file members others⟩, ?_⟩
    rw [validate, Option.bind_some, hagain]

/-- A value in which some settings are of the wrong kind, and some elements of lists. -/
def mixedSettings : List (String × Json) :=
  [("include", .array [.string "lib", .null, .string "", .string "src/../lib"]),
    ("exclude", .string "dist"), ("tsconfigPath", .string "../tsconfig.json"),
    ("assertionFunctions", .array [.string ""]), ("exlude", .array [])]

theorem validate_normalizes_of_mixedSettings :
    let file := some "conf/.paramguardrc"
    let config : Config :=
      { default with «include» := ["lib", "src/../lib"], tsconfigPath := some "/p/tsconfig.json" }
    validate ["p"] file (some (.object mixedSettings)) = .ok config ∧
      config.Follows ["p"] file (.object mixedSettings) ∧
      validate ["p"] file (some config.toJson) = .ok config := by
  intro file config
  have hroot : Path.IsPlace ["p"] := by decide
  have hread : ofMembers ["p"] file mixedSettings = config := by decide +kernel
  obtain ⟨other, hother, hfollows, -, hagain⟩ :=
    (validate_normalizes hroot file (some (.object mixedSettings))).2 _ rfl
  obtain rfl : other = config := (Except.ok.inj hother).symm.trans hread
  exact ⟨hother, hfollows, hagain⟩

end Config

end NamedParams
