import NamedParams.Arguments
import NamedParams.Json.Value
import NamedParams.Path

namespace NamedParams

/-- The callees whose calls count as assertions unless others are configured. -/
def defaultAssertionFunctions : List String :=
  ["assert", "assert.ok", "invariant"]

/-- What is checked, and how. -/
structure Config where
  «include» : List String
  exclude : List String
  tsconfigPath : Option String
  assertionFunctions : List String
deriving DecidableEq, Repr, Inhabited

namespace Config

def default : Config :=
  { «include» := ["src/**/*.ts", "src/**/*.tsx"]
    exclude := ["**/node_modules/**", "**/dist/**", "**/build/**", "**/*.d.ts"]
    tsconfigPath := none
    assertionFunctions := defaultAssertionFunctions }

/-- The texts of a list that are not empty. Other values are no lists. -/
def texts? (value : Option Json) : Option (List String) :=
  (value.bind Json.array?).map fun elements =>
    (elements.filterMap Json.string?).filter (· != "")

/-- The fields that an object sets, over the defaults. A path is relative to the file that names
    it, if there is one. A list without assertion functions would turn the rule off, so it does
    not count. -/
def ofMembers (root : List String) (file : Option String) (members : List (String × Json)) :
    Config :=
  let field (key : String) := (Json.object members).get? key
  let functions := ((texts? (field "assertionFunctions")).filter (!·.isEmpty)).getD
    default.assertionFunctions
  let path := (field "tsconfigPath").bind Json.string? |>.map fun path =>
    match file with
    | none | some "" => path
    | some file => Path.absolute (Path.resolve (Path.resolve root (Path.parent file)) path)
  { «include» := (texts? (field "include")).getD default.include
    exclude := (texts? (field "exclude")).getD default.exclude
    tsconfigPath := path
    assertionFunctions := functions }

/-- The complaint about a value that describes no configuration. -/
def notAnObject : String := "Config must be an object"

/-- The configuration that a value describes. Only objects describe one. -/
def ofJson? (root : List String) (file : Option String) (value : Json) : Option Config :=
  value.object?.map (ofMembers root file)

/-- Replaces the settings that the command line gives. -/
def override (config : Config) (root : List String) (directory : String)
    (tsconfig assertions : Option String) : Config :=
  let path := (tsconfig.filter (· != "")).map fun path =>
    Path.absolute (Path.resolve (Path.resolve root directory) path)
  { config with
    tsconfigPath := path.orElse fun _ => config.tsconfigPath
    assertionFunctions := (assertions.bind listArgument?).getD config.assertionFunctions }

def toJson (config : Config) : Json :=
  .object ([("include", .array (config.include.map .string)),
    ("exclude", .array (config.exclude.map .string)),
    ("assertionFunctions", .array (config.assertionFunctions.map .string))] ++
    (config.tsconfigPath.map fun path => ("tsconfigPath", Json.string path)).toList)

end Config

end NamedParams
