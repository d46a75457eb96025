import NamedParams.FileTree
import NamedParams.Json.Reader
import NamedParams.Text.Blank
import NamedParams.Yaml.Document

namespace NamedParams

/-- Why a configuration file cannot be read. -/
inductive ConfigFault where
  | missing
  | unreadable
  | malformed
deriving DecidableEq, Repr, Inhabited

/-- A configuration file that was read. One with nothing but white space has no content. -/
structure ConfigFile where
  place : List String
  content : Option Json
deriving Inhabited

namespace ConfigFile

/-- The key under which a package description holds the configuration. -/
def packageKey : String := "paramguard"

/-- The key that names files whose settings come before those of a file. -/
def importKey : String := "$import"

/-- Splits a file name into its stem and its ending, which starts with the last point. A point in
    front of a name starts no ending. -/
def splitName (name : String) : String × String :=
  let reversed := name.toList.reverse
  match reversed.dropWhile (· != '.') with
  | '.' :: c :: stem =>
    (String.ofList (c :: stem).reverse,
      String.ofList ('.' :: (reversed.takeWhile (· != '.')).reverse))
  | _ => (name, "")

/-- Reads a text in the format that the ending of its file names. Files that are programs, with an
    ending such as `.js`, are outside of the model: nothing is run to learn which value they
    compute, so that they read as malformed. -/
def readFormat (ending text : String) : Option Json :=
  if ending = ".json" then Json.parse text
  else if ["", ".yaml", ".yml"].contains ending then Yaml.parse text
  else none

/-- The part of a package description that is the configuration. Null has no parts. -/
def packagePart : Json → Except ConfigFault Json
  | .null => .error .malformed
  | value => .ok ((value.get? packageKey).getD .null)

/-- The value that the text of a file writes, if there is more than white space. -/
def readText (name text : String) : Except ConfigFault (Option Json) :=
  if (Text.trim text.toList).isEmpty then .ok none
  else
    let (stem, ending) := splitName name
    match readFormat ending text with
    | none => .error .malformed
    | some value =>
      if stem = "package" then (packagePart value).map some else .ok (some value)

/-- Reads a file as the operating system does. -/
def readPlace (tree : FileTree) (place : List String) : Except ConfigFault String :=
  match tree.kindOf place with
  | .ok .file => .ok ((tree.read? place).getD "")
  | .ok .directory | .error .notDirectory => .error .unreadable
  | .error .missing => .error .missing

/-- The paths of the files that a configuration builds on. -/
def importPaths (value : Json) : Option (Except ConfigFault (List String)) :=
  match value.get? importKey with
  | none => none
  | some (.array elements) =>
    some (if elements.all (·.string?.isSome) then .ok (elements.filterMap Json.string?)
      else .error .malformed)
  | some (.string path) => some (.ok [path])
  | some _ => some (.error .malformed)

/-- Lays members over others: lists are joined, and all else is replaced. -/
def overlay (members upper : List (String × Json)) : List (String × Json) :=
  upper.foldl (fun members (key, value) =>
    match (Json.object members).get? key, value with
    | some (.array first), .array second =>
      Json.setMember members key (.array (first ++ second))
    | _, _ => Json.setMember members key value) members

/-- The members of an imported value. There have to be some settings to import. -/
def importedMembers : Option Json → Except ConfigFault (List (String × Json))
  | none | some .null => .error .malformed
  | some (.object members) => .ok members
  | some _ => .ok []

/-- Reads the value of a file, with the settings of the files that it builds on. No file builds on
    itself, so `fuel` bounds how many there are in a row. -/
def readValue (tree : FileTree) : Nat → List (List String) → List String →
    Except ConfigFault (Option Json)
  | 0, _, _ => .error .malformed
  | fuel + 1, above, place => do
    let text ← readPlace tree place
    let value ← readText (place.getLastD "") text
    match value with
    | some (.object members) =>
      match importPaths (.object members) with
      | none => return some (.object members)
      | some paths =>
        let above := place :: above
        let places := (← paths).map (Path.resolve place.dropLast)
        if places.any above.contains then throw .malformed
        let imported ← places.mapM fun place => do
          importedMembers (← readValue tree fuel above place)
        let own := members.filter (·.1 != importKey)
        return some (.object ((imported ++ [own]).foldl overlay []))
    | value => return value

/-- Reads a file. A null in it stands for no file. -/
def read (tree : FileTree) (place : List String) : Except ConfigFault (Option ConfigFile) := do
  match ← readValue tree (tree.files.length + 1) [] place with
  | some .null => return none
  | content => return some ⟨place, content⟩

end ConfigFile

end NamedParams
