import NamedParams.Json.Plain
import NamedParams.Yaml.Scalar
import NamedParams.Yaml.Tag

namespace NamedParams.Yaml

inductive Kind where
  | scalar
  | list
  | mapping
deriving DecidableEq, Repr, Inhabited

/-- A node of a document. One that is not present has neither content nor properties. -/
structure Node where
  tag : Option Tag
  anchor : Option String
  kind : Option Kind
  value : Json
  isPresent : Bool
deriving Inhabited

/-! Tags -/

/-- The only member of an object. -/
def singleMember? : Json → Option (String × Json)
  | .object [member] => some member
  | _ => none

/-- Whether a text writes whole bytes, six bits a character. -/
def isBase64 (text : List Char) : Bool :=
  let digits := text.filter (!isBreak ·)
  digits.all (fun c => c.isAlphanum || c == '+' || c == '/' || c == '=') &&
    6 * digits.length % 8 = 0

/-- The value of a scalar with a common tag. An empty scalar is null. -/
def scalarWithTag? (name : String) (value : Json) : Option Json :=
  match name, value with
  | "str", .null => some (.string "")
  | "str", value => some value
  | "null", .null | "merge", .null => some .null
  | "null", .string text =>
    if ["~", "null", "Null", "NULL"].contains text then some .null else none
  | "bool", .string text =>
    match plainValue text with
    | .data (.bool value) => some (.bool value)
    | _ => none
  | "int", .string text => (integer? text.toList).map .number
  | "float", .string text => (decimal? text.toList).map .number
  | "timestamp", .string text => if isTimestamp text.toList then some (.object []) else none
  | "merge", .string text => if text = "<<" then some value else none
  | "binary", .string text => if isBase64 text.toList then some (.object []) else none
  | _, _ => none

/-- The value of a list with a common tag. An empty node is an empty list. -/
def listWithTag? (name : String) (elements : List Json) : Option Json :=
  let keys := elements.filterMap fun element => (singleMember? element).map Prod.fst
  match name with
  | "seq" => some (.array elements)
  | "omap" =>
    if keys.length = elements.length && keys.eraseDups.length = keys.length then
      some (.array elements)
    else none
  | "pairs" =>
    (elements.mapM singleMember?).map fun members =>
      .array (members.map fun (key, value) => .array [.string key, value])
  | _ => none

/-- The value of a mapping with a common tag. An empty node is an empty mapping. -/
def mappingWithTag? (name : String) (members : List (String × Json)) : Option Json :=
  match name with
  | "map" => some (.object members)
  | "set" => if members.all (·.2 matches .null) then some (.object members) else none
  | _ => none

/-- The value of a node with a common tag. Without content, the tag alone tells its kind. -/
def valueWithTag? (name : String) (kind : Option Kind) (value : Json) : Option Json :=
  match kind, value with
  | some .scalar, value => scalarWithTag? name value
  | some .list, .array elements => listWithTag? name elements
  | some .mapping, .object members => mappingWithTag? name members
  | none, .null =>
    ((scalarWithTag? name .null).or (listWithTag? name [])).or (mappingWithTag? name [])
  | _, _ => none

/-- The value that a node stands for, and what its tag turns out to be. Unknown tags are
    refused. -/
def resolveTag (tag : Option Tag) (kind : Option Kind) (value : Json) :
    Option (Json × Option Tag) :=
  match tag with
  | none => some (value, none)
  | some .asWritten => some (value, tag)
  | some (.named name) =>
    ((Tag.named name).commonName?.bind (valueWithTag? · kind value)).map (·, tag)
  | some .implicit =>
    match kind, value with
    | some .scalar, .string text =>
      match plainValue text with
      | .text => some (value, tag)
      | .mergeKey => some (value, some Tag.merge)
      | .data value => some (value, tag)
    | _, .null => some (.null, tag)
    | _, _ => none

/-! Mappings -/

/-- A mapping of which some pairs are read. Keys that come from merging may be given again. A key
    with a question mark waits for its value. -/
structure MappingProgress where
  members : List (String × Json)
  merged : List String
  waiting : Option Json
  isFound : Bool
deriving Inhabited

/-- The text of a key. Lists inside of lists are no keys. -/
def keyText? : Json → Option String
  | .array elements =>
    if elements.any (· matches .array _) then none else some (Json.array elements).plainText
  | value => some value.plainText

/-- The members of a value that is merged into a mapping. -/
def mergeSource? : Json → Option (List (String × Json))
  | .object members => some members
  | .array elements => some (elements.zipIdx.map fun (value, index) => (toString index, value))
  | _ => none

namespace MappingProgress

def start : MappingProgress := ⟨[], [], none, false⟩

/-- Merges members. Those that are there stay as they are. -/
def merge (progress : MappingProgress) (members : List (String × Json)) : MappingProgress :=
  let fresh := members.filter fun member => !progress.members.any (·.1 == member.1)
  { progress with
    members := fresh.foldl (fun members member => Json.setMember members member.1 member.2)
      progress.members
    merged := progress.merged ++ fresh.map Prod.fst }

/-- Adds a pair. No key is given twice. -/
def add (progress : MappingProgress) (key value : Json) : Option MappingProgress :=
  (keyText? key).bind fun key =>
    if progress.members.any (·.1 == key) && !progress.merged.contains key then none
    else some
      { progress with
        members := Json.setMember progress.members key value
        merged := progress.merged.filter (· != key) }

/-- Adds a pair whose key asks to merge one or more mappings. -/
def addMerged (progress : MappingProgress) (value : Json) : Option MappingProgress :=
  match value with
  | .array elements => (elements.mapM mergeSource?).map fun sources => sources.foldl merge progress
  | value => (mergeSource? value).map progress.merge

/-- Adds the pair of a key node. -/
def addNode (progress : MappingProgress) (key : Node) (value : Json) : Option MappingProgress :=
  if key.tag = some Tag.merge && (keyText? key.value).isSome then progress.addMerged value
  else progress.add key.value value

/-- Gives up waiting for the value of a key. -/
def settle (progress : MappingProgress) : Option MappingProgress :=
  match progress.waiting with
  | some key => ({ progress with waiting := none }).add key .null
  | none => some progress

end MappingProgress

end NamedParams.Yaml
