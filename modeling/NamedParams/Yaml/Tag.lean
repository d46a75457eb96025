import NamedParams.Text.Escape
import NamedParams.Yaml.Cursor

namespace NamedParams.Yaml

open NamedParams.Text

/-- What a tag in front of a node says about it. -/
inductive Tag where
  | implicit
  | asWritten
  | named (name : String)
deriving DecidableEq, Repr, Inhabited

/-- The short handles that a document declares for the beginnings of tags. -/
abbrev TagHandles := List (String × String)

namespace Tag

/-- The beginning of the names of common tags. -/
def common : String := "tag:yaml.org,2002:"

def ofName (name : String) : Tag :=
  if name = "?" then implicit else if name = "!" then asWritten else named name

/-- The tag of the key that merges mappings. -/
def merge : Tag := named (common ++ "merge")

/-- The name of a common tag. -/
def commonName? : Tag → Option String
  | named name =>
    if common.toList.isPrefixOf name.toList then
      some (String.ofList (name.toList.drop common.length))
    else none
  | _ => none

end Tag

def isAsciiLetter (c : Char) : Bool :=
  c.isAlpha

/-- Whether a text is the handle of a tag. -/
def isHandle (text : String) : Bool :=
  match text.toList with
  | ['!'] => true
  | '!' :: rest =>
    rest.getLast? == some '!' && rest.dropLast.all fun c => isAsciiLetter c || c == '-'
  | _ => false

/-- Whether a text can stand in a tag. Other characters are written as two digits behind a
    percent sign. -/
def isTagText : List Char → Bool
  | [] => true
  | '%' :: a :: b :: rest => (hexDigit? a).isSome && (hexDigit? b).isSome && isTagText rest
  | c :: rest => (c.isAlphanum || "-#;/?:@&=+$,_.!~*'()[]".toList.contains c) && isTagText rest

/-- Whether a text can be a tag. -/
def isTagName : List Char → Bool
  | [] => false
  | c :: rest => !isFlowSign c && isTagText rest

/-- The bytes of a text whose percent signs stand for bytes. -/
def percentBytes : List Char → List UInt8
  | [] => []
  | '%' :: a :: b :: rest =>
    match hexDigit? a, hexDigit? b with
    | some a, some b => UInt8.ofNat (16 * a + b) :: percentBytes rest
    | _, _ => '%'.toUInt8 :: percentBytes (a :: b :: rest)
  | c :: rest => c.toString.toUTF8.toList ++ percentBytes rest

/-- The text that percent signs write. -/
def percentDecode? (text : List Char) : Option String :=
  if hasBarePercent text then none else String.fromUTF8? ⟨(percentBytes text).toArray⟩
where
  hasBarePercent : List Char → Bool
    | [] => false
    | '%' :: a :: b :: rest =>
      (hexDigit? a).isNone || (hexDigit? b).isNone || hasBarePercent rest
    | '%' :: _ => true
    | _ :: rest => hasBarePercent rest

/-- The full name of a tag with a handle. -/
def expandHandle? (handles : TagHandles) (handle name : String) : Option Tag :=
  match handles.lookup handle with
  | some start => some (Tag.ofName (start ++ name))
  | none =>
    if handle = "!" then some (Tag.ofName ("!" ++ name))
    else if handle = "!!" then some (Tag.ofName (Tag.common ++ name))
    else none

/-- Splits the text of a tag, behind its exclamation mark, into its handle and its name. -/
def splitHandle? (text : List Char) : Option (String × List Char) :=
  match text with
  | '!' :: name => if name.contains '!' then none else some ("!!", name)
  | _ =>
    if text.contains '!' then
      let handle := String.ofList ('!' :: text.takeWhile (· != '!') ++ ['!'])
      let name := (text.dropWhile (· != '!')).drop 1
      if isHandle handle && !name.contains '!' then some (handle, name) else none
    else some ("!", text)

/-- Reads a tag from its exclamation mark on. -/
def readTag (handles : TagHandles) (place : Cursor) : Option (Tag × Cursor) := do
  let place := place.skip 1
  match place.rest with
  | '<' :: first :: rest =>
    let name := first :: rest.takeWhile (· != '>')
    if name.length = rest.length + 1 || name.any isBreak then failure
    if !isTagName name then failure
    return (Tag.ofName (← percentDecode? name), place.skip (name.length + 2))
  | _ =>
    let (text, place) := place.takeWord fun _ => false
    let (handle, name) ← splitHandle? text
    if name.any isFlowSign || !(name.isEmpty || isTagName name) then failure
    return (← expandHandle? handles handle (← percentDecode? name), place)

end NamedParams.Yaml
