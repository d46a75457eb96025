import NamedParams.Yaml.Reader

namespace NamedParams.Yaml

/-- What the directives in front of a document declare. -/
structure Directives where
  handles : TagHandles
  hasVersion : Bool
  isEmpty : Bool
deriving Repr, Inhabited

/-- Whether a text is a version that can be read: that is one with a leading one. -/
def isReadableVersion (text : String) : Bool :=
  match text.toList.splitOn '.' with
  | [major, minor] =>
    !major.isEmpty && major.all Char.isDigit && numeral major = 1 &&
      !minor.isEmpty && minor.all Char.isDigit
  | _ => false
where
  numeral (digits : List Char) : Nat := Number.numeral digits

namespace Directives

def none : Directives := ⟨[], false, true⟩

/-- Adds a directive. The version is given once, and so is each handle. Unknown directives mean
    nothing. -/
def add (directives : Directives) (name : String) (arguments : List String) : Option Directives :=
  let directives := { directives with isEmpty := false }
  match name, arguments with
  | "", _ => Option.none
  | "YAML", [version] =>
    if directives.hasVersion || !isReadableVersion version then Option.none
    else some { directives with hasVersion := true }
  | "TAG", [handle, start] =>
    if (directives.handles.lookup handle).isSome || !isHandle handle ||
        !isTagName start.toList then Option.none
    else (percentDecode? start.toList).map fun start =>
      { directives with handles := (handle, start) :: directives.handles }
  | "YAML", _ | "TAG", _ => Option.none
  | _, _ => some directives

end Directives

/-- The words of a line up to its end or a comment. `fuel` bounds their number. -/
def lineWords : Nat → Cursor → List String × Cursor
  | 0, place => ([], place)
  | fuel + 1, place =>
    let place := place.skipBlanks
    if place.peek == some '#' || place.rest.isEmpty || place.peek.any isBreak then
      ([], place.lineEnd)
    else
      let (word, place) := place.takeWord fun _ => false
      let (more, stop) := lineWords fuel place
      (String.ofList word :: more, stop)

/-- Reads the directives in front of a document. `fuel` bounds their number. -/
def readDirectives : Nat → Directives → Cursor → Option (Directives × Cursor)
  | 0, _, _ => none
  | fuel + 1, directives, place => do
    let place := place.nextWord
    if place.indent > 0 || place.peek != some '%' then return (directives, place)
    else
      let (name, stop) := (place.skip 1).takeWord fun _ => false
      let (arguments, stop) := lineWords stop.rest.length stop
      let directives ← directives.add (String.ofList name) arguments
      readDirectives fuel directives (stop.breakLine?.getD stop)

/-- Reads a document, up to the mark behind it or the end. -/
def readDocument (place : Cursor) : Option (Json × Cursor) := do
  let (directives, place) ← readDirectives (place.rest.length + 1) .none place
  let isMarked := place.indent = 0 && ['-', '-', '-'].isPrefixOf place.rest
  if !isMarked && !directives.isEmpty then none
  else
    let place := if isMarked then (place.skip 3).nextWord else place
    let fuel := 8 * place.rest.length + 16
    let (node, reading) ← readNode directives.handles fuel .value ((place.indent : Int) - 1) false
      true ⟨place, []⟩
    let stop := reading.place.nextWord
    if stop.isDocumentMark then
      let next := if stop.peek == some '.' then (stop.skip 3).nextWord else stop
      return (node.value, next)
    else if stop.rest.length ≤ 1 then return (node.value, stop)
    else none

/-- Reads the documents of a text. `fuel` bounds their number. -/
def readDocuments : Nat → Cursor → Option (List Json)
  | 0, _ => none
  | fuel + 1, place =>
    if place.rest.length ≤ 1 then some []
    else (readDocument place).bind fun (value, place) =>
      (readDocuments fuel place).map fun more => value :: more

/-- The start of a text. A byte order mark in front is not part of it, and its last line is
    ended. -/
def Cursor.ofText (text : String) : Cursor :=
  let content := text.toList
  let content := if content.getLast?.any isBreak then content else content ++ ['\n']
  let content := if content.head? == some '\ufeff' then content.drop 1 else content
  let spaces := (content.takeWhile (· == ' ')).length
  { rest := content.drop spaces, line := 0, column := spaces, indent := spaces, hasTab := false }

/-- Reads a text that holds one document. -/
def parse (text : String) : Option Json :=
  let start := Cursor.ofText text
  if start.rest.contains '\x00' then none
  else match readDocuments (start.rest.length + 1) start with
    | some [value] => some value
    | _ => none

end NamedParams.Yaml
