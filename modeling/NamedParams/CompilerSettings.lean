import NamedParams.FileTree
import NamedParams.Text.Blank

namespace NamedParams.CompilerSettings

open NamedParams.Text

/-- The tokens of a settings file. -/
inductive Token where
  | sign (c : Char)
  | text (isDoubleQuoted : Bool)
  | number
  | word (name : String)
  | other
  | stop
deriving DecidableEq, Repr, Inhabited

/-- The rest of a text behind a comment in signs, if the comment ends. -/
def skipComment? : List Char → Option (List Char)
  | '*' :: '/' :: rest => some rest
  | _ :: rest => skipComment? rest
  | [] => none

/-- Skips white space and comments. `fuel` bounds the number of gaps. -/
def skipGaps : Nat → List Char → Except String (List Char)
  | 0, text => .ok text
  | fuel + 1, text =>
    match text.dropWhile isWhite with
    | '/' :: '/' :: rest => skipGaps fuel (rest.dropWhile (· != '\n'))
    | '/' :: '*' :: rest =>
      match skipComment? rest with
      | some rest => skipGaps fuel rest
      | none => .error "'*/' expected."
    | rest => .ok rest

/-- The rest of a text behind the quote that ends it. A quoted text stays in its line. -/
def skipQuoted? (quote : Char) : List Char → Option (List Char)
  | [] => none
  | '\\' :: _ :: rest => skipQuoted? quote rest
  | c :: rest =>
    if c == quote then some rest else if c == '\n' then none else skipQuoted? quote rest

def isWordStart (c : Char) : Bool :=
  c.isAlpha || c == '_' || c == '$' || (0x80 ≤ c.toNat && !isWhite c)

/-- The rest of a text behind a number. -/
def skipNumber (text : List Char) : List Char :=
  let isPart (c : Char) := c.isAlphanum || c == '_' || c == '.'
  match text.dropWhile isPart with
  | sign :: rest =>
    let isExponent := (sign == '+' || sign == '-') &&
      (text.takeWhile isPart).getLast?.any fun e => e == 'e' || e == 'E'
    if isExponent then rest.dropWhile Char.isDigit else sign :: rest
  | [] => []

/-- The first token of a text. -/
def nextToken (text : List Char) : Except String (Token × List Char) := do
  match ← skipGaps (text.length + 1) text with
  | [] => return (.stop, [])
  | c :: rest =>
    if "\x7b\x7d[],:-".toList.contains c then return (.sign c, rest)
    else if c == '\x22' || c == '\'' then
      match skipQuoted? c rest with
      | some rest => return (.text (c == '\x22'), rest)
      | none => throw "Unterminated string literal."
    else if c.isDigit then return (.number, skipNumber rest)
    else if isWordStart c then
      let isPart (c : Char) := isWordStart c || c.isDigit
      return (.word (String.ofList (c :: rest.takeWhile isPart)), rest.dropWhile isPart)
    else return (.other, rest)

/-- The tokens of a text, as far as they can be told, and what is wrong behind them. `fuel` bounds
    their number. -/
def tokens : Nat → List Char → List Token × Option String
  | 0, _ => ([], none)
  | fuel + 1, text =>
    match nextToken text with
    | .error complaint => ([], some complaint)
    | .ok (.stop, _) => ([.stop], none)
    | .ok (token, rest) =>
      let (more, complaint) := tokens fuel rest
      (token :: more, complaint)

def doubleQuotesExpected : String := "String literal with double quotes expected."

def valueExpected : String :=
  "Property value can only be string literal, numeric literal, 'true', 'false', 'null', object " ++
    "literal or array literal."

/-- What is left to read, and what is found wrong in values that can be read. -/
structure Progress where
  rest : List Token
  complaints : List String
deriving Inhabited

namespace Progress

def peek? (progress : Progress) : Option Token :=
  progress.rest.head?

def skip (progress : Progress) : Progress :=
  { progress with rest := progress.rest.drop 1 }

def complain (progress : Progress) (complaint : String) : Progress :=
  { progress with complaints := progress.complaints ++ [complaint] }

end Progress

/-- What is to be read: a value, the members of an object or the elements of a list. -/
inductive Part where
  | value
  | members
  | elements
deriving DecidableEq, Repr

/-- Goes on behind a member or an element: with the next one, or behind the end. -/
def Part.afterOne (progress : Progress) (close : Char) (closeExpected : String) :
    Except String (Option Progress) :=
  match progress.peek? with
  | some (.sign c) =>
    if c == ',' then .ok none
    else if c == close then .ok (some progress.skip)
    else .error "',' expected."
  | some .stop => .error closeExpected
  | _ => .error "',' expected."

/-- Reads a part. `fuel` bounds the number of steps; texts that cannot be told into tokens end
    early. -/
def readPart : Nat → Part → Progress → Except String Progress
  | 0, _, progress => .ok progress
  | fuel + 1, .value, progress =>
    match progress.peek? with
    | some (.sign '\x7b') => readPart fuel .members progress.skip
    | some (.sign '[') => readPart fuel .elements progress.skip
    | some (.sign '-') =>
      match progress.skip.peek? with
      | some .number => .ok progress.skip.skip
      | some (.word _) => .ok (progress.skip.skip.complain valueExpected)
      | _ => .error "Expression expected."
    | some (.text isDoubleQuoted) =>
      .ok (if isDoubleQuoted then progress.skip else progress.skip.complain doubleQuotesExpected)
    | some .number => .ok progress.skip
    | some (.word name) =>
      .ok (if ["true", "false", "null"].contains name then progress.skip
        else progress.skip.complain valueExpected)
    | _ => .error "Expression expected."
  | fuel + 1, .members, progress =>
    let closeExpected := "'\x7d' expected."
    let member (progress : Progress) (isShort : Bool) : Except String Progress := do
      let next ←
        if progress.peek? = some (.sign ':') then readPart fuel .value progress.skip
        else if isShort then .ok (progress.complain "Property assignment expected.")
        else .error "':' expected."
      match ← Part.afterOne next '\x7d' closeExpected with
      | some progress => return progress
      | none => readPart fuel .members next.skip
    match progress.peek? with
    | some (.sign '\x7d') => .ok progress.skip
    | some .stop => .error closeExpected
    | some (.text true) => member progress.skip false
    | some (.text false) | some .number =>
      member (progress.skip.complain doubleQuotesExpected) false
    | some (.word _) =>
      if progress.skip.peek? = some (.sign ':') then
        member (progress.skip.complain doubleQuotesExpected) false
      else member progress.skip true
    | _ => .error "Property assignment expected."
  | fuel + 1, .elements, progress =>
    let closeExpected := "']' expected."
    match progress.peek? with
    | some (.sign ']') => .ok progress.skip
    | some (.sign ',') => readPart fuel .elements (progress.skip.complain valueExpected)
    | some .stop => .error closeExpected
    | some (.sign c) =>
      if c == '\x7d' || c == ':' then .error "Expression or comma expected."
      else do
        let next ← readPart fuel .value progress
        match ← Part.afterOne next ']' closeExpected with
        | some progress => return progress
        | none => readPart fuel .elements next.skip
    | some .other => .error "Expression or comma expected."
    | _ => do
      let next ← readPart fuel .value progress
      match ← Part.afterOne next ']' closeExpected with
      | some progress => return progress
      | none => readPart fuel .elements next.skip

/-- The complaint about settings that are no object. It names one of two kinds of files. -/
def objectExpected (fileName : String) : String :=
  let kind := if fileName = "jsconfig.json" then fileName else "tsconfig.json"
  "The root value of a '" ++ kind ++ "' file must be an object."

/-- Reads the tokens of settings, which are an object or nothing at all. -/
def readSettings (fileName : String) (tokens : List Token) : Except String Unit := do
  let fuel := 2 * tokens.length + 2
  match tokens with
  | [] | [.stop] => return
  | .sign '\x7b' :: _ =>
    let progress ← readPart fuel .value ⟨tokens, []⟩
    if progress.peek? != some .stop && progress.peek?.isSome then throw "Unexpected token."
    match progress.complaints with
    | complaint :: _ => throw complaint
    | [] => return
  | first :: second :: _ =>
    let isValue := match first with
      | .sign '[' | .sign '-' | .number => true
      | .text _ => second != .sign ':'
      | .word name => ["true", "false", "null"].contains name
      | _ => false
    if !isValue then throw "'\x7b' expected."
    let progress ← readPart fuel .value ⟨tokens, []⟩
    if progress.peek? != some .stop then throw "Unexpected token."
    throw (objectExpected fileName)
  | [_] => throw "'\x7b' expected."

/-- What is wrong with the text of settings. Comments are allowed, and so are commas behind the
    last member or element. -/
def textComplaint? (fileName text : String) : Option String :=
  let (tokens, unreadable) := tokens (text.length + 1) text.toList
  match readSettings fileName tokens, unreadable with
  | .error complaint, none => some complaint
  | _, some complaint => some complaint
  | .ok (), none => none

/-- Why the settings at a path cannot be used, if they cannot. -/
def complaint? (tree : FileTree) (path : String) : Option String :=
  let place := Path.resolve [] path
  match tree.kindOf place with
  | .ok .file => textComplaint? (Path.fileName path) ((tree.read? place).getD "")
  | .ok .directory => some "EISDIR: illegal operation on a directory, read"
  | .error .missing => some ("File not found: " ++ path)
  | .error .notDirectory => some (AccessError.notDirectory.message "open" path)

end NamedParams.CompilerSettings
