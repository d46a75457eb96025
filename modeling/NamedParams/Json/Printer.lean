import NamedParams.Json.Value

namespace NamedParams.Json

/-- The last digit of an escape. -/
def hexDigit (n : Nat) : Char :=
  Nat.digitChar (n % 16)

/-- A character inside a quoted text. Quotes, backslashes and control characters are escaped. -/
def escapeChar (c : Char) : List Char :=
  if c = '\x22' then ['\\', '\x22']
  else if c = '\\' then ['\\', '\\']
  else if c = '\n' then ['\\', 'n']
  else if c = '\r' then ['\\', 'r']
  else if c = '\t' then ['\\', 't']
  else if c = '\x08' then ['\\', 'b']
  else if c = '\x0c' then ['\\', 'f']
  else if c.toNat < 0x20 then ['\\', 'u', '0', '0', hexDigit (c.toNat / 16), hexDigit c.toNat]
  else [c]

def quote (text : String) : List Char :=
  '\x22' :: (text.toList.flatMap escapeChar ++ ['\x22'])

/-- How a document is laid out: on one line, or with each element on a line of its own. -/
inductive Layout where
  | line
  | indented (depth : Nat)
deriving DecidableEq, Repr

/-- What stands between elements, and before the closing bracket. -/
def Layout.newline : Layout → List Char
  | .line => []
  | .indented depth => '\n' :: List.replicate (2 * depth) ' '

def Layout.deeper : Layout → Layout
  | .line => .line
  | .indented depth => .indented (depth + 1)

/-- What stands between a key and its value. -/
def Layout.colon : Layout → List Char
  | .line => [':']
  | .indented _ => [':', ' ']

/-- A number that is not finite has no written form, and is written as null. -/
def numberText : JsonNumber → List Char
  | .finite negative decimal => (JsonNumber.finite negative decimal).text
  | .infinite _ => "null".toList

mutual

/-- Writes a value. -/
def print (layout : Layout) : Json → List Char
  | .null => "null".toList
  | .bool value => if value then "true".toList else "false".toList
  | .number value => numberText value
  | .string value => quote value
  | .array [] => ['[', ']']
  | .array (element :: rest) =>
    '[' :: (layout.deeper.newline ++ print layout.deeper element ++
      printElements layout.deeper rest ++ layout.newline ++ [']'])
  | .object [] => ['\x7b', '\x7d']
  | .object ((key, value) :: rest) =>
    '\x7b' :: (layout.deeper.newline ++ quote key ++ layout.colon ++ print layout.deeper value ++
      printMembers layout.deeper rest ++ layout.newline ++ ['\x7d'])

/-- Writes the elements of an array after the first. -/
def printElements (layout : Layout) : List Json → List Char
  | [] => []
  | element :: rest =>
    ',' :: (layout.newline ++ print layout element ++ printElements layout rest)

/-- Writes the members of an object after the first. -/
def printMembers (layout : Layout) : List (String × Json) → List Char
  | [] => []
  | (key, value) :: rest =>
    ',' :: (layout.newline ++ quote key ++ layout.colon ++ print layout value ++
      printMembers layout rest)

end

/-- The document with two blanks of indentation for each level. -/
def pretty (value : Json) : String :=
  String.ofList (print (.indented 0) value)

/-- The document on one line. -/
def compact (value : Json) : String :=
  String.ofList (print .line value)

end NamedParams.Json
