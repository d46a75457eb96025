import NamedParams.Glob.Brace
import NamedParams.Path

namespace NamedParams.Glob

/-- Whether a class in brackets starts somewhere. -/
def hasClass : List Char → Bool
  | '[' :: rest => (rest.takeWhile (· != '[')).contains ']' || hasClass rest
  | _ :: rest => hasClass rest
  | [] => false

/-- Whether a text goes on with alternatives up to a closing parenthesis. -/
def hasAlternatives : List Char → Bool
  | '(' :: _ => false
  | '|' :: rest => (rest.takeWhile (· != '|')).contains ')' || hasAlternatives rest
  | _ :: rest => hasAlternatives rest
  | [] => false

/-- Whether a group starts somewhere: alternatives in parentheses, or anything in them after a
    sign. -/
def hasGroup (before : Option Char) : List Char → Bool
  | '(' :: rest =>
    let signed := before.any "!*+?@".toList.contains
    (if signed then (rest.takeWhile (· != '(')).contains ')' else hasAlternatives rest) ||
      hasGroup (some '(') rest
  | c :: rest => hasGroup (some c) rest
  | [] => false

/-- A pattern without any sign is the path of one file. -/
def isStatic (pattern : List Char) : Bool :=
  !(pattern.any "\\*?".toList.contains || pattern.head? == some '!' || hasClass pattern ||
    hasGroup none pattern)

/-- Whether a path holds signs of a pattern, other than behind backslashes. Question marks count
    only after signs. -/
def hasSigns (before : Option Char) : List Char → Bool
  | '\\' :: _ :: rest => hasSigns none rest
  | '(' :: rest =>
    let closed := rest.contains ')'
    let alternatives := (rest.takeWhile (· != ')')).contains '|'
    (closed && (before.any "@?!+*".toList.contains || alternatives)) ||
      (!closed && !rest.isEmpty) || hasSigns (some '(') rest
  | c :: rest =>
    c == '*' || c == '[' || c == '\x7b' || (c == '?' && before.any "].+)".toList.contains) ||
      (c == '!' && before.isNone) || hasSigns (some c) rest
  | [] => false

def unescape : List Char → List Char
  | '\\' :: c :: rest =>
    if "!*?|[]()\x7b\x7d".toList.contains c then c :: unescape rest
    else '\\' :: unescape (c :: rest)
  | c :: rest => c :: unescape rest
  | [] => []
termination_by text => text.length

/-- The closest directory above a path without signs of a pattern. -/
def plainParent : Nat → String → String
  | 0, path => path
  | fuel + 1, path =>
    let directory := Path.parent path
    if hasSigns none directory.toList then plainParent fuel directory else directory

/-- The directory below which everything lies that a pattern can match. -/
def baseDirectory (pattern : List Char) : String :=
  String.ofList (unescape (plainParent (pattern.length + 1)
    (String.ofList (pattern ++ ['a']))).toList)

/-- Whether a pattern can keep a search out of directories: it ends in two stars, or its last
    name has no signs. -/
def limitsDepth (pattern : List Char) : Bool :=
  ['/', '*', '*'].isSuffixOf pattern || isStatic (Path.fileName (String.ofList pattern)).toList

end NamedParams.Glob
