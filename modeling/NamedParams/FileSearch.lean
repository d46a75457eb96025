import NamedParams.FileTree
import NamedParams.Config
import NamedParams.Glob.Base
import NamedParams.Glob.Search
import NamedParams.Text.Units

namespace NamedParams

open NamedParams.Glob NamedParams.Text

/-- One walk through the files below a directory. -/
structure SearchTask where
  base : String
  wanted : List (List Char)
deriving Repr, Inhabited

/-- The patterns that a search leaves out, read for what they are compared with. -/
structure Exclusions where
  absolute : List SearchPattern
  relative : List SearchPattern
  directories : List SearchPattern
deriving Repr, Inhabited

namespace Exclusions

/-- An exclamation mark in front of an exclusion means nothing. -/
def withoutMark : List Char → List Char
  | '!' :: c :: rest => if c == '(' then '!' :: c :: rest else c :: rest
  | ['!'] => []
  | pattern => pattern

def ofPatterns (patterns : List String) : Exclusions :=
  let patterns := (patterns.flatMap searchAlternatives).map withoutMark
  let (absolute, relative) := patterns.partition (·.head? == some '/')
  { absolute := absolute.map (SearchPattern.read true)
    relative := relative.map (SearchPattern.read true)
    directories := (patterns.filter limitsDepth).map (SearchPattern.read false) }

/-- Whether a file is left out, by its path from the directory of the search or by its absolute
    path. -/
def excludes (exclusions : Exclusions) (path absolute : String) : Bool :=
  exclusions.relative.any (·.matchesPath path) || exclusions.absolute.any (·.matchesPath absolute)

end Exclusions

/-- Starting at the directory itself changes nothing about a path. -/
def withoutPoint (path : String) : String :=
  match path.toList with
  | '.' :: '/' :: rest => String.ofList rest
  | _ => path

/-- Groups the patterns of a search by the directories that they start from. If one of those is
    the directory of the search, it is walked for all patterns inside of it. -/
def searchTasks (patterns : List (List Char)) : List SearchTask :=
  let isOutside (pattern : List Char) :=
    ['.', '.'].isPrefixOf pattern || "./..".toList.isPrefixOf pattern
  let (outside, inside) := patterns.partition isOutside
  let grouped (patterns : List (List Char)) : List SearchTask :=
    (patterns.map baseDirectory).eraseDups.map fun base =>
      ⟨base, patterns.filter fun pattern => baseDirectory pattern = base⟩
  grouped outside ++
    if inside.any (baseDirectory · = ".") then [⟨".", inside⟩] else grouped inside

/-- The directories on the way from a base to a file, as paths. -/
def directoriesAbove (base : String) (names : List String) : List String :=
  (List.range (names.length - 1)).map fun i => base ++ "/".intercalate (names.take (i + 1))

/-- The files that a walk finds, as absolute paths. Directories that the exclusions match are not
    entered. -/
def SearchTask.run (task : SearchTask) (tree : FileTree) (directory : List String)
    (exclusions : Exclusions) : List (List String) :=
  let start := Path.resolve directory task.base
  let front := if task.base = "." then "" else if task.base = "/" then "/" else task.base ++ "/"
  let wanted := task.wanted.map (SearchPattern.read false)
  (tree.filesBelow start).filter fun place =>
    let names := place.drop start.length
    let path := withoutPoint (front ++ "/".intercalate names)
    (directoriesAbove front names).all (fun above =>
      !exclusions.directories.any (·.matchesPath (withoutPoint above))) &&
      wanted.any (·.matchesPath path) && !exclusions.excludes path (Path.absolute place)

/-- The files that patterns without signs name. -/
def staticFiles (tree : FileTree) (directory : List String) (patterns : List (List Char))
    (exclusions : Exclusions) : List (List String) :=
  let wanted := patterns.map (SearchPattern.read false)
  (patterns.map String.ofList).filterMap fun pattern =>
    let place := Path.resolve directory pattern
    let path := withoutPoint pattern
    if (tree.read? place).isSome && wanted.any (·.matchesPath path) &&
        !exclusions.excludes path (Path.absolute place) then some place
    else none

/-- The files that one pattern matches and the exclusions do not. -/
def searchPattern (tree : FileTree) (directory : List String) (pattern : String)
    (exclude : List String) : List (List String) :=
  let exclusions := Exclusions.ofPatterns exclude
  let (still, moving) := (searchAlternatives pattern).partition isStatic
  staticFiles tree directory still exclusions ++
    (searchTasks moving).flatMap (·.run tree directory exclusions)

/-- A pattern that is the path of a directory stands for everything below it. -/
def openDirectory (tree : FileTree) (directory : List String) (pattern : String) :
    Except String String :=
  let plain := match pattern.toList with
    | '!' :: rest => String.ofList rest
    | _ => pattern
  let path := if Path.isAbsolute plain then plain else Path.join (Path.absolute directory) plain
  let place := Path.resolve [] path
  let failure (error : AccessError) := Except.error (error.message "stat" path)
  match tree.kindOf place with
  | .ok .directory => .ok (Path.join pattern "**")
  | .ok .file =>
    if path.toList.getLast? == some '/' then failure .notDirectory else .ok pattern
  | .error .missing => .ok pattern
  | .error .notDirectory => failure .notDirectory

/-- A pattern to search for, with the exclusions that hold for it. -/
structure SearchRequest where
  pattern : String
  exclude : List String
deriving Repr, Inhabited

def isNegative (pattern : String) : Bool :=
  pattern.toList.head? == some '!'

/-- The patterns to search for. Each is subject to the exclusions that come after it. -/
def searchRequests (exclude : List String) : List String → List SearchRequest
  | [] => []
  | pattern :: rest =>
    if isNegative pattern then searchRequests exclude rest
    else
      let later := (rest.filter isNegative).map fun negative =>
        String.ofList (negative.toList.drop 1)
      ⟨pattern, exclude ++ later⟩ :: searchRequests exclude rest

/-- Searches a directory for the files that match some patterns and no exclusion. Exclusions that
    are the paths of directories start at `root`. -/
def searchFiles (tree : FileTree) (root directory : List String) (patterns exclude : List String) :
    Except String (List (List String)) := do
  if tree.kindOf directory matches .ok .file then
    throw "The \x60cwd\x60 option must be a path to a directory"
  let found ← (searchRequests exclude patterns.eraseDups).mapM fun request => do
    let pattern ← openDirectory tree directory request.pattern
    let exclude ← request.exclude.mapM (openDirectory tree root)
    return searchPattern tree directory pattern exclude
  return found.flatten.eraseDups

/-- Sorts paths by their code units. -/
def sortPaths (paths : List String) : List String :=
  paths.mergeSort unitsLE

/-- The patterns for all source files below a directory. -/
def sourcePatterns : List String :=
  ["**/*.ts", "**/*.tsx", "**/*.mts", "**/*.cts"]

/-- The source files that a target stands for: a file itself, or those below a directory. -/
def targetFiles (tree : FileTree) (root : List String) (config : Config) (place : List String) :
    Except String (List String) := do
  match tree.kindOf place with
  | .error error => throw (error.message "stat" (Path.absolute place))
  | .ok .file => return [Path.absolute place].filter isTypeScriptPath
  | .ok .directory =>
    let found ← searchFiles tree root place sourcePatterns config.exclude
    return (found.map Path.absolute).filter isTypeScriptPath

/-- The files to check: those that the targets stand for, or without targets those that the
    configuration includes. -/
def filesToCheck (tree : FileTree) (root : List String) (targets : List String) (config : Config)
    (directory : List String) : Except String (List String) := do
  if targets.isEmpty then
    let found ← searchFiles tree root directory config.include config.exclude
    return sortPaths (found.map Path.absolute)
  else
    let files ← targets.mapM fun target =>
      targetFiles tree root config (Path.resolve directory target)
    return sortPaths files.flatten.eraseDups

end NamedParams
