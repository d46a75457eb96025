import NamedParams.Config
import NamedParams.Config.File
import NamedParams.Failure

namespace NamedParams

/-- Why no configuration is loaded: there is no such file, it or one that was found cannot be read,
    or its content is none. -/
inductive ConfigFailure where
  | notFound (path : String)
  | notRead (path : Option String)
  | notAnObject (file : String)
deriving DecidableEq, Repr, Inhabited

namespace ConfigFailure

/-- The complaint. What is wrong with the text of a file is left open. -/
def message : ConfigFailure → String
  | notFound path => "Config file not found: " ++ path
  | notRead _ => "Failed to load config: ..."
  | notAnObject _ => Config.notAnObject

def code : ConfigFailure → FailureCode
  | notFound _ => .configNotFound
  | _ => .invalidConfig

/-- The path of the file that is to blame, as it was given if it was. -/
def file : ConfigFailure → Option String
  | notFound path => some path
  | notRead path => path
  | notAnObject file => some file

def thrown (failure : ConfigFailure) : Thrown :=
  .config failure.message ("Error: " ++ failure.message) failure.code failure.file none

end ConfigFailure

/-- The configuration that a value describes, if there is one. Otherwise the file that it comes from
    is to blame. -/
def Config.validate (root : List String) (file : Option String) (value : Option Json) :
    Except Thrown Config :=
  match value.bind (ofJson? root file) with
  | some config => .ok config
  | none => .error (.config notAnObject ("Error: " ++ notAnObject) .invalidConfig file none)

/-- Where to load a configuration from. Without a path it is searched for, from a directory up. -/
structure ConfigRequest where
  path : Option String
  start : Option String
  isOff : Bool
deriving DecidableEq, Repr, Inhabited

/-- The configuration in use, and the file that it comes from. -/
structure LoadedConfig where
  config : Config
  file : Option (List String)
deriving DecidableEq, Repr, Inhabited

/-- What searches from some places have found. -/
abbrev ConfigFindings := List (List String × Option ConfigFile)

/-- Loads one configuration and keeps it. Files that were read are not read again, and neither is
    a search repeated that came to an end. Searches can be given settings by the user, below the key
    `cosmiconfig` of a package description or in a directory `.config`. Such settings are not
    modelled: a search always looks for the names in `fileNames`. -/
structure ConfigLoader where
  loaded : Option LoadedConfig
  readFiles : ConfigFindings
  searches : ConfigFindings
deriving Inhabited

namespace ConfigLoader

def start : ConfigLoader := ⟨none, [], []⟩

/-- The names of the files to search for in a directory, in this order. The one that ends in `.js`
    is a program, and reads as malformed where there is more in it than white space. -/
def fileNames : List String :=
  [".paramguardrc", ".paramguardrc.json", ".paramguardrc.yaml", ".paramguardrc.yml",
    "paramguard.config.js", "package.json"]

/-- The path of the file in use. -/
def path? (loader : ConfigLoader) : Option String :=
  (loader.loaded.bind (·.file)).map Path.absolute

/-- The first file of some names in a directory that holds a configuration. Names that cannot be
    read as files, and empty files, are passed over. -/
def findIn (tree : FileTree) (directory : List String) :
    List String → Except ConfigFault (Option ConfigFile)
  | [] => .ok none
  | name :: names =>
    match ConfigFile.read tree (directory ++ [name]) with
    | .ok (some file) =>
      if file.content.isSome then .ok (some file) else findIn tree directory names
    | .ok none | .error .missing | .error .unreadable => findIn tree directory names
    | .error .malformed => .error .malformed

/-- Whether a search ends in a directory: at the root, or where a package is described. -/
def isTop (tree : FileTree) (directory : List String) : Bool :=
  directory.isEmpty || ["package.json", "package.yaml"].any fun name =>
    (tree.kindOf (directory ++ [name])).isOk

/-- The directories to search in, from one up to the top. -/
def ladder (tree : FileTree) (directory : List String) : List (List String) :=
  let all := (List.range (directory.length + 1)).map fun i => directory.take (directory.length - i)
  let below := all.takeWhile (!isTop tree ·)
  below ++ (all.drop below.length).take 1

/-- What there is in a place to search in. Only directories hold files, but what a path runs
    through must not be a file. -/
def searchPlace (tree : FileTree) (place : List String) :
    Except ConfigFault (Option ConfigFile) :=
  match tree.kindOf place with
  | .ok .directory => findIn tree place fileNames
  | .ok .file | .error .missing => .ok none
  | .error .notDirectory => .error .malformed

/-- Searches some directories in turn. The outcome holds for each of them. -/
def searchAlong (tree : FileTree) (searches : ConfigFindings) :
    List (List String) → Except ConfigFault (Option ConfigFile × ConfigFindings)
  | [] => .ok (none, searches)
  | place :: rest =>
    match searches.lookup place with
    | some found => .ok (found, searches)
    | none => do
      let (found, searches) ← match ← searchPlace tree place with
        | some file => pure (some file, searches)
        | none => searchAlong tree searches rest
      return (found, (place, found) :: searches)

/-- Loads the file at a path. -/
def readFile (loader : ConfigLoader) (tree : FileTree) (root : List String) (path : String) :
    Except ConfigFailure (Option ConfigFile × ConfigLoader) :=
  let place := Path.resolve root path
  match loader.readFiles.lookup place with
  | some file => .ok (file, loader)
  | none =>
    match ConfigFile.read tree place with
    | .ok file => .ok (file, { loader with readFiles := (place, file) :: loader.readFiles })
    | .error .missing => .error (.notFound path)
    | .error _ => .error (.notRead (some path))

/-- Searches for a file from a directory up. -/
def search (loader : ConfigLoader) (tree : FileTree) (start : List String) :
    Except ConfigFailure (Option ConfigFile × ConfigLoader) :=
  match searchAlong tree loader.searches (ladder tree start) with
  | .ok (file, searches) => .ok (file, { loader with searches })
  | .error _ => .error (.notRead none)

/-- The configuration that a file describes. Without content, it describes the default. -/
def configOf (root : List String) : Option ConfigFile → Except ConfigFailure LoadedConfig
  | none => .ok ⟨.default, none⟩
  | some ⟨place, none⟩ => .ok ⟨.default, some place⟩
  | some ⟨place, some content⟩ =>
    match Config.ofJson? root (some (Path.absolute place)) content with
    | some config => .ok ⟨config, some place⟩
    | none => .error (.notAnObject (Path.absolute place))

/-- Loads a configuration, unless there is one. What was read stays known even if it turns out not
    to be a configuration. -/
def load (loader : ConfigLoader) (tree : FileTree) (root : List String)
    (request : ConfigRequest) : Except ConfigFailure LoadedConfig × ConfigLoader :=
  match loader.loaded with
  | some loaded => (.ok loaded, loader)
  | none =>
    if request.isOff then
      let loaded := ⟨.default, none⟩
      (.ok loaded, { loader with loaded := some loaded })
    else
      let file := match request.path.filter (· != "") with
        | some path => loader.readFile tree root path
        | none => loader.search tree (Path.resolve root (request.start.getD ""))
      match file with
      | .error failure => (.error failure, loader)
      | .ok (file, loader) =>
        match configOf root file with
        | .ok loaded => (.ok loaded, { loader with loaded := some loaded })
        | .error failure => (.error failure, loader)

end ConfigLoader

end NamedParams
