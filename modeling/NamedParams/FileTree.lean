import NamedParams.Path

namespace NamedParams

/-- The files and directories below the root. A directory that holds something need not be
    listed. -/
structure FileTree where
  files : List (List String × String)
  directories : List (List String)
deriving Repr, Inhabited

/-- Whether a file name is that of a source file with code, not only with declarations. -/
def isTypeScriptPath (path : String) : Bool :=
  let endsWith (ending : String) := ending.toList.isSuffixOf path.toList
  [".ts", ".tsx", ".mts", ".cts"].any endsWith && [".d.ts", ".d.mts", ".d.cts"].all (!endsWith ·)

inductive FileKind where
  | file
  | directory
deriving DecidableEq, Repr

/-- Why nothing is found at a place. -/
inductive AccessError where
  | missing
  | notDirectory
deriving DecidableEq, Repr

/-- What the operating system says about an operation that fails. -/
def AccessError.message (error : AccessError) (operation path : String) : String :=
  let reason := match error with
    | missing => "ENOENT: no such file or directory"
    | notDirectory => "ENOTDIR: not a directory"
  reason ++ ", " ++ operation ++ " '" ++ path ++ "'"

namespace FileTree

def empty : FileTree := ⟨[], []⟩

/-- The text of a file. -/
def read? (tree : FileTree) (place : List String) : Option String :=
  tree.files.lookup place

/-- Writes a file, or writes over it. -/
def write (tree : FileTree) (place : List String) (content : String) : FileTree :=
  if (tree.read? place).isSome then
    { tree with
      files := tree.files.map fun file => if file.1 = place then (place, content) else file }
  else { tree with files := tree.files ++ [(place, content)] }

def addDirectory (tree : FileTree) (place : List String) : FileTree :=
  { tree with directories := tree.directories ++ [place] }

/-- Whether one place lies below another. -/
def isBelow (directory place : List String) : Bool :=
  directory.isPrefixOf place && directory.length < place.length

def isDirectory (tree : FileTree) (place : List String) : Bool :=
  place.isEmpty || tree.directories.any (place.isPrefixOf ·) ||
    tree.files.any fun file => isBelow place file.1

/-- What there is at a place. -/
def kindOf (tree : FileTree) (place : List String) : Except AccessError FileKind :=
  if tree.files.any fun file => isBelow file.1 place then .error .notDirectory
  else if (tree.read? place).isSome then .ok .file
  else if tree.isDirectory place then .ok .directory
  else .error .missing

/-- The files below a directory, at any depth. -/
def filesBelow (tree : FileTree) (directory : List String) : List (List String) :=
  (tree.files.map Prod.fst).filter (isBelow directory)

end FileTree

end NamedParams
