namespace NamedParams.Path

/-- The names between the slashes of a path. -/
def split (path : String) : List String :=
  (path.toList.splitOn '/').map String.ofList

def isAbsolute (path : String) : Bool :=
  path.toList.head? == some '/'

/-- Goes from a directory to a name in it. A point stays there, and two points go one step up,
    but not above the root. -/
def descend (directory : List String) (name : String) : List String :=
  if name = "" || name = "." then directory
  else if name = ".." then directory.dropLast
  else directory ++ [name]

/-- The place that a path leads to from a directory, as the names on the way from the root. -/
def resolve (directory : List String) (path : String) : List String :=
  (split path).foldl descend (if isAbsolute path then [] else directory)

/-- The absolute path of a place. -/
def absolute (place : List String) : String :=
  match place with
  | [] => "/"
  | _ => String.join (place.map ("/" ++ ·))

/-- The way from one place to another: up to where they part, and then down. -/
def between : List String → List String → List String
  | start :: starts, stop :: stops =>
    if start = stop then between starts stops
    else (start :: starts).map (fun _ => "..") ++ stop :: stops
  | starts, stops => starts.map (fun _ => "..") ++ stops

/-- The path from one place to another. -/
def relative (start stop : List String) : String :=
  "/".intercalate (between start stop)

/-- A file inside the directory is shown by its path from there, any other file as given. -/
def display (root directory : List String) (file : String) : String :=
  let shown := relative directory (resolve root file)
  if ['.', '.'].isPrefixOf shown.toList then file else shown

/-- The names of a path without those at its end that are empty. -/
def namesOf (path : String) : List String :=
  ((split path).reverse.dropWhile (· = "")).reverse

/-- The path of the directory that holds what a path leads to. -/
def parent (path : String) : String :=
  match namesOf path with
  | [] => if isAbsolute path then "/" else "."
  | [_] => "."
  | names =>
    let directory := "/".intercalate names.dropLast
    if directory = "" then "/" else directory

/-- The last name of a path. -/
def fileName (path : String) : String :=
  (namesOf path).getLastD ""

/-- Goes along a relative path. Steps up that lead out of it are kept. -/
def descendRelative (done : List String) (name : String) : List String :=
  if name = "" || name = "." then done
  else if name = ".." then
    match done.getLast? with
    | some last => if last = ".." then done ++ [".."] else done.dropLast
    | none => [".."]
  else done ++ [name]

/-- The shortest way to write a path. A slash at its end is kept. -/
def normalize (path : String) : String :=
  let slash := if path.toList.getLast? == some '/' then "/" else ""
  if isAbsolute path then
    let place := absolute ((split path).foldl descend [])
    if place = "/" then place else place ++ slash
  else
    match (split path).foldl descendRelative [] with
    | [] => if path = "" then "." else "." ++ slash
    | names => "/".intercalate names ++ slash

/-- Puts a path behind a directory. -/
def join (directory path : String) : String :=
  normalize (if directory = "" then path else if path = "" then directory
    else directory ++ "/" ++ path)

end NamedParams.Path
