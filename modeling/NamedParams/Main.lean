import NamedParams.Instant
import NamedParams.Program
import Std.Time.DateTime.Timestamp

namespace NamedParams.Main

/-- The text of a file in UTF-8. Files whose text cannot matter are not opened. -/
def readText (path : String) : IO String := do
  let ending := (ConfigFile.splitName (Path.fileName path)).2
  if isTypeScriptPath path || ["", ".json", ".yaml", ".yml", ".js"].contains ending then
    try IO.FS.readFile path catch _ => return ""
  else return ""

/-- What there is at a place, to a depth of directories that no path exceeds. -/
def readPlace (place : List String) : Nat → IO FileTree
  | 0 => return .empty
  | depth + 1 => do
    let here := (← IO.currentDir) / Path.absolute place
    if ← here.isDir then
      let entries ← try here.readDir catch _ => pure #[]
      let trees ← entries.toList.mapM fun entry => readPlace (place ++ [entry.fileName]) depth
      return ⟨trees.flatMap (·.files), place :: trees.flatMap (·.directories)⟩
    else if ← here.pathExists then return ⟨[(place, ← readText (Path.absolute place))], []⟩
    else return .empty

/-- The places to look at: all below the working directory, the configurations above it, and what
    arguments name outside of it. -/
def places (root : List String) (arguments : List String) : List (List String) :=
  let above := (List.range root.length).flatMap fun count =>
    ConfigLoader.fileNames.map (root.take count ++ [·])
  let named := (arguments.filter (!CommandLine.isOptionLike ·)).map (Path.resolve root)
  let outside := named.filter fun place => !root.isPrefixOf place && !place.isPrefixOf root
  root :: above ++ outside.eraseDups

/-- What the program may look at. -/
def readTree (root : List String) (arguments : List String) : IO FileTree := do
  let trees ← (places root arguments).mapM (readPlace · 256)
  return ⟨trees.flatMap (·.files), trees.flatMap (·.directories)⟩

end NamedParams.Main

open NamedParams

/-- Runs the program in the working directory. -/
def main (arguments : List String) : IO UInt32 := do
  let root := Path.resolve [] (← IO.currentDir).toString
  let now ← Std.Time.Timestamp.now
  let time := Instant.text now.toMillisecondsSinceUnixEpoch.toInt.toNat
  let output := Program.run (← Main.readTree root arguments) root false time arguments
  (← IO.getStdout).putStr output.out
  (← IO.getStderr).putStr output.err
  return output.status.toUInt32
