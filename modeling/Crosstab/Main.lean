import Crosstab.CommandLine

/-!
# The program

The part of the disk that a run can read is taken into a `Disk.Tree`, the command runs on it, and
its answer is printed. Nothing is decided here: what is taken in and never looked at does no harm.
-/

namespace Crosstab.Program

/-- The bytes of a file. One that cannot be read is taken for one that holds no text. -/
def bytesAt (path : String) : IO ByteArray := do
  try IO.FS.readBinFile path catch _ => return ⟨#[0xFF]⟩

/-- What stands at a path of the disk. -/
def nodeAt (path : String) : IO (Option Disk.Node) := do
  try
    let place ← IO.FS.realPath path
    if ← place.isDir then return some .directory
    return some (.file (← bytesAt path))
  catch _ => return none

/-- Take in what stands at a path, and the directories on the way. -/
def takePath (tree : Disk.Tree) (text : String) : IO Disk.Tree := do
  let isAbsolute := text.toList.head? = some '/'
  let mut tree := tree
  let mut place := if isAbsolute then Disk.root else []
  let mut path := if isAbsolute then "" else "."
  for part in Disk.components text do
    path := path ++ "/" ++ part
    if part != "." && part != ".." then
      match ← nodeAt path with
      | some node => tree := tree.put (place ++ [part]) node
      | none => return tree
    match tree.walk place [part] with
    | some next => place := next
    | none => return tree
  return tree

/-- Whether a file name can be that of a stored request. -/
def isRequestFile (name : String) : Bool :=
  [".yml", ".yaml", ".json"].any fun ending => name.endsWith ending

/-- Take in the request files below a directory of the tree, so many levels deep. -/
def takeBelow : Nat → Disk.Tree → Disk.Path → String → IO Disk.Tree
  | 0, tree, _, _ => return tree
  | depth + 1, tree, place, path => do
    let mut tree := tree
    for entry in ← (← IO.FS.realPath path).readDir do
      let name := entry.fileName
      let child := path ++ "/" ++ name
      let isDirectory ← entry.path.isDir
      if isRequestFile name || (isDirectory && depth != 0) then
        if let some node ← nodeAt child then
          tree := tree.put (place ++ [name]) node
          if isDirectory then tree ← takeBelow depth tree (place ++ [name]) child
    return tree

/-- Take in a directory and the request files below it, so many levels deep. -/
def takeDirectory (depth : Nat) (tree : Disk.Tree) (text : String) : IO Disk.Tree := do
  let tree ← takePath tree text
  match tree.resolve? text with
  | some place =>
    if tree.isDirectory place then takeBelow depth tree place text else return tree
  | none => return tree

/-- Whether a component of a path is no pattern. -/
def isFixed (part : List Char) : Bool :=
  match Disk.glyphs part with
  | .ok glyphs => (Disk.literal? glyphs).isSome
  | .error _ => true

/-- The part of a path before its first component that is a pattern, if it has one. -/
def fixedPart? (text : String) : Option String :=
  let parts := Disk.splitSlashes text.toList
  if parts.all isFixed then none
  else
    let fixed := "/".intercalate ((parts.takeWhile isFixed).map String.ofList)
    some (if !fixed.isEmpty then fixed else if text.toList.head? = some '/' then "/" else ".")

/-- How many levels a directory with patterns in its path is searched. -/
def searchDepth : Nat := 32

/-- The directory for the settings of a user. -/
def userDirectory : IO (Option String) := do
  match ← IO.getEnv "XDG_CONFIG_HOME" with
  | some directory => if directory.startsWith "/" then return some directory
  | none => pure ()
  match ← IO.getEnv "HOME" with
  | some home => return if home.isEmpty then none else some (home ++ "/.config")
  | none => return none

/-- The surroundings of a run over a directory of requests. -/
def surroundings (directory : String) : IO CommandLine.Surroundings := do
  let configFile ← IO.getEnv "AGGSQL_CONFIG"
  let user ← userDirectory
  let tree ← takeDirectory 1 .empty directory
  let tree ←
    match fixedPart? directory with
    | some fixed => takeDirectory searchDepth tree fixed
    | none => pure tree
  let settings := configFile.toList ++ [Config.localFile] ++ (user.map Config.userFile).toList
  let tree ← settings.foldlM takePath tree
  return ⟨tree, configFile, user⟩

end Crosstab.Program

/-- Print the SQL of a stored request. -/
def main (arguments : List String) : IO UInt32 := do
  let around ← Crosstab.Program.surroundings (arguments.head?.getD "")
  let answer := Crosstab.CommandLine.run around arguments
  IO.print answer.output
  IO.eprint answer.complaint
  return answer.code.toUInt32
