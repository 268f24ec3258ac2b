/-!
# File trees

The part of a disk that a run can see, as a value: every entry under its path. Paths are resolved
from the working directory, which is the empty path; the directory above it and the root of the
disk exist too, whatever else is known of them.
-/

namespace Crosstab.Disk

/-- What stands at a path. -/
inductive Node where
  | file (bytes : ByteArray)
  | directory

/-- A path as the names of its components. A path from the root of the disk begins with `/`. -/
abbrev Path := List String

structure Tree where
  entries : List (Path × Node)

/-- Cut at every slash. -/
def splitSlashes : List Char → List (List Char)
  | [] => [[]]
  | c :: cs =>
    if c = '/' then [] :: splitSlashes cs
    else
      match splitSlashes cs with
      | [] => [[c]]
      | part :: parts => (c :: part) :: parts

/-- The components of a path text, empty ones left out. -/
def components (text : String) : List String :=
  ((splitSlashes text.toList).filter (!·.isEmpty)).map String.ofList

/-- The path of the disk's root. -/
def root : Path := ["/"]

/-- The path of the directory above the working directory. -/
def above : Path := [".."]

namespace Tree

def empty : Tree := ⟨[]⟩

/-- What stands at a path. -/
def node? (tree : Tree) (path : Path) : Option Node :=
  if path = [] || path = root || path = above then some .directory
  else (tree.entries.find? (·.1 == path)).map Prod.snd

/-- Whether a directory stands at a path. -/
def isDirectory (tree : Tree) (path : Path) : Bool :=
  match tree.node? path with
  | some .directory => true
  | _ => false

/-- Walk down components from a path; every component but the last has to be a directory. -/
def walk (tree : Tree) : Path → List String → Option Path
  | path, [] => some path
  | path, part :: rest =>
    if !tree.isDirectory path then none
    else if part = "." then tree.walk path rest
    else if part = ".." then
      tree.walk (if path = [] || path = above then above else if path = root then root
        else path.dropLast) rest
    else if (tree.node? (path ++ [part])).isSome then tree.walk (path ++ [part]) rest
    else none

/-- Where a path text leads, if anything stands there. A text that ends in a slash leads to
directories only. -/
def resolve? (tree : Tree) (text : String) : Option Path :=
  if text.isEmpty then none
  else
    let start := if text.toList.head? = some '/' then root else []
    match tree.walk start (components text) with
    | some path =>
      if text.toList.getLast? = some '/' && !tree.isDirectory path then none else some path
    | none => none

/-- Whether anything stands where a path text leads. -/
def exists? (tree : Tree) (text : String) : Bool := (tree.resolve? text).isSome

/-- Whether a path text leads to a directory. -/
def leadsToDirectory (tree : Tree) (text : String) : Bool :=
  match tree.resolve? text with
  | some path => tree.isDirectory path
  | none => false

/-- The text of the file to which a path text leads; `none` if it is no file or no UTF-8. -/
def readText? (tree : Tree) (text : String) : Option String :=
  match (tree.resolve? text).bind tree.node? with
  | some (.file bytes) => String.fromUTF8? bytes
  | _ => none

/-- The names in a directory, in ascending order. -/
def names (tree : Tree) (path : Path) : List String :=
  let inside := tree.entries.filterMap fun entry =>
    if entry.1.dropLast = path then entry.1.getLast? else none
  inside.mergeSort fun a b => !(decide (b < a))

/-- Put a node at a path, in place of what stood there. -/
def put (tree : Tree) (path : Path) (node : Node) : Tree :=
  ⟨tree.entries.filter (·.1 != path) ++ [(path, node)]⟩

/-- Make the directories of a path that are missing. -/
def makeDirectories (tree : Tree) : Path → List String → Tree
  | _, [] => tree
  | path, part :: rest =>
    let path := path ++ [part]
    let tree := if (tree.node? path).isSome then tree else tree.put path .directory
    tree.makeDirectories path rest

/-- Put a node where a path text leads, and make the directories above it. -/
def write (tree : Tree) (text : String) (node : Node) : Tree :=
  let parts := (components text).filter (· != ".")
  let path := if text.toList.head? = some '/' then root ++ parts else parts
  let tree := tree.makeDirectories (path.take (path.length - parts.length)) parts.dropLast
  match node with
  | .directory => if (tree.node? path).isSome then tree else tree.put path node
  | .file _ => tree.put path node

end Tree

end Crosstab.Disk
