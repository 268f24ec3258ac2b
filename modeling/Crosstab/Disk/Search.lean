import Crosstab.Disk.Tree
import Crosstab.Disk.Pattern

/-!
# Searching a tree

The paths of a tree that a pattern spells out, in the order of their names. A component without
wildcards is looked up as it stands, so `.` and `..` work; any other is compared with the names in a
directory.
-/

namespace Crosstab.Disk

/-- A path text one component longer. The working directory is not written out. -/
def join (path name : String) : String :=
  if path = "." then name
  else if path.toList.getLast? = some '/' then path ++ name
  else path ++ "/" ++ name

namespace Tree

/-- The names of the directory to which a path text leads. -/
def namesAt (tree : Tree) (path : String) : List String :=
  match tree.resolve? path with
  | some place => if tree.isDirectory place then tree.names place else []
  | none => []

/-- Apply `visit` to everything below a directory, each directory before what it holds. `depth`
bounds the descent. -/
def descend (tree : Tree) (visit : String → String → List String) : Nat → String → List String
  | 0, _ => []
  | depth + 1, path =>
    (tree.namesAt path).flatMap fun name =>
      let child := join path name
      visit child name ++ (if tree.leadsToDirectory child then tree.descend visit depth child
        else [])

/-- The directory itself and the one above, for a wildcard that begins with a written dot. -/
def dotEntries (path : String) (glyphs : List Glyph) : List String :=
  if glyphs.head? = some (.char '.') then
    ["..", "."].filter (fun name => spells glyphs name.toList) |>.map fun name =>
      if path = "." then "./" ++ name else join path name
  else []

/-- The paths below `path` that the components spell out. -/
def search (tree : Tree) : List Component → String → List String
  | [], path => [path]
  | .name text :: rest, path =>
    let next := join path text
    let found :=
      if text = "." || text = ".." then tree.leadsToDirectory path else tree.exists? next
    if found then tree.search rest next else []
  | .wild glyphs :: rest, path =>
    if tree.leadsToDirectory path then
      (dotEntries path glyphs).flatMap (tree.search rest) ++
        ((tree.namesAt path).filter fun name => spells glyphs name.toList).flatMap fun name =>
          tree.search rest (join path name)
    else []
  | [.directories], path =>
    tree.descend (fun child _ => if tree.leadsToDirectory child then [child] else [])
      (tree.entries.length + 1) path
  | .directories :: next :: rest, path =>
    tree.descend (fun child name => if next.spells name then tree.search rest child else [])
      (tree.entries.length + 1) path

end Tree

/-- Several `**` in a row are one. -/
def collapse : List Component → List Component
  | [] => []
  | component :: rest =>
    match component, collapse rest with
    | .directories, .directories :: more => .directories :: more
    | component, more => component :: more

/-- The paths that a pattern spells out. -/
def find (tree : Tree) (pattern : String) : Outcome (List String) := do
  let _ ← glyphs pattern.toList
  let absolute := pattern.toList.head? = some '/'
  let parts := splitSlashes (if absolute then pattern.toList.drop 1 else pattern.toList)
  let components ← parts.mapM fun part => (glyphs part).map Component.ofGlyphs
  .ok (tree.search (collapse components) (if absolute then "/" else "."))

end Crosstab.Disk
