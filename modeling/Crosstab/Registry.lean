import Crosstab.Disk.Search
import Crosstab.Json.Reader
import Crosstab.Stored.Request
import Crosstab.Yaml.Reader

/-!
# The registry

Named requests, one to a name, from a list or from the files of a directory. A name that turns up
twice in a directory is refused; in a list the last one wins.
-/

namespace Crosstab

/-- Named requests, no two of one name. -/
structure Registry where
  requests : List NamedRequest
  deriving Repr, DecidableEq

namespace Registry

def empty : Registry := ⟨[]⟩

/-- The request of a name. -/
def find? (registry : Registry) (name : String) : Option NamedRequest :=
  registry.requests.find? (·.name == name)

/-- Put a request under its name, in place of what stood there. -/
def insert (registry : Registry) (named : NamedRequest) : Registry :=
  ⟨registry.requests.filter (·.name != named.name) ++ [named]⟩

/-- The registry of a list of requests. -/
def ofList (requests : List NamedRequest) : Registry := requests.foldl insert empty

/-- The names in ascending order. -/
def names (registry : Registry) : List String :=
  (registry.requests.map (·.name)).mergeSort fun a b => !(decide (b < a))

/-- What follows the last dot of a file name, unless that dot is its first character. -/
def extension? (path : String) : Option String :=
  match (Disk.components path).getLast? with
  | none => none
  | some name =>
    let back := name.toList.reverse
    match back.dropWhile (· != '.') with
    | [] => none
    | [_] => none
    | _ => some (String.ofList (back.takeWhile (· != '.')).reverse)

/-- The request that a file text holds: JSON if the file's extension says so, else YAML. -/
def decode (path text : String) : Outcome NamedRequest :=
  if extension? path = some "json" then
    match (Json.parse? text).bind NamedRequest.ofValue? with
    | some named => .ok named
    | none => .error .json
  else
    match Yaml.namedRequest? text with
    | some named => .ok named
    | none => .error .yaml

/-- The request in a file. -/
def readRequest (tree : Disk.Tree) (path : String) : Outcome NamedRequest :=
  match tree.readText? path with
  | some text => decode path text
  | none => .error .io

/-- Add the request in a file, under a name that is still free. -/
def loadFile (tree : Disk.Tree) (registry : Registry) (path : String) : Outcome Registry := do
  let named ← readRequest tree path
  if (registry.find? named.name).isSome then
    .error (.invalidRequest (.nameTaken named.name path))
  else .ok (registry.insert named)

/-- The names of request files, as patterns in the order in which they are read. -/
def filePatterns : List String := ["*.yml", "*.yaml", "*.json"]

/-- Add the requests in the files of one pattern. -/
def loadPattern (tree : Disk.Tree) (directory : String) (registry : Registry) (pattern : String) :
    Outcome Registry := do
  let paths ← Disk.find tree (directory ++ "/" ++ pattern)
  paths.foldlM (loadFile tree) registry

/-- The requests in the files of a directory. -/
def load (tree : Disk.Tree) (directory : String) : Outcome Registry :=
  if tree.exists? directory then filePatterns.foldlM (loadPattern tree directory) empty
  else .error (.invalidRequest (.directoryNotFound directory))

end Registry

end Crosstab
