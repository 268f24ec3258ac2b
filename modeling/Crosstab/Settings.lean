import Crosstab.Disk.Tree
import Crosstab.Stored.Config
import Crosstab.Toml.Reader

/-!
# Settings files

Settings are read from a TOML file and checked before they are used. Without an explicit file the
first usable one of three places counts, and a file that cannot be used is as good as absent.
-/

namespace Crosstab.Config

/-- The settings of a TOML text. -/
def ofToml (text : String) : Outcome Config :=
  match (Toml.parse? text).bind (ofValue? .settings) with
  | none => .error (.config .unparsable)
  | some config => do
    config.check
    .ok config

/-- The settings in a file. -/
def ofFile (tree : Disk.Tree) (path : String) : Outcome Config :=
  match tree.readText? path with
  | some text => ofToml text
  | none => .error (.config .unreadable)

/-- The settings file of the working directory. -/
def localFile : String := "aggsql.toml"

/-- The settings file below a directory for the settings of a user. -/
def userFile (directory : String) : String := directory ++ "/aggsql/config.toml"

/-- The settings from the file that the environment names, the one of the working directory or the
one of the user, whichever is the first that can be used, and the built-in ones otherwise. -/
def load (tree : Disk.Tree) (environment userDirectory : Option String) : Config :=
  let candidates :=
    environment.toList ++ [localFile] ++ (userDirectory.map userFile).toList
  (candidates.findSome? fun path => (ofFile tree path).toOption).getD {}

end Crosstab.Config
