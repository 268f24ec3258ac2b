import Crosstab.Build
import Crosstab.Registry
import Crosstab.Settings

/-!
# The command line

Print the SQL of a stored request for one target. What a run reads is a value here, and so is what
it answers, so that the command can be reasoned about without a disk.
-/

namespace Crosstab.CommandLine

/-- What a run finds around it. -/
structure Surroundings where
  tree : Disk.Tree
  /-- The settings file that the environment names. -/
  configFile : Option String
  /-- The directory for the settings of the user. -/
  userDirectory : Option String

/-- What a run leaves behind. -/
structure Answer where
  code : Nat
  output : String
  complaint : String
  deriving Repr, DecidableEq

def usage : String :=
  "Usage: print_sql <requests_dir> <request_name> <database>\n" ++
    "Databases: sqlserver, mysql, postgres, oracle, sqlite\n" ++
    "Example: cargo run --example print_sql -- demos/requests events_by_year postgres\n"

/-- The complaint about a name that is not in the registry. -/
def unknownName (registry : Registry) (name : String) : String :=
  "no request named '" ++ name ++ "' (available: " ++ ", ".intercalate registry.names ++ ")"

/-- The SQL of a stored request, or the wording of what went wrong first. -/
def printSql (around : Surroundings) (directory name database : String) : Except String String := do
  let db ← (Database.parse database).mapError Failure.message
  let registry ← (Registry.load around.tree directory).mapError Failure.message
  match registry.find? name with
  | none => .error (unknownName registry name)
  | some named =>
    let config := Config.load around.tree around.configFile around.userDirectory
    (build config db named.request).mapError Failure.message

/-- Run with these arguments; spare ones are ignored. -/
def run (around : Surroundings) (arguments : List String) : Answer :=
  match arguments with
  | directory :: name :: database :: _ =>
    match printSql around directory name database with
    | .ok sql => ⟨0, sql ++ "\n", ""⟩
    | .error message => ⟨1, "", "Error: " ++ message ++ "\n"⟩
  | _ => ⟨1, "", usage⟩

end Crosstab.CommandLine
