import Crosstab.Failure
import Crosstab.Fragment.Count

/-!
# Settings

The settings of a synthesis, each with a built-in value.
-/

namespace Crosstab

structure Config where
  /-- The alias of the bucket column of a date axis, written without quotes. -/
  axisAlias : String := "joinDt"
  /-- The recursion limit of a SQL Server calendar; zero means none. -/
  maxRecursion : Nat := 0
  /-- The recursion limit that a MySQL session gets for a calendar. -/
  cteMaxRecursionDepth : Nat := 100000
  /-- The length limit that a MySQL session gets for collecting pivot columns. -/
  groupConcatMaxLen : Nat := 1000000
  /-- The temporary view through which PostgreSQL returns a pivot. -/
  pivotView : String := "aggsql_pivot"
  deriving Repr, DecidableEq

namespace Config

/-- Whether a name needs no quotes in any target. -/
def isPlainIdentifier (name : String) : Bool :=
  !name.isEmpty && name.toList.all fun c => c.isAlphanum || c == '_'

/-- Settings from a file are refused unless the bucket alias can stand unquoted and the view has a
name. -/
def check (config : Config) : Outcome Unit :=
  if !isPlainIdentifier config.axisAlias then .error (.config (.axisAlias config.axisAlias))
  else if (trim config.pivotView.toList).isEmpty then .error (.config .emptyPivotView)
  else .ok ()

end Config

end Crosstab
