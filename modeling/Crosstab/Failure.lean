import Crosstab.Line
import Crosstab.Database

/-!
# Failures

Everything that can go wrong, by cause. `Failure.message` is the one place that words them.
-/

namespace Crosstab

/-- The four structures of an aggregate statement. -/
inductive Shape where
  | plain
  | axis
  | pivot
  | axisPivot
  deriving Repr, DecidableEq

namespace Shape

def all : List Shape := [plain, axis, pivot, axisPivot]

def label : Shape → String
  | plain => "Plain"
  | axis => "Axis"
  | pivot => "Pivot"
  | axisPivot => "AxisPivot"

end Shape

/-- A part of a request that some shapes cannot do without. -/
inductive Part where
  | axis
  | axisSelect
  | pivotSelect
  | countSelect
  deriving Repr, DecidableEq

def Part.label : Part → String
  | .axis => "Axis"
  | .axisSelect => "AxisSelect"
  | .pivotSelect => "PivotSelect"
  | .countSelect => "CountSelect"

/-- A kind of line of which a request may have only one. -/
inductive SoleLine where
  | axisSelect
  | axisGroupBy
  | pivotSelect
  | countSelect
  | topXLimit
  deriving Repr, DecidableEq

def SoleLine.label : SoleLine → String
  | .axisSelect => "axis select"
  | .axisGroupBy => "axis group by"
  | .pivotSelect => "pivot select"
  | .countSelect => "count select"
  | .topXLimit => "TopX limit"

/-- What makes a request unacceptable. -/
inductive RequestFault where
  | tooMany (what : SoleLine) (found : Nat)
  /-- The line's role cannot be used in its slot. -/
  | misplaced (line : Line)
  | axisWithoutSelect
  | selectWithoutAxis
  | axisWithoutGroupBy
  /-- A pivot needs one select besides the pivot and count selects. -/
  | rowHeaders (found : Nat)
  | noRowHeader
  /-- The count select, given by its text, is no single call. -/
  | notOneCall (text : String)
  | directoryNotFound (path : String)
  | nameTaken (name path : String)
  deriving Repr, DecidableEq

def RequestFault.message : RequestFault → String
  | .tooMany what found =>
    "expected at most one " ++ what.label ++ " line, found " ++ toString found
  | .misplaced line =>
    "line '" ++ line.text ++ "' has role " ++ line.role.label ++
      " which cannot be used in the " ++ line.slot.label ++ " slot"
  | .axisWithoutSelect => "an axis spec was given but no select line has the Axis role"
  | .selectWithoutAxis => "a select line has the Axis role but no axis spec was given"
  | .axisWithoutGroupBy => "the axis select needs a matching GroupBy line with the Axis role"
  | .rowHeaders found =>
    "Pivot shape needs exactly one row header select besides the pivot and count selects, found " ++
      toString found
  | .noRowHeader => "Pivot shape needs a row header select"
  | .notOneCall text =>
    "count select '" ++ text ++ "' must be a single aggregate call to be pivoted"
  | .directoryNotFound path => "requests directory not found: " ++ path
  | .nameTaken name path =>
    "request '" ++ name ++ "' is defined more than once (again in " ++ path ++ ")"

/-- What makes a setting unusable. -/
inductive ConfigFault where
  | unknownDatabase (word : String)
  | unreadable
  | unparsable
  | axisAlias (name : String)
  | emptyPivotView
  deriving Repr, DecidableEq

def ConfigFault.message : ConfigFault → String
  | .unknownDatabase word => "unknown database type '" ++ word ++ "'"
  | .unreadable => "failed to read config file"
  | .unparsable => "failed to parse config"
  | .axisAlias name => "axis_alias must be a plain identifier, got '" ++ name ++ "'"
  | .emptyPivotView => "postgres.pivot_view must not be empty"

/-- What makes a file name pattern ill-formed. -/
inductive PatternFault where
  | stars
  | recursion
  | range
  deriving Repr, DecidableEq

def PatternFault.message : PatternFault → String
  | .stars => "wildcards are either regular \x60*\x60 or recursive \x60**\x60"
  | .recursion => "recursive wildcards must form a single path component"
  | .range => "invalid range pattern"

inductive Failure where
  | missingPart (shape : Shape) (part : Part)
  | invalidRequest (fault : RequestFault)
  | unsupportedIncrement (text : String)
  /-- The fragment is computed and carries no alias. -/
  | ambiguousAlias (fragment : String)
  | invalidTopX (text : String)
  | unsupportedShape (database : Database) (shape : Shape)
  | config (fault : ConfigFault)
  /-- A file cannot be read as text. -/
  | io
  /-- A text is not YAML, or not YAML of the expected form. -/
  | yaml
  /-- A text is not JSON, or not JSON of the expected form. -/
  | json
  /-- A file name pattern is ill-formed at this character. -/
  | pattern (position : Nat) (fault : PatternFault)
  deriving Repr, DecidableEq

def Failure.message : Failure → String
  | .missingPart shape part => shape.label ++ " shape requires " ++ part.label ++ " to be non-null"
  | .invalidRequest fault => "invalid aggregate request: " ++ fault.message
  | .unsupportedIncrement text =>
    "unsupported axis increment '" ++ text ++ "' (expected day, month, quarter or year)"
  | .ambiguousAlias fragment =>
    "cannot determine a column name for '" ++ fragment ++ "': add an explicit alias (AS name)"
  | .invalidTopX text => "invalid TopX line '" ++ text ++ "': expected a positive row count"
  | .unsupportedShape database shape =>
    database.label ++ " cannot synthesize the " ++ shape.label ++
      " shape: no dynamic SQL execution"
  | .config fault => "config error: " ++ fault.message
  | .io => "io error"
  | .yaml => "yaml parse error"
  | .json => "json error"
  | .pattern position fault =>
    "Pattern syntax error near position " ++ toString position ++ ": " ++ fault.message

/-- A result or the cause of its absence. -/
abbrev Outcome (α : Type) := Except Failure α

/-- The target that a text asks for, by short name or synonym in any letter case. -/
def Database.parse (text : String) : Outcome Database :=
  let word := lowerAscii (trimText text)
  match Database.synonyms.find? (·.1 == word) with
  | some entry => .ok entry.2
  | none => .error (.config (.unknownDatabase word))

end Crosstab
