import Crosstab.Calendar
import Crosstab.Dialect.Quoting
import Crosstab.Validity

/-!
# The date axis

The caller's query becomes a dataset: its axis lines are binned by the same date part as the
calendar, and each column that the outer statement reads is given its name in quotes, so that both
sides agree on it even where unquoted names are folded. The outer statement joins every bucket of
the calendar to the dataset.
-/

namespace Crosstab

/-- The columns that the outer statement reads from the dataset. -/
structure DatasetNames where
  join : String
  count : String
  pivot : Option String
  deriving Repr, DecidableEq

/-- The value that a shape demands. -/
def Shape.require {α : Type} (shape : Shape) (part : Part) : Option α → Outcome α
  | some a => .ok a
  | none => .error (.missingPart shape part)

/-- The alias written in a fragment, or else the name of the column it refers to. A computed
fragment without an alias is refused rather than guessed at. -/
def columnName (fragment : String) : Outcome String :=
  match runtimeName fragment.toList with
  | some name => .ok (String.ofList name)
  | none => .error (.ambiguousAlias fragment)

/-- The names of the axis, count and pivot columns. -/
def DatasetNames.resolve (request : Request) (shape : Shape) : Outcome DatasetNames := do
  let axisSelect ← shape.require .axisSelect request.axisSelect?
  let countSelect ← shape.require .countSelect request.countSelect?
  let join ← columnName axisSelect.text
  let count ← columnName countSelect.text
  match request.pivotSelect? with
  | none => .ok ⟨join, count, none⟩
  | some pivotSelect =>
    let pivot ← columnName pivotSelect.text
    .ok ⟨join, count, some pivot⟩

/-- An expression under a quoted alias. -/
def Database.aliased (db : Database) (expression name : String) : String :=
  expression ++ " AS " ++ db.quoteIdent name

/-- One line of the dataset: axis lines are binned, and the axis, count and pivot selects get their
quoted names. -/
def binLine (db : Database) (increment : Increment) (names : DatasetNames) (line : Line) : Line :=
  match line.slot, line.role with
  | .select, .axis =>
    line.withText (db.aliased (db.datePart increment line.expression) names.join)
  | .groupBy, .axis => line.withText (db.datePart increment line.expression)
  | .select, .count => line.withText (db.aliased line.expression names.count)
  | .select, .pivot =>
    match names.pivot with
    | some name => line.withText (db.aliased line.expression name)
    | none => line
  | _, _ => line

/-- The request with its lines binned and named for the dataset. -/
def Request.binned (request : Request) (db : Database) (increment : Increment)
    (names : DatasetNames) : Request :=
  request.mapLines (binLine db increment names)

/-- What the outer statement over a date axis needs. -/
structure AxisPlan where
  /-- The axis select without alias and unbinned. -/
  axisExpr : String
  names : DatasetNames
  /-- The date part of the calendar's column. -/
  bucket : String
  /-- The caller's query from `SELECT` to `HAVING`, binned. -/
  dataset : String
  preSelect : List String
  trailing : List String
  deriving Repr, DecidableEq

namespace AxisPlan

/-- The caller's lines from `SELECT` to `HAVING` as a query over the bins. No TopX line applies to a
dense axis. -/
def datasetQuery (db : Database) (request : Request) (increment : Increment)
    (names : DatasetNames) : Query :=
  Query.ofLines <|
    ((request.binned db increment names).linesBetween .select .having).filter (·.role != .topX)

/-- The plan for a request with an axis. -/
def ofRequest (db : Database) (request : Request) (shape : Shape) : Outcome AxisPlan := do
  let axis ← shape.require .axis request.axis
  let axisSelect ← shape.require .axisSelect request.axisSelect?
  let names ← DatasetNames.resolve request shape
  .ok {
    axisExpr := axisSelect.expression
    names := names
    bucket := db.datePart axis.increment "axis.dt"
    dataset := (datasetQuery db request axis.increment names).render db
    preSelect := request.textsIn .preSelect
    trailing := (request.uncappedIn .trailing).map (·.text) }

/-- The dataset joined to the calendar by bucket. -/
def joinClause (plan : AxisPlan) (db : Database) : String :=
  "LEFT JOIN (\n" ++ plan.dataset ++ "\n) dataset ON dataset." ++ db.quoteIdent plan.names.join ++
    " = " ++ plan.bucket

/-- Every bucket of the calendar with the dataset rows that fall into it. `columns` follow the
bucket; generated columns aggregate, so then the statement groups by bucket. -/
def statement (plan : AxisPlan) (db : Database) (calendar : Calendar) (axisAlias : String)
    (columns : List String) (grouped : Bool) : Query :=
  { preSelect := calendar.settings ++ plan.preSelect
    ctes := [calendar.cte]
    select := (plan.bucket ++ " AS " ++ axisAlias) :: columns
    tables := [calendarName ++ " axis", plan.joinClause db]
    groupBy := if grouped then [plan.bucket] else []
    orderBy := [plan.bucket]
    trailing := plan.trailing ++ calendar.options }

/-- The count as the outer statement reads it. -/
def countColumn (plan : AxisPlan) (db : Database) : String :=
  "dataset." ++ db.quoteIdent plan.names.count

end AxisPlan

end Crosstab
