import Crosstab.Axis

/-!
# The pivot

A pivot has one column for each distinct value of an expression, and the values are known only when
the script runs. A `PivotPlan` is everything that can be written before: a census that ranks the
values, a template for the column of one value, and the final statement cut after its select list.
The script puts the generated columns between `head` and `tail` and runs the result.
-/

namespace Crosstab

/-- The column of one pivot value: `opening`, the value as a literal, `middle`, and the value as an
identifier. -/
structure ColumnTemplate where
  opening : String
  middle : String
  deriving Repr, DecidableEq

namespace ColumnTemplate

/-- The column that the template writes for a value. -/
def column (template : ColumnTemplate) (db : Database) (value : String) : String :=
  template.opening ++ db.quoteLiteral value ++ template.middle ++ db.quoteIdent value

/-- An aggregate with a filter behind it. -/
def ofFilter (aggregate pivotExpr : String) : ColumnTemplate where
  opening := ", " ++ aggregate ++ " FILTER (WHERE " ++ pivotExpr ++ " = "
  middle := ") AS "

/-- A call with a condition inside it; the keyword stays outside the condition. -/
def ofCondition (function keyword pivotExpr operand : String) : ColumnTemplate where
  opening := ", " ++ function ++ "(" ++ keyword ++ "CASE WHEN " ++ pivotExpr ++ " = "
  middle := " THEN " ++ operand ++ " ELSE NULL END) AS "

/-- The count taken over the rows of one pivot value. `DISTINCT` stays outside the condition, and a
counted `*` becomes the constant one. -/
def forRows (db : Database) (pivotExpr : String) (count : Line) : Outcome ColumnTemplate :=
  if db.hasFilteredAggregates then
    .ok (ofFilter count.expression pivotExpr)
  else
    match count.call? with
    | none => .error (.invalidRequest (.notOneCall count.text))
    | some (function, argument) =>
      let (keyword, operand) :=
        match stripDistinct argument.toList with
        | some inner => ("DISTINCT ", String.ofList inner)
        | none => ("", argument)
      let operand := if operand == "*" then "1" else operand
      .ok (ofCondition function keyword pivotExpr operand)

/-- The count of one pivot value, read out of a dataset that has it ready. -/
def forDataset (db : Database) (pivotName countName : String) : ColumnTemplate :=
  let pivot := "dataset." ++ db.quoteIdent pivotName
  let count := "dataset." ++ db.quoteIdent countName
  if db.hasFilteredAggregates then ofFilter ("MAX(" ++ count ++ ")") pivot
  else ofCondition "MAX" "" pivot count

end ColumnTemplate

/-- A pivot before its target's way of running generated statements is added. -/
structure PivotPlan where
  /-- Statements to run first: the calendar's settings, then the caller's. -/
  preSelect : List String
  census : Cte
  column : ColumnTemplate
  head : String
  tail : String
  deriving Repr, DecidableEq

/-- The name of the census; its columns are `piv`, the value as text, and `rn`, its rank. -/
def censusName : String := "pivotValues"

/-- The ordering by which pivot values are ranked: the TopX ordering lines, or else the count
downwards with the value as tie-break. -/
def rankOrder (request : Request) (count : Line) (pivotExpr : String) : String :=
  ", ".intercalate <|
    match request.topXOrder with
    | [] => [count.expression ++ " DESC", pivotExpr ++ " ASC"]
    | lines => lines.map (·.text)

/-- The census of pivot values as a query: distinct, not null, ranked, and capped if the request has
a cap. It sees the caller's tables and predicates only, and the cap stands outside the ranking. -/
def censusQuery (db : Database) (request : Request) (count : Line) (limit : Option Nat)
    (pivotExpr : String) (axisExpr : Option String) : Query :=
  let order := rankOrder request count pivotExpr
  { select := [
      db.castToText pivotExpr ++ " AS piv",
      "ROW_NUMBER() OVER (ORDER BY " ++ order ++ ") AS rn"]
    tables := request.textsIn .table
    filters := ((request.linesIn .filter).filter (·.role != .axis)).map (·.text) ++
      (pivotExpr ++ " IS NOT NULL") ::
        (match axisExpr with
        | some expression => [expression ++ " IS NOT NULL"]
        | none => [])
    groupBy := [pivotExpr]
    orderBy := if limit.isSome then [order] else []
    limit := limit }

/-- The census of pivot values. With an axis, rows off the axis are left out too. -/
def census (db : Database) (request : Request) (shape : Shape) (pivotExpr : String)
    (axisExpr : Option String) : Outcome Cte := do
  let count ← shape.require .countSelect request.countSelect?
  let limit ← request.topXLimit
  .ok {
    name := censusName
    columns := []
    body := (censusQuery db request count limit pivotExpr axisExpr).render db
    recursive := false }

namespace PivotPlan

/-- The grouping of a pivot statement: the caller's, without the pivot expression, or else the row
header. -/
def rowGroups (request : Request) (header : Line) (pivotExpr : String) : List String :=
  let kept := (request.linesIn .groupBy).filter fun line =>
    line.role != .pivot && trimText line.text != pivotExpr
  match kept with
  | [] => [header.expression]
  | lines => lines.map (·.text)

/-- The final statement of a pivot without an axis, before its generated columns. -/
def rowQuery (request : Request) (header : Line) (pivotExpr : String) : Query :=
  { select := [header.text]
    tables := request.textsIn .table
    filters := request.textsIn .filter
    groupBy := rowGroups request header pivotExpr
    having := request.textsIn .having
    orderBy := (request.uncappedIn .orderBy).map (·.text)
    trailing := (request.uncappedIn .trailing).map (·.text) }

/-- One row for each value of the row header. -/
def ofRows (db : Database) (request : Request) : Outcome PivotPlan := do
  let pivotSelect ← Shape.pivot.require .pivotSelect request.pivotSelect?
  let count ← Shape.pivot.require .countSelect request.countSelect?
  match request.find? .select .ordinary with
  | none => .error (.invalidRequest .noRowHeader)
  | some header =>
    let pivotExpr := pivotSelect.expression
    let query := rowQuery request header pivotExpr
    let values ← Crosstab.census db request .pivot pivotExpr none
    let template ← ColumnTemplate.forRows db pivotExpr count
    .ok {
      preSelect := request.textsIn .preSelect
      census := values
      column := template
      head := query.head db
      tail := query.tail db }

/-- The final statement of a pivot over an axis, before its generated columns. -/
def axisQuery (db : Database) (calendar : Calendar) (axisAlias : String) (plan : AxisPlan) :
    Query :=
  { plan.statement db calendar axisAlias [] true with preSelect := [] }

/-- One row for each bucket of the axis. -/
def ofAxis (db : Database) (calendar : Calendar) (axisAlias : String) (request : Request) :
    Outcome PivotPlan := do
  let pivotSelect ← Shape.axisPivot.require .pivotSelect request.pivotSelect?
  let plan ← AxisPlan.ofRequest db request .axisPivot
  let pivotName ← Shape.axisPivot.require .pivotSelect plan.names.pivot
  let query := axisQuery db calendar axisAlias plan
  let values ← Crosstab.census db request .axisPivot pivotSelect.expression (some plan.axisExpr)
  .ok {
    preSelect := calendar.settings ++ plan.preSelect
    census := values
    column := ColumnTemplate.forDataset db pivotName plan.names.count
    head := query.head db
    tail := query.tail db }

/-- What stands before the select list of a statement over the census. -/
def censusOpening (plan : PivotPlan) (db : Database) : String := renderWith db [plan.census] ++ "\n"

/-- What stands after the select list of a statement over the census. -/
def censusClosing : String := "\nFROM " ++ censusName

/-- A statement over the census with this select list. -/
def censusWith (plan : PivotPlan) (db : Database) (selectList : String) : String :=
  plan.censusOpening db ++ selectList ++ censusClosing

end PivotPlan

end Crosstab
