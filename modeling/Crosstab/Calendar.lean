import Crosstab.Statement
import Crosstab.Config

/-!
# Calendars

A date axis needs every bucket between its bounds, whether data falls into it or not. Each target
generates them in its own way: by a recursive common table expression or by a series function.
-/

namespace Crosstab

/-- A generator of dates: the expression itself, the statements that have to run before it and the
options that have to follow the outer statement. -/
structure Calendar where
  settings : List String
  cte : Cte
  options : List String
  deriving Repr, DecidableEq

/-- The name of the generated calendar; its one column is `dt`. -/
def calendarName : String := "dateAxis"

namespace Calendar

/-- The unit keyword of a SQL Server or MySQL step. -/
def unitKeyword : Increment → String
  | .day => "DAY"
  | .month => "MONTH"
  | .quarter => "QUARTER"
  | .year => "YEAR"

/-- The step of a PostgreSQL series. -/
def seriesInterval : Increment → String
  | .day => "1 day"
  | .month => "1 month"
  | .quarter => "3 months"
  | .year => "1 year"

/-- The modifier of a SQLite step. -/
def dateModifier : Increment → String
  | .day => "+1 day"
  | .month => "+1 month"
  | .quarter => "+3 months"
  | .year => "+1 year"

/-- An Oracle date one step later. -/
def oracleNext (increment : Increment) (date : String) : String :=
  match increment with
  | .day => date ++ " + 1"
  | .month => "ADD_MONTHS(" ++ date ++ ", 1)"
  | .quarter => "ADD_MONTHS(" ++ date ++ ", 3)"
  | .year => "ADD_MONTHS(" ++ date ++ ", 12)"

/-- An Oracle bound. A literal is read as an ISO date; any other expression is a date already. -/
def oracleBound (bound : String) : String :=
  let bound := trim bound.toList
  if bound.head? = some '\'' then "TO_DATE(" ++ String.ofList bound ++ ", 'YYYY-MM-DD')"
  else String.ofList bound

def sqlServer (config : Config) (axis : AxisSpec) : Calendar :=
  let next := "DATEADD(" ++ unitKeyword axis.increment ++ ", 1, dt)"
  { settings := [
      "DECLARE @startDate DATE = " ++ axis.startDate ++ ";",
      "DECLARE @endDate DATE = " ++ axis.endDate ++ ";"]
    cte := {
      name := calendarName
      columns := []
      body := "SELECT @startDate AS dt\nUNION ALL\nSELECT " ++ next ++ " FROM " ++ calendarName ++
        "\nWHERE " ++ next ++ " <= @endDate"
      recursive := true }
    options := ["OPTION (MAXRECURSION " ++ toString config.maxRecursion ++ ")"] }

def mySql (config : Config) (axis : AxisSpec) : Calendar :=
  let next := "DATE_ADD(dt, INTERVAL 1 " ++ unitKeyword axis.increment ++ ")"
  { settings := [
      "SET SESSION cte_max_recursion_depth = " ++ toString config.cteMaxRecursionDepth ++ ";"]
    cte := {
      name := calendarName
      columns := []
      body := "SELECT CAST(" ++ axis.startDate ++ " AS DATE) AS dt\nUNION ALL\nSELECT " ++ next ++
        " FROM " ++ calendarName ++ "\nWHERE " ++ next ++ " <= CAST(" ++ axis.endDate ++ " AS DATE)"
      recursive := true }
    options := [] }

def postgres (axis : AxisSpec) : Calendar :=
  { settings := []
    cte := {
      name := calendarName
      columns := []
      body := "SELECT CAST(g.dt AS DATE) AS dt\nFROM generate_series(CAST(" ++ axis.startDate ++
        " AS DATE), CAST(" ++ axis.endDate ++ " AS DATE), INTERVAL '" ++
        seriesInterval axis.increment ++ "') AS g(dt)"
      recursive := false }
    options := [] }

def oracle (axis : AxisSpec) : Calendar :=
  let next := oracleNext axis.increment "dt"
  { settings := []
    cte := {
      name := calendarName
      columns := ["dt"]
      body := "SELECT " ++ oracleBound axis.startDate ++ " FROM dual\nUNION ALL\nSELECT " ++ next ++
        " FROM " ++ calendarName ++ "\nWHERE " ++ next ++ " <= " ++ oracleBound axis.endDate
      recursive := true }
    options := [] }

def sqlite (axis : AxisSpec) : Calendar :=
  let next := "date(dt, '" ++ dateModifier axis.increment ++ "')"
  { settings := []
    cte := {
      name := calendarName
      columns := ["dt"]
      body := "SELECT date(" ++ axis.startDate ++ ")\nUNION ALL\nSELECT " ++ next ++ " FROM " ++
        calendarName ++ "\nWHERE " ++ next ++ " <= date(" ++ axis.endDate ++ ")"
      recursive := true }
    options := [] }

/-- Every bucket from the start of the axis to its end. -/
def ofAxis (config : Config) (db : Database) (axis : AxisSpec) : Calendar :=
  match db with
  | .sqlServer => sqlServer config axis
  | .mySql => mySql config axis
  | .postgres => postgres axis
  | .oracle => oracle axis
  | .sqlite => sqlite axis

end Calendar

end Crosstab
