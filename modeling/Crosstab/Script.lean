import Crosstab.Pivot

/-!
# Pivot scripts

The script that runs a pivot writes the pieces of one statement as string literals of another. Its
lines are therefore lists of pieces, and a piece says whether it is SQL of the script itself or text
that the script carries in a literal. Only `Piece.render` turns carried text into a literal, so
nothing is escaped twice or not at all.
-/

namespace Crosstab

/-- A piece of a script. -/
inductive Piece where
  /-- SQL of the script itself. -/
  | code (text : String)
  /-- Text that the script carries as a string literal. -/
  | carried (text : String)
  deriving Repr, DecidableEq

def Piece.render (db : Database) : Piece → String
  | .code text => text
  | .carried text => db.quoteLiteral text

/-- A script: its lines, each a list of pieces. -/
structure Script where
  lines : List (List Piece)
  deriving Repr, DecidableEq

namespace Script

/-- A line of pieces as text. -/
def renderLine (db : Database) (pieces : List Piece) : String :=
  pieces.foldr (fun piece rest => piece.render db ++ rest) ""

def render (script : Script) (db : Database) : String :=
  "\n".intercalate (script.lines.map (renderLine db))

/-- Lines that carry nothing. -/
def codeLines (texts : List String) : List (List Piece) := texts.map fun text => [.code text]

/-- The texts that the script carries, in order. -/
def carried (script : Script) : List String :=
  script.lines.flatten.filterMap fun
    | .carried text => some text
    | .code _ => none

/-- A statement over the census whose select list is made of pieces. -/
def overCensus (db : Database) (plan : PivotPlan) (selectList : List Piece) : List Piece :=
  .code (plan.censusOpening db) :: selectList ++ [.code PivotPlan.censusClosing]

/-- SQL Server folds the columns into a variable and executes the statement as dynamic SQL. The
bounds of an axis are variables of this batch and have to be passed on to the dynamic one. -/
def sqlServer (plan : PivotPlan) (overAxis : Bool) : Script :=
  let collect := [
    .code "SELECT @columns = STRING_AGG(CAST(N", .carried plan.column.opening,
    .code " + '''' + REPLACE(piv, '''', '''''') + '''' + N", .carried plan.column.middle,
    .code (" + '[' + REPLACE(piv, ']', ']]') + ']' AS NVARCHAR(MAX)), '')" ++
      " WITHIN GROUP (ORDER BY rn)")]
  let execute :=
    if overAxis then
      "EXECUTE sp_executesql @sql, N'@startDate DATE, @endDate DATE', " ++
        "@startDate = @startDate, @endDate = @endDate;"
    else "EXECUTE sp_executesql @sql;"
  ⟨codeLines plan.preSelect ++ [
    [.code "DECLARE @columns NVARCHAR(MAX);"],
    overCensus .sqlServer plan collect ++ [.code ";"],
    [.code "DECLARE @sql NVARCHAR(MAX) = N", .carried plan.head,
      .code " + COALESCE(@columns, N'') + N", .carried plan.tail, .code ";"],
    [.code execute]]⟩

/-- MySQL folds the columns into a session variable and prepares the statement from text. -/
def mySql (config : Config) (plan : PivotPlan) (overAxis : Bool) : Script :=
  let var := if overAxis then "@columnsSelectFromDataset" else "@columnsSelectCases"
  let collect := [
    .code "SELECT GROUP_CONCAT(CONCAT(", .carried plan.column.opening,
    .code ", QUOTE(piv), ", .carried plan.column.middle,
    .code (", '\x60', REPLACE(piv, '\x60', '\x60\x60'), '\x60') ORDER BY rn SEPARATOR '') INTO " ++
      var)]
  ⟨[.code ("SET SESSION group_concat_max_len = " ++ toString config.groupConcatMaxLen ++ ";")] ::
    codeLines plan.preSelect ++ [
    [.code ("SET " ++ var ++ " = NULL;")],
    overCensus .mySql plan collect ++ [.code ";"],
    [.code "SET @sql = CONCAT(", .carried plan.head,
      .code (", IFNULL(" ++ var ++ ", ''), "), .carried plan.tail, .code ");"],
    [.code "PREPARE stmt FROM @sql;"],
    [.code "EXECUTE stmt;"],
    [.code "DEALLOCATE PREPARE stmt;"]]⟩

/-- PostgreSQL assembles the statement in an anonymous block, which can return nothing; the block
leaves the result in a temporary view. -/
def postgres (config : Config) (plan : PivotPlan) : Script :=
  let view := Database.postgres.quoteIdent config.pivotView
  let collect := [
    .code "SELECT string_agg(format('%s%L%s%I', ", .carried plan.column.opening,
    .code ", piv, ", .carried plan.column.middle,
    .code ", piv), '' ORDER BY rn) INTO pivot_columns"]
  ⟨codeLines plan.preSelect ++ [
    [.code "DO $aggsql$"],
    [.code "DECLARE"],
    [.code "pivot_columns TEXT;"],
    [.code "BEGIN"],
    overCensus .postgres plan collect ++ [.code ";"],
    [.code "EXECUTE ", .carried ("DROP VIEW IF EXISTS " ++ view), .code ";"],
    [.code "EXECUTE ", .carried ("CREATE TEMP VIEW " ++ view ++ " AS\n" ++ plan.head),
      .code " || coalesce(pivot_columns, '') || ", .carried plan.tail, .code ";"],
    [.code "END"],
    [.code "$aggsql$;"],
    [.code ("SELECT * FROM " ++ view ++ ";")]]⟩

/-- Oracle appends the columns in a cursor loop, where no length limit of string functions applies,
and returns a cursor over the statement. -/
def oracle (plan : PivotPlan) : Script :=
  let collect := [
    .code "SELECT ", .carried plan.column.opening,
    .code " || '''' || REPLACE(piv, '''', '''''') || '''' || ", .carried plan.column.middle,
    .code " || '\"' || REPLACE(piv, '\"', '\"\"') || '\"' AS pivot_column"]
  ⟨codeLines plan.preSelect ++ [
    [.code "DECLARE"],
    [.code "pivot_columns CLOB;"],
    [.code "pivot_cursor SYS_REFCURSOR;"],
    [.code "BEGIN"],
    .code "FOR pivot_value IN (\n" :: overCensus .oracle plan collect ++
      [.code "\nORDER BY rn\n) LOOP"],
    [.code "pivot_columns := pivot_columns || pivot_value.pivot_column;"],
    [.code "END LOOP;"],
    [.code "OPEN pivot_cursor FOR ", .carried plan.head, .code " || pivot_columns || ",
      .carried plan.tail, .code ";"],
    [.code "DBMS_SQL.RETURN_RESULT(pivot_cursor);"],
    [.code "END;"]]⟩

/-- How a target writes the script of a plan, where it can run generated statements at all. -/
def writer? (config : Config) : Database → Option (PivotPlan → (overAxis : Bool) → Script)
  | .sqlServer => some sqlServer
  | .mySql => some (mySql config)
  | .postgres => some fun plan _ => postgres config plan
  | .oracle => some fun plan _ => oracle plan
  | .sqlite => none

end Script

end Crosstab
