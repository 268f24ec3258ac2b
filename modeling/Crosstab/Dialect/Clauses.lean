import Crosstab.Request

/-!
# Clauses that differ between targets

Date parts, row limits, recursive queries and conversion to text.
-/

namespace Crosstab

/-- A row limit and where it stands. -/
inductive LimitClause where
  /-- Between `SELECT` and the select list. -/
  | afterSelect (text : String)
  /-- After `ORDER BY`. -/
  | trailing (text : String)
  deriving Repr, DecidableEq

namespace Database

/-- The expression that bins a date column. The calendar and the data go through the same one, so
that their buckets compare equal. -/
def datePart (db : Database) (increment : Increment) (column : String) : String :=
  match db, increment with
  | sqlServer, .day => "CAST(" ++ column ++ " AS DATE)"
  | sqlServer, .month => "CONVERT(NVARCHAR(7), " ++ column ++ ", 126)"
  | sqlServer, .quarter =>
    "CONVERT(NVARCHAR(4), " ++ column ++ ", 126) + 'Q' + DATENAME(QUARTER, " ++ column ++ ")"
  | sqlServer, .year => "YEAR(" ++ column ++ ")"
  | mySql, .day => "DATE(" ++ column ++ ")"
  | mySql, .month => "DATE_FORMAT(" ++ column ++ ", '%Y-%m')"
  | mySql, .quarter => "CONCAT(YEAR(" ++ column ++ "), 'Q', QUARTER(" ++ column ++ "))"
  | mySql, .year => "YEAR(" ++ column ++ ")"
  | postgres, .day => "CAST(" ++ column ++ " AS DATE)"
  | postgres, .month => "to_char(" ++ column ++ ", 'YYYY-MM')"
  | postgres, .quarter => "to_char(" ++ column ++ ", 'YYYY\"Q\"Q')"
  | postgres, .year => "CAST(date_part('year', " ++ column ++ ") AS INTEGER)"
  | oracle, .day => "TRUNC(" ++ column ++ ")"
  | oracle, .month => "TO_CHAR(" ++ column ++ ", 'YYYY-MM')"
  | oracle, .quarter =>
    "TO_CHAR(" ++ column ++ ", 'YYYY') || 'Q' || TO_CHAR(" ++ column ++ ", 'Q')"
  | oracle, .year => "EXTRACT(YEAR FROM " ++ column ++ ")"
  | sqlite, .day => "date(" ++ column ++ ")"
  | sqlite, .month => "strftime('%Y-%m', " ++ column ++ ")"
  | sqlite, .quarter =>
    "strftime('%Y', " ++ column ++ ") || 'Q' || ((CAST(strftime('%m', " ++ column ++
      ") AS INTEGER) + 2) / 3)"
  | sqlite, .year => "CAST(strftime('%Y', " ++ column ++ ") AS INTEGER)"

/-- The clause that keeps the first `n` rows. -/
def limitClause (db : Database) (n : Nat) : LimitClause :=
  match db with
  | sqlServer => .afterSelect ("TOP " ++ toString n)
  | oracle => .trailing ("FETCH FIRST " ++ toString n ++ " ROWS ONLY")
  | mySql | postgres | sqlite => .trailing ("LIMIT " ++ toString n)

/-- Whether a recursive common table expression has to be announced by `WITH RECURSIVE`. -/
def announcesRecursion : Database → Bool
  | mySql | postgres | sqlite => true
  | sqlServer | oracle => false

/-- Whether an aggregate can be restricted by `FILTER (WHERE ..)`. -/
def hasFilteredAggregates : Database → Bool
  | postgres => true
  | sqlServer | mySql | oracle | sqlite => false

/-- The expression that turns a value into text. -/
def castToText (db : Database) (expression : String) : String :=
  match db with
  | sqlServer => "CONVERT(NVARCHAR(MAX), " ++ expression ++ ")"
  | mySql => "CAST(" ++ expression ++ " AS CHAR)"
  | postgres | sqlite => "CAST(" ++ expression ++ " AS TEXT)"
  | oracle => "TO_CHAR(" ++ expression ++ ")"

end Database

end Crosstab
