import Crosstab.Fragment.Paren
import Crosstab.Dialect.Clauses

/-!
# Statements

A `Query` holds the sections of one `SELECT` statement; its rendering is the only place that decides
clause order, keywords and separators. It is rendered in two parts, cut right after the select list,
so that generated columns can be put between them.
-/

namespace Crosstab

/-- A common table expression. -/
structure Cte where
  name : String
  columns : List String
  body : String
  recursive : Bool
  deriving Repr, DecidableEq

/-- The sections of a `SELECT` statement. -/
structure Query where
  preSelect : List String := []
  ctes : List Cte := []
  select : List String := []
  tables : List String := []
  filters : List String := []
  groupBy : List String := []
  having : List String := []
  orderBy : List String := []
  limit : Option Nat := none
  trailing : List String := []
  deriving Repr, DecidableEq

/-- A predicate as one member of a conjunction: trimmed, and in parentheses unless it is wrapped
already. -/
def groupPredicate (predicate : String) : String :=
  if isWrapped predicate.toList then trimText predicate else "(" ++ trimText predicate ++ ")"

/-- Predicates joined by `AND`. A predicate that stands alone is kept as it is; several are grouped,
so that an `OR` of one cannot capture another. -/
def conjunction : List String → String
  | [] => ""
  | [predicate] => predicate
  | predicates => " AND ".intercalate (predicates.map groupPredicate)

/-- A clause that is left out when it has no items. -/
def clause (keyword separator : String) (items : List String) : List String :=
  if items.isEmpty then [] else [keyword ++ separator.intercalate items]

/-- A clause over predicates, left out when there are none. -/
def predicateClause (keyword : String) (predicates : List String) : List String :=
  if predicates.isEmpty then [] else [keyword ++ conjunction predicates]

/-- Each line after a line break. -/
def indentLines (lines : List String) : String :=
  lines.foldr (fun line rest => "\n" ++ line ++ rest) ""

/-- A common table expression without its `WITH`. -/
def Cte.render (cte : Cte) : String :=
  let columns := if cte.columns.isEmpty then "" else " (" ++ ", ".intercalate cte.columns ++ ")"
  cte.name ++ columns ++ " AS (\n" ++ cte.body ++ "\n)"

/-- The keyword of a `WITH` clause. -/
def withKeyword (db : Database) (ctes : List Cte) : String :=
  if ctes.any (·.recursive) && db.announcesRecursion then "WITH RECURSIVE " else "WITH "

/-- A `WITH` clause. -/
def renderWith (db : Database) (ctes : List Cte) : String :=
  withKeyword db ctes ++ ",\n".intercalate (ctes.map Cte.render)

namespace Query

/-- Sort lines into sections, each in the order given. A TopX line outside `ORDER BY` is left out:
its count is applied by the limit. -/
def ofLines (lines : List Line) : Query :=
  let kept := lines.filter fun line => line.role != .topX || line.slot == .orderBy
  let texts (slot : Slot) : List String := (kept.filter (·.slot == slot)).map (·.text)
  { preSelect := texts .preSelect
    select := texts .select
    tables := texts .table
    filters := texts .filter
    groupBy := texts .groupBy
    having := texts .having
    orderBy := texts .orderBy
    trailing := texts .trailing }

/-- `SELECT`, with a row limit if this target puts it here. -/
def selectKeyword (db : Database) (query : Query) : String :=
  match query.limit.map db.limitClause with
  | some (.afterSelect top) => "SELECT " ++ top ++ " "
  | _ => "SELECT "

/-- The keyword and the select list. -/
def selectClause (db : Database) (query : Query) : String :=
  query.selectKeyword db ++ ", ".intercalate query.select

/-- The row limit, if this target puts it after `ORDER BY`. -/
def trailingLimit (db : Database) (query : Query) : List String :=
  match query.limit.map db.limitClause with
  | some (.trailing text) => [text]
  | _ => []

/-- The lines up to and including the select list. -/
def headLines (db : Database) (query : Query) : List String :=
  query.preSelect ++ (if query.ctes.isEmpty then [] else [renderWith db query.ctes]) ++
    [query.selectClause db]

/-- The lines after the select list. -/
def tailLines (db : Database) (query : Query) : List String :=
  clause "FROM " "\n" query.tables ++
    predicateClause "WHERE " query.filters ++
    clause "GROUP BY " ", " query.groupBy ++
    predicateClause "HAVING " query.having ++
    clause "ORDER BY " ", " query.orderBy ++
    query.trailingLimit db ++
    query.trailing

/-- The statement up to and including the select list. -/
def head (db : Database) (query : Query) : String := "\n".intercalate (query.headLines db)

/-- The statement after the select list. -/
def tail (db : Database) (query : Query) : String := indentLines (query.tailLines db)

/-- The whole statement. -/
def render (db : Database) (query : Query) : String := query.head db ++ query.tail db

end Query

end Crosstab
