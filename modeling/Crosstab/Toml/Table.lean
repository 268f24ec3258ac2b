import Crosstab.Data.Value

/-!
# Tables under construction

A TOML document names tables by headers and by dotted keys, and the two must not meet: a table may
be given a header once, and only if no dotted key made it. So a table remembers how it came to be
until the document is finished.
-/

namespace Crosstab.Toml

/-- How a table came to be. -/
inductive Origin where
  /-- By a header of its own, or as a value. -/
  | header
  /-- By the header of a table inside it. -/
  | implied
  /-- By a dotted key. -/
  | dotted
  deriving Repr, DecidableEq

/-- What stands under a key. -/
inductive Entry where
  | value (v : Value)
  | table (origin : Origin) (entries : List (String × Entry))
  /-- The tables of a list made by double headers, the last one first. -/
  | tables (items : List (List (String × Entry)))

/-- The contents of a table in the order written. -/
abbrev Table := List (String × Entry)

namespace Table

def lookup? (table : Table) (key : String) : Option Entry :=
  (table.find? (·.1 == key)).map Prod.snd

/-- Put an entry under a key that is there already. -/
def replace (table : Table) (key : String) (entry : Entry) : Table :=
  table.map fun e => if e.1 == key then (key, entry) else e

/-- Change the table to which a path leads, making tables that are missing. `f` is told how that
table came to be. A path of a dotted key leads through no table with a header of its own. -/
def update (byKey : Bool) (origin : Origin) (table : Table) :
    List String → (Origin → Table → Option Table) → Option Table
  | [], f => f origin table
  | key :: rest, f =>
    match table.lookup? key with
    | none =>
      let made : Origin := if byKey then .dotted else .implied
      (update byKey made [] rest f).map fun t => table ++ [(key, .table made t)]
    | some (.value _) => none
    | some (.tables []) => none
    | some (.tables (last :: before)) =>
      (update byKey .header last rest f).map fun t => table.replace key (.tables (t :: before))
    | some (.table origin inner) =>
      if byKey && origin == .header then none
      else (update byKey origin inner rest f).map fun t => table.replace key (.table origin t)

/-- Put a value under a dotted key: the path before the last dot, then the last part. -/
def putValue (table : Table) (path : List String) (key : String) (value : Value) : Option Table :=
  table.update true .header path fun origin inner =>
    if !path.isEmpty && origin != .dotted then none
    else if (inner.lookup? key).isSome then none
    else some (inner ++ [(key, .value value)])

/-- Give the table at a path its header. -/
def open? (table : Table) (path : List String) (key : String) : Option Table :=
  table.update false .header path fun _ parent =>
    match parent.lookup? key with
    | none => some (parent ++ [(key, .table .header [])])
    | some (.table .implied inner) => some (parent.replace key (.table .header inner))
    | some _ => none

/-- Begin one more table of a list of tables. -/
def openItem? (table : Table) (path : List String) (key : String) : Option Table :=
  table.update false .header path fun _ parent =>
    match parent.lookup? key with
    | none => some (parent ++ [(key, .tables [[]])])
    | some (.tables items) => some (parent.replace key (.tables ([] :: items)))
    | some _ => none

end Table

mutual

/-- An entry as a value. -/
def Entry.toValue : Entry → Value
  | .value v => v
  | .table _ entries => .map (tableEntries entries)
  | .tables items => .list (tableItems items).reverse

/-- The entries of a table as those of a map. -/
def tableEntries : List (String × Entry) → List (Value × Value)
  | [] => []
  | (key, entry) :: rest => (.text key, entry.toValue) :: tableEntries rest

/-- Tables as maps. -/
def tableItems : List (List (String × Entry)) → List Value
  | [] => []
  | item :: rest => .map (tableEntries item) :: tableItems rest

end

/-- A finished table as a value. -/
def Table.toValue (table : Table) : Value := .map (tableEntries table)

end Crosstab.Toml
