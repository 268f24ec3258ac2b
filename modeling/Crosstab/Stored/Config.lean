import Crosstab.Stored.Record
import Crosstab.Config

/-!
# Settings as data

Settings are stored in four sections. Every section and every key may be absent and then keeps its
built-in value; unknown ones are ignored.
-/

namespace Crosstab.Config

def sectionNames : List String := ["defaults", "sqlserver", "mysql", "postgres"]

/-- The largest count of 32 bits. -/
def maxShortCount : Nat := 4294967295

/-- Take over the settings of the section for all targets. -/
def withDefaults (rules : Leniency) (config : Config) (value : Value) : Option Config := do
  let fields ← value.fields? rules ["axis_alias"]
  let axisAlias ← fields.orElse 0 config.axisAlias Value.text?
  some { config with axisAlias }

/-- Take over the settings of the SQL Server section. -/
def withSqlServer (rules : Leniency) (config : Config) (value : Value) : Option Config := do
  let fields ← value.fields? rules ["max_recursion"]
  let maxRecursion ← fields.orElse 0 config.maxRecursion (Value.count? maxShortCount)
  some { config with maxRecursion }

/-- Take over the settings of the MySQL section. -/
def withMySql (rules : Leniency) (config : Config) (value : Value) : Option Config := do
  let fields ← value.fields? rules ["cte_max_recursion_depth", "group_concat_max_len"]
  let cteMaxRecursionDepth ←
    fields.orElse 0 config.cteMaxRecursionDepth (Value.count? maxCount)
  let groupConcatMaxLen ← fields.orElse 1 config.groupConcatMaxLen (Value.count? maxCount)
  some { config with cteMaxRecursionDepth, groupConcatMaxLen }

/-- Take over the settings of the PostgreSQL section. -/
def withPostgres (rules : Leniency) (config : Config) (value : Value) : Option Config := do
  let fields ← value.fields? rules ["pivot_view"]
  let pivotView ← fields.orElse 0 config.pivotView Value.text?
  some { config with pivotView }

/-- The settings that a value spells out, unchecked. -/
def ofValue? (rules : Leniency) (value : Value) : Option Config := do
  let fields ← value.fields? rules sectionNames
  let config ← fields.orElse 0 ({} : Config) (withDefaults rules {})
  let config ← fields.orElse 1 config (withSqlServer rules config)
  let config ← fields.orElse 2 config (withMySql rules config)
  fields.orElse 3 config (withPostgres rules config)

end Crosstab.Config
