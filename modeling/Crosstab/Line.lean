import Crosstab.Fragment.Name
import Crosstab.Fragment.Call

/-!
# Lines

A request is a list of lines. A line is one piece of content for one clause of a statement; the
clause keywords, the commas and the `AND`s between lines are never part of it. Its slot says which
clause, its role says what it means to a pivot or to a date axis.
-/

namespace Crosstab

/-- The clause that a line belongs to, in statement order. -/
inductive Slot where
  /-- A statement that has to run before the query. -/
  | preSelect
  | select
  /-- The table, or a join after it. -/
  | table
  | filter
  | groupBy
  | having
  | orderBy
  /-- Text after everything else. -/
  | trailing
  deriving Repr, DecidableEq

namespace Slot

def all : List Slot := [preSelect, select, table, filter, groupBy, having, orderBy, trailing]

/-- The place of the clause in a statement. -/
def rank : Slot → Nat
  | preSelect => 0
  | select => 1
  | table => 2
  | filter => 3
  | groupBy => 4
  | having => 5
  | orderBy => 6
  | trailing => 7

/-- The word for the slot in stored requests. -/
def word : Slot → String
  | preSelect => "pre_select"
  | select => "select"
  | table => "from"
  | filter => "where"
  | groupBy => "group_by"
  | having => "having"
  | orderBy => "order_by"
  | trailing => "postfix"

/-- The name of the slot in messages. -/
def label : Slot → String
  | preSelect => "PreSelect"
  | select => "Select"
  | table => "From"
  | filter => "Where"
  | groupBy => "GroupBy"
  | having => "Having"
  | orderBy => "OrderBy"
  | trailing => "Postfix"

/-- The slot that a stored word names. -/
def ofWord? (word : String) : Option Slot := all.find? (·.word == word)

end Slot

/-- What a line means beyond its clause. -/
inductive Role where
  | ordinary
  /-- The expression whose distinct values become columns. -/
  | pivot
  /-- The date expression that is binned onto the calendar. -/
  | axis
  /-- The aggregate that is ranked, binned and pivoted. -/
  | count
  /-- The cap on pivot values or rows, or the ordering that decides which ones stay. -/
  | topX
  deriving Repr, DecidableEq

namespace Role

def all : List Role := [ordinary, pivot, axis, count, topX]

/-- The word for the role in stored requests. -/
def word : Role → String
  | ordinary => "none"
  | pivot => "pivot"
  | axis => "axis"
  | count => "count_function"
  | topX => "top_x"

/-- The name of the role in messages. -/
def label : Role → String
  | ordinary => "None"
  | pivot => "Pivot"
  | axis => "Axis"
  | count => "CountFunction"
  | topX => "TopX"

/-- The role that a stored word names. -/
def ofWord? (word : String) : Option Role := all.find? (·.word == word)

end Role

/-- One tagged piece of SQL text. -/
structure Line where
  text : String
  slot : Slot
  role : Role
  deriving Repr, DecidableEq

namespace Line

/-- A line without a role. -/
def plain (slot : Slot) (text : String) : Line := ⟨text, slot, .ordinary⟩

/-- A cap of `n` rows, which every database writes in its own syntax. -/
def rowCap (n : Nat) : Line := ⟨toString n, .trailing, .topX⟩

/-- The same line under another role. -/
def withRole (line : Line) (role : Role) : Line := { line with role }

/-- The same slot and role around another text. -/
def withText (line : Line) (text : String) : Line := { line with text }

/-- Whether the line has this slot and this role. -/
def is (line : Line) (slot : Slot) (role : Role) : Bool :=
  line.slot == slot && line.role == role

/-- The alias written in the line, unquoted. -/
def alias? (line : Line) : Option String :=
  (splitAlias line.text.toList).2.map String.ofList

/-- The line without its alias. -/
def expression (line : Line) : String := String.ofList (splitAlias line.text.toList).1

/-- The column name that the line gives its value. -/
def columnName? (line : Line) : Option String :=
  (runtimeName line.text.toList).map String.ofList

/-- The line without its alias as a single call: function name and argument. -/
def call? (line : Line) : Option (String × String) :=
  (splitCall line.expression.toList).map fun r => (String.ofList r.1, String.ofList r.2)

end Line

end Crosstab
