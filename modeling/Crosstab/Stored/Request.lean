import Crosstab.Stored.Record
import Crosstab.Json.Printer
import Crosstab.Request

/-!
# Requests as data

How lines, axes and requests are stored, and how they are read back. Unknown fields are ignored, a
line without a role is an ordinary one, and a request without an axis has none. A named request is
always a map: its own fields and those of its request stand side by side in it.
-/

namespace Crosstab

namespace Line

def fieldNames : List String := ["text", "slot", "role"]

def toValue (line : Line) : Value :=
  .record [("text", .text line.text), ("slot", .text line.slot.word),
    ("role", .text line.role.word)]

def ofValue? (rules : Leniency) (value : Value) : Option Line := do
  let fields ← value.fields? rules fieldNames
  let text ← fields.demand 0 Value.text?
  let slot ← fields.demand 1 fun v => (v.word? rules (Slot.all.map Slot.word)).bind (Slot.all[·]?)
  let role ← fields.orElse 2 .ordinary fun v =>
    (v.word? rules (Role.all.map Role.word)).bind (Role.all[·]?)
  some ⟨text, slot, role⟩

end Line

namespace AxisSpec

def fieldNames : List String := ["start_date", "end_date", "increment"]

def toValue (axis : AxisSpec) : Value :=
  .record [("start_date", .text axis.startDate), ("end_date", .text axis.endDate),
    ("increment", .text axis.increment.word)]

def ofValue? (rules : Leniency) (value : Value) : Option AxisSpec := do
  let fields ← value.fields? rules fieldNames
  let startDate ← fields.demand 0 Value.text?
  let endDate ← fields.demand 1 Value.text?
  let increment ← fields.demand 2 fun v => v.text?.bind fun s => (Increment.parse s).toOption
  some ⟨startDate, endDate, increment⟩

end AxisSpec

/-- A value, or null for none. -/
def optionValue {α : Type} (encode : α → Value) : Option α → Value
  | some a => encode a
  | none => .null

namespace Request

def fieldNames : List String := ["lines", "axis"]

/-- The fields of a request. -/
def toFields (request : Request) : List (String × Value) :=
  [("lines", .list (request.lines.map Line.toValue)),
    ("axis", optionValue AxisSpec.toValue request.axis)]

def toValue (request : Request) : Value := .record request.toFields

/-- Decode the lines of a request. -/
def linesOfValue? (rules : Leniency) : Value → Option (List Line)
  | .list items => items.mapM (Line.ofValue? rules)
  | _ => none

def ofFields? (rules : Leniency) (fields : Fields) : Option Request := do
  let lines ← fields.demand 0 (linesOfValue? rules)
  let axis ← fields.orElse 1 none (Value.optional? (AxisSpec.ofValue? rules))
  some ⟨lines, axis⟩

def ofValue? (rules : Leniency) (value : Value) : Option Request := do
  let fields ← value.fields? rules fieldNames
  ofFields? rules fields

end Request

/-- A request under the name by which it is asked for. -/
structure NamedRequest where
  name : String
  description : Option String
  request : Request
  deriving Repr, DecidableEq

namespace NamedRequest

def fieldNames : List String := ["name", "description"]

def toValue (named : NamedRequest) : Value :=
  .record <|
    [("name", .text named.name), ("description", optionValue .text named.description)] ++
      named.request.toFields

def ofValue? (value : Value) : Option NamedRequest :=
  match value with
  | .map entries => do
    let own ← Value.numberEntries fieldNames entries
    let shared ← Value.numberEntries Request.fieldNames entries
    let name ← own.demand 0 Value.text?
    let description ← own.orElse 1 none (Value.optional? Value.text?)
    let request ← Request.ofFields? .stored shared
    some ⟨name, description, request⟩
  | _ => none

end NamedRequest

/-- The JSON text of a line. -/
def Line.json (line : Line) : String := Json.render line.toValue

/-- The JSON text of a request. -/
def Request.json (request : Request) : String := Json.render request.toValue

/-- The JSON text of a named request. -/
def NamedRequest.json (named : NamedRequest) : String := Json.render named.toValue

end Crosstab
