import Crosstab.Request

/-!
# Acceptable requests

Before any SQL is written a request is checked in two steps: its own contract, which is the same
for all shapes, and then what its shape needs. Both report the first fault in a fixed order.
-/

namespace Crosstab

namespace Request

/-- How many lines satisfy `p`. -/
def countLines (request : Request) (p : Line → Bool) : Nat := (request.lines.filter p).length

/-- There is at most one line of a kind. -/
def checkSole (request : Request) (what : SoleLine) (p : Line → Bool) : Outcome Unit :=
  let found := request.countLines p
  if 1 < found then .error (.invalidRequest (.tooMany what found)) else .ok ()

/-- Whether the role of the line can be used in its slot. -/
def isPlaced (line : Line) : Bool :=
  match line.role with
  | .ordinary => true
  | .count => line.slot == .select
  | .pivot | .axis => line.slot == .select || line.slot == .groupBy
  | .topX => line.slot == .select || line.slot == .orderBy || line.slot == .trailing

/-- Every role stands in a slot where it means something. -/
def checkPlaced (request : Request) : Outcome Unit :=
  match request.lines.find? (fun line => !isPlaced line) with
  | some line => .error (.invalidRequest (.misplaced line))
  | none => .ok ()

/-- The bounds of the axis, the axis select and the axis grouping come together. -/
def checkAxis (request : Request) : Outcome Unit :=
  match request.axis.isSome, request.axisSelect?.isSome with
  | true, false => .error (.invalidRequest .axisWithoutSelect)
  | false, true => .error (.invalidRequest .selectWithoutAxis)
  | _, _ =>
    if request.axisSelect?.isSome && request.axisGroupBy?.isNone then
      .error (.invalidRequest .axisWithoutGroupBy)
    else .ok ()

/-- The contract of a request, whatever its shape. -/
def validate (request : Request) : Outcome Unit := do
  request.checkSole .axisSelect (·.is .select .axis)
  request.checkSole .axisGroupBy (·.is .groupBy .axis)
  request.checkSole .pivotSelect (·.is .select .pivot)
  request.checkSole .countSelect (·.is .select .count)
  request.checkSole .topXLimit isTopXLimit
  request.checkPlaced
  request.checkAxis
  let _ ← request.topXLimit
  .ok ()

end Request

namespace Shape

/-- The shape follows from which distinguished selects are present. -/
def classify (request : Request) : Shape :=
  match request.axisSelect?.isSome, request.pivotSelect?.isSome with
  | false, false => plain
  | true, false => axis
  | false, true => pivot
  | true, true => axisPivot

def usesAxis : Shape → Bool
  | axis | axisPivot => true
  | plain | pivot => false

def usesPivot : Shape → Bool
  | pivot | axisPivot => true
  | plain | axis => false

/-- Fail for a part that is absent. -/
def demand (shape : Shape) (part : Part) (present : Bool) : Outcome Unit :=
  if present then .ok () else .error (.missingPart shape part)

/-- The parts that the shape needs are there, and a pivot has exactly one row header. -/
def checkRequirements (shape : Shape) (request : Request) : Outcome Unit := do
  if shape.usesAxis then
    shape.demand .axis request.axis.isSome
    shape.demand .axisSelect request.axisSelect?.isSome
  if shape.usesPivot then
    shape.demand .pivotSelect request.pivotSelect?.isSome
  if shape != plain then
    shape.demand .countSelect request.countSelect?.isSome
  if shape == pivot then
    let headers := request.countLines (·.is .select .ordinary)
    if headers != 1 then
      throw (.invalidRequest (.rowHeaders headers))

end Shape

end Crosstab
