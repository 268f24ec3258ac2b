import Crosstab.Failure
import Crosstab.Fragment.Count

/-!
# Requests

A request is its lines and, if it has one, the bounds of its date axis. The distinguished selects
are looked up by slot and role and never stored beside the lines, so the two cannot disagree.
-/

namespace Crosstab

/-- The bucket size of a date axis. -/
inductive Increment where
  | day
  | month
  | quarter
  | year
  deriving Repr, DecidableEq

namespace Increment

def all : List Increment := [day, month, quarter, year]

def word : Increment → String
  | day => "day"
  | month => "month"
  | quarter => "quarter"
  | year => "year"

/-- The increment that a text names, in any letter case. -/
def parse (text : String) : Outcome Increment :=
  match all.find? (·.word == lowerAscii (trimText text)) with
  | some increment => .ok increment
  | none => .error (.unsupportedIncrement text)

end Increment

/-- The bounds and the step of a date axis. The bounds are SQL expressions that are pasted, never
evaluated. -/
structure AxisSpec where
  startDate : String
  endDate : String
  increment : Increment
  deriving Repr, DecidableEq

structure Request where
  lines : List Line
  axis : Option AxisSpec
  deriving Repr, DecidableEq

namespace Request

def empty : Request := ⟨[], none⟩

/-- The first line with this slot and role. -/
def find? (request : Request) (slot : Slot) (role : Role) : Option Line :=
  request.lines.find? (·.is slot role)

def axisSelect? (request : Request) : Option Line := request.find? .select .axis
def axisGroupBy? (request : Request) : Option Line := request.find? .groupBy .axis
def pivotSelect? (request : Request) : Option Line := request.find? .select .pivot
def countSelect? (request : Request) : Option Line := request.find? .select .count

/-- The lines of a slot, in order. -/
def linesIn (request : Request) (slot : Slot) : List Line :=
  request.lines.filter (·.slot == slot)

/-- The texts of the lines of a slot, in order. -/
def textsIn (request : Request) (slot : Slot) : List String :=
  (request.linesIn slot).map (·.text)

/-- The lines of a slot that do not belong to the TopX cap. -/
def uncappedIn (request : Request) (slot : Slot) : List Line :=
  (request.linesIn slot).filter (·.role != .topX)

/-- The lines whose slots lie between two slots, ends included, in order. -/
def linesBetween (request : Request) (first last : Slot) : List Line :=
  request.lines.filter fun line => first.rank ≤ line.slot.rank && line.slot.rank ≤ last.rank

/-- Whether a line carries the row count of the TopX cap. -/
def isTopXLimit (line : Line) : Bool :=
  line.role == .topX && (line.slot == .select || line.slot == .trailing)

/-- The line that carries the row count of the TopX cap. -/
def topXLine? (request : Request) : Option Line := request.lines.find? isTopXLimit

/-- The ordering by which the TopX cap ranks its candidates. -/
def topXOrder (request : Request) : List Line :=
  (request.linesIn .orderBy).filter (·.role == .topX)

/-- The row count of the TopX cap, which must be positive. -/
def topXLimit (request : Request) : Outcome (Option Nat) :=
  match request.topXLine? with
  | none => .ok none
  | some line =>
    match trailingCount line.text.toList with
    | some n => if 0 < n then .ok (some n) else .error (.invalidTopX line.text)
    | none => .error (.invalidTopX line.text)

/-- The request with every line changed. -/
def mapLines (request : Request) (f : Line → Line) : Request :=
  { request with lines := request.lines.map f }

/-- The request with one more line. -/
def push (request : Request) (line : Line) : Request :=
  { request with lines := request.lines ++ [line] }

/-- The request without its lines of a role. -/
def withoutRole (request : Request) (role : Role) : Request :=
  { request with lines := request.lines.filter (·.role != role) }

/-- The request with text put before and after every line of a slot. -/
def wrapLines (request : Request) (slot : Slot) (before after : String) : Request :=
  request.mapLines fun line =>
    if line.slot == slot then line.withText (before ++ line.text ++ after) else line

end Request

end Crosstab
