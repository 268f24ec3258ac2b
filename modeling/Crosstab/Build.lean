import Crosstab.Script

/-!
# Building

A request is validated, classified, checked against its shape and then written out. Every check of
the contract runs before any text is produced.
-/

namespace Crosstab

namespace Build

/-- The caller's lines as one statement, capped by the TopX limit. -/
def plain (db : Database) (request : Request) : Outcome String := do
  let limit ← request.topXLimit
  .ok ({ Query.ofLines request.lines with limit := limit }.render db)

/-- One row for each bucket of the date axis. -/
def axis (config : Config) (db : Database) (request : Request) : Outcome String := do
  let spec ← Shape.axis.require .axis request.axis
  let plan ← AxisPlan.ofRequest db request .axis
  let calendar := Calendar.ofAxis config db spec
  .ok ((plan.statement db calendar config.axisAlias [plan.countColumn db] false).render db)

/-- The way to write a script, or the refusal of a target that could not run one. -/
def scriptWriter (config : Config) (db : Database) (shape : Shape) :
    Outcome (PivotPlan → Bool → Script) :=
  match Script.writer? config db with
  | some write => .ok write
  | none => .error (.unsupportedShape db shape)

/-- One row for each row header, one column for each pivot value. -/
def pivot (config : Config) (db : Database) (request : Request) : Outcome String := do
  let write ← scriptWriter config db .pivot
  let plan ← PivotPlan.ofRows db request
  .ok ((write plan false).render db)

/-- One row for each bucket of the date axis, one column for each pivot value. -/
def axisPivot (config : Config) (db : Database) (request : Request) : Outcome String := do
  let write ← scriptWriter config db .axisPivot
  let spec ← Shape.axisPivot.require .axis request.axis
  let calendar := Calendar.ofAxis config db spec
  let plan ← PivotPlan.ofAxis db calendar config.axisAlias request
  .ok ((write plan true).render db)

/-- Write a request in a shape, without checking that it has that shape. -/
def inShape (config : Config) (db : Database) (shape : Shape) (request : Request) :
    Outcome String :=
  match shape with
  | .plain => plain db request
  | .axis => axis config db request
  | .pivot => pivot config db request
  | .axisPivot => axisPivot config db request

end Build

/-- The SQL of a request for a target. -/
def build (config : Config) (db : Database) (request : Request) : Outcome String := do
  request.validate
  let shape := Shape.classify request
  shape.checkRequirements request
  Build.inShape config db shape request

end Crosstab
