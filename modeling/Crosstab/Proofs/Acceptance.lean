import Crosstab.Proofs.Outcomes

/-!
# Which requests are built

Between a request and its SQL stand checks in eight functions, and some things are asked for twice:
a part that the shape demands is demanded again where it is used. This file says what that amounts
to. `firstFault?` lists the conditions in the order in which they are found to fail, and
`build_contract` says that a synthesis reports exactly the first of them, so that it succeeds
when there is none.

The second demands never fail. `Checked` is what the two checks that run first leave behind, and
under it each writer can only be stopped by its target, by a select without a name or by a count
that is no single call.
-/

namespace Crosstab

/-! ## Faults -/

/-- Why there is no result. -/
def fault? {α : Type} : Outcome α → Option Failure
  | .ok _ => none
  | .error failure => some failure

section
variable {α β : Type} {x : Outcome α}

@[simp] theorem fault?_ok (a : α) : fault? (.ok a : Outcome α) = none := rfl

@[simp] theorem fault?_error (failure : Failure) :
    fault? (.error failure : Outcome α) = some failure := rfl

theorem fault?_eq_some {failure : Failure} : fault? x = some failure ↔ x = .error failure := by
  cases x <;> simp

theorem fault?_eq_none : fault? x = none ↔ ∃ a, x = .ok a := by
  cases x <;> simp

/-- A second step counts only when the first one had no fault. -/
theorem fault?_bind {f : α → Outcome β} {o : Option Failure}
    (h : ∀ a, x = .ok a → fault? (f a) = o) : fault? (x >>= f) = (fault? x).or o := by
  cases x with
  | error failure => rfl
  | ok a => exact h a rfl

/-- A second step that cannot fail leaves the faults of the first. -/
theorem fault?_bind_ok {f : α → Outcome β} (h : ∀ a, fault? (f a) = none) :
    fault? (x >>= f) = fault? x := by
  rw [fault?_bind fun a _ => h a, Option.or_none]

/-- What holds of every fault of two steps holds of every fault of both in turn. -/
theorem error_of_bind {f : α → Outcome β} {P : Failure → Prop}
    (hx : ∀ failure, x = .error failure → P failure)
    (hf : ∀ a failure, f a = .error failure → P failure) {failure : Failure}
    (h : (x >>= f) = .error failure) : P failure := by
  cases x with
  | error first =>
      cases h
      exact hx failure rfl
  | ok a => exact hf a failure h

theorem ok_bind (a : α) (f : α → Outcome β) : ((.ok a : Outcome α) >>= f) = f a := rfl

end

/-! ## The conditions -/

/-- The selects whose names the dataset shares with the statement around it, in the order in which
they are named. -/
def Request.namedSelects (request : Request) : List Line :=
  request.axisSelect?.toList ++ request.countSelect?.toList ++ request.pivotSelect?.toList

/-- The refusal of a line whose value has no name. -/
def Line.unnamed? (line : Line) : Option Failure :=
  if line.columnName?.isSome then none else some (.ambiguousAlias line.text)

/-- The refusal of a line that is no single call. -/
def Line.uncallable? (line : Line) : Option Failure :=
  if line.call?.isSome then none else some (.invalidRequest (.notOneCall line.text))

namespace Shape

/-- A script needs a target that can run one. -/
def runFault? (shape : Shape) (db : Database) : Option Failure :=
  if shape.usesPivot = true ∧ db = .sqlite then some (.unsupportedShape db shape) else none

/-- Over an axis every select of the dataset that is read from outside needs a name. -/
def nameFault? (shape : Shape) (request : Request) : Option Failure :=
  if shape.usesAxis then request.namedSelects.findSome? Line.unnamed? else none

/-- A condition goes inside the call of a count, where it cannot follow it as a filter. -/
def callFault? (shape : Shape) (db : Database) (request : Request) : Option Failure :=
  if shape = .pivot ∧ (db = .sqlServer ∨ db = .mySql ∨ db = .oracle) then
    request.countSelect?.bind Line.uncallable?
  else none

end Shape

/-- The first condition that a request fails. -/
def firstFault? (db : Database) (request : Request) : Option Failure :=
  let shape := Shape.classify request
  (fault? request.validate).or <|
    (fault? (shape.checkRequirements request)).or <|
      (shape.runFault? db).or <| (shape.nameFault? request).or <| shape.callFault? db request

/-- The conditions under which a request is built for a target. -/
structure Acceptable (db : Database) (request : Request) : Prop where
  valid : request.validate = .ok ()
  complete : (Shape.classify request).checkRequirements request = .ok ()
  runnable : (Shape.classify request).usesPivot = true → db ≠ .sqlite
  /-- Over an axis, the axis, count and pivot selects have names. -/
  named : (Shape.classify request).usesAxis = true →
    ∀ line, request.axisSelect? = some line ∨ request.countSelect? = some line ∨
      request.pivotSelect? = some line → line.columnName?.isSome = true
  /-- Without `FILTER`, the count of a pivot without an axis is a single call. -/
  callable : Shape.classify request = .pivot → db = .sqlServer ∨ db = .mySql ∨ db = .oracle →
    ∀ line, request.countSelect? = some line → line.call?.isSome = true

section
variable {db : Database} {request : Request}

theorem runFault?_eq_none {shape : Shape} :
    shape.runFault? db = none ↔ (shape.usesPivot = true → db ≠ .sqlite) := by
  unfold Shape.runFault?
  split <;> simp_all

theorem nameFault?_eq_none {shape : Shape} :
    shape.nameFault? request = none ↔ (shape.usesAxis = true →
      ∀ line, request.axisSelect? = some line ∨ request.countSelect? = some line ∨
        request.pivotSelect? = some line → line.columnName?.isSome = true) := by
  unfold Shape.nameFault?
  split
  · rename_i haxis
    simp only [List.findSome?_eq_none_iff, Request.namedSelects, List.mem_append,
      Option.mem_toList, or_assoc, haxis, true_imp_iff, Line.unnamed?,
      ite_eq_left_iff, reduceCtorEq, imp_false, Decidable.not_not]
  · rename_i haxis
    simp [haxis]

theorem callFault?_eq_none {shape : Shape} :
    shape.callFault? db request = none ↔
      (shape = .pivot → db = .sqlServer ∨ db = .mySql ∨ db = .oracle →
        ∀ line, request.countSelect? = some line → line.call?.isSome = true) := by
  unfold Shape.callFault?
  split
  · rename_i hcall
    simp only [hcall, true_imp_iff, Option.bind_eq_none_iff, Line.uncallable?,
      ite_eq_left_iff, reduceCtorEq, imp_false, Decidable.not_not]
  · rename_i hcall
    simp only [true_iff]
    exact fun hshape hdb => absurd ⟨hshape, hdb⟩ hcall

theorem fault?_unit {x : Outcome Unit} : fault? x = none ↔ x = .ok () := by
  rw [fault?_eq_none]
  exact ⟨fun ⟨_, h⟩ => h, fun h => ⟨(), h⟩⟩

theorem firstFault?_eq_none : firstFault? db request = none ↔ Acceptable db request := by
  simp only [firstFault?, Option.or_eq_none_iff, fault?_unit, runFault?_eq_none,
    nameFault?_eq_none, callFault?_eq_none]
  constructor
  · rintro ⟨hvalid, hcomplete, hrun, hname, hcall⟩
    exact ⟨hvalid, hcomplete, hrun, hname, hcall⟩
  · rintro ⟨hvalid, hcomplete, hrun, hname, hcall⟩
    exact ⟨hvalid, hcomplete, hrun, hname, hcall⟩

end

/-! ## Under the checks -/

/-- A request that its own check and the check of its shape have passed. -/
structure Checked (request : Request) : Prop where
  valid : request.Valid
  complete : (Shape.classify request).Complete request

section
variable {request : Request}

/-- The axis select and the bounds come together. -/
theorem Checked.axis (h : Checked request) (haxis : (Shape.classify request).usesAxis = true) :
    ∃ spec line count, request.axis = some spec ∧ request.axisSelect? = some line ∧
      request.countSelect? = some count := by
  obtain ⟨hspec, hline⟩ := h.complete.axis haxis
  have hcount : request.countSelect?.isSome = true := by
    refine h.complete.count fun hplain => ?_
    rw [hplain] at haxis
    cases haxis
  obtain ⟨spec, hspec⟩ := Option.isSome_iff_exists.mp hspec
  obtain ⟨line, hline⟩ := Option.isSome_iff_exists.mp hline
  obtain ⟨count, hcount⟩ := Option.isSome_iff_exists.mp hcount
  exact ⟨spec, line, count, hspec, hline, hcount⟩

theorem Checked.pivot (h : Checked request) (hpivot : (Shape.classify request).usesPivot = true) :
    ∃ line count, request.pivotSelect? = some line ∧ request.countSelect? = some count := by
  have hline := h.complete.pivot hpivot
  have hcount : request.countSelect?.isSome = true := by
    refine h.complete.count fun hplain => ?_
    rw [hplain] at hpivot
    cases hpivot
  obtain ⟨line, hline⟩ := Option.isSome_iff_exists.mp hline
  obtain ⟨count, hcount⟩ := Option.isSome_iff_exists.mp hcount
  exact ⟨line, count, hline, hcount⟩

/-- The one select that is counted as a row header is found as one. -/
theorem Checked.header (h : Checked request) (hshape : Shape.classify request = .pivot) :
    ∃ header, request.find? .select .ordinary = some header := by
  have hone := h.complete.header hshape
  rw [Request.countLines] at hone
  obtain ⟨header, hheader⟩ := List.length_eq_one_iff.mp hone
  refine ⟨header, ?_⟩
  rw [Request.find?, ← List.head?_filter, hheader]
  rfl

/-- Once its checks have passed, a request is written out in its shape. -/
theorem build_of_checked (h : Checked request) (config : Config) (db : Database) :
    build config db request = Build.inShape config db (Shape.classify request) request := by
  unfold build
  rw [validate_ok.mpr h.valid]
  simp only [ok_bind, checkRequirements_ok.mpr h.complete]

/-- What is written has passed its checks. -/
theorem checked_of_build {config : Config} {db : Database} {sql : String}
    (h : build config db request = .ok sql) : Checked request := by
  simp only [build, bind_eq_ok] at h
  obtain ⟨_, hvalid, _, hcomplete, -⟩ := h
  exact ⟨validate_ok.mp hvalid, checkRequirements_ok.mp hcomplete⟩

end

/-! ## What stops the writers -/

section
variable {db : Database} {request : Request}

theorem fault?_columnName (line : Line) : fault? (columnName line.text) = line.unnamed? := by
  unfold columnName Line.unnamed? Line.columnName?
  cases runtimeName line.text.toList <;> rfl

theorem findSome?_namedSelects {axis count : Line} (haxis : request.axisSelect? = some axis)
    (hcount : request.countSelect? = some count) (f : Line → Option Failure) :
    request.namedSelects.findSome? f =
      (f axis).or ((f count).or (request.pivotSelect?.bind f)) := by
  rw [Request.namedSelects, haxis, hcount]
  cases request.pivotSelect? <;>
    simp only [List.findSome?_append, Option.toList_some, Option.toList_none,
      List.findSome?_singleton, List.findSome?_nil, Option.or_assoc, Option.bind_some,
      Option.bind_none]

theorem fault?_resolve {axis count : Line} (haxis : request.axisSelect? = some axis)
    (hcount : request.countSelect? = some count) (shape : Shape) :
    fault? (DatasetNames.resolve request shape) =
      request.namedSelects.findSome? Line.unnamed? := by
  unfold DatasetNames.resolve
  rw [haxis, hcount, findSome?_namedSelects haxis hcount]
  simp only [Shape.require, ok_bind]
  rw [← fault?_columnName, ← fault?_columnName]
  refine fault?_bind fun join _ => fault?_bind fun name _ => ?_
  cases request.pivotSelect? with
  | none => rfl
  | some pivot =>
      rw [Option.bind_some, ← fault?_columnName]
      exact fault?_bind_ok fun _ => rfl

theorem fault?_axisPlan (db : Database) {spec : AxisSpec} {axis count : Line}
    (hspec : request.axis = some spec) (haxis : request.axisSelect? = some axis)
    (hcount : request.countSelect? = some count) (shape : Shape) :
    fault? (AxisPlan.ofRequest db request shape) =
      request.namedSelects.findSome? Line.unnamed? := by
  unfold AxisPlan.ofRequest
  rw [hspec, haxis, ← fault?_resolve haxis hcount shape]
  simp only [Shape.require, ok_bind]
  exact fault?_bind_ok fun _ => rfl

/-- What the census needs was made sure of before. -/
theorem census_of_valid (db : Database) (h : request.Valid) {count : Line}
    (hcount : request.countSelect? = some count) (shape : Shape) (pivotExpr : String)
    (axisExpr : Option String) :
    ∃ cte, census db request shape pivotExpr axisExpr = .ok cte := by
  obtain ⟨limit, hlimit⟩ := h.limit
  unfold census
  rw [hcount, hlimit]
  exact ⟨_, rfl⟩

theorem fault?_forRows (pivotExpr : String) (count : Line) :
    fault? (ColumnTemplate.forRows db pivotExpr count) =
      if db.hasFilteredAggregates then none else count.uncallable? := by
  unfold ColumnTemplate.forRows Line.uncallable?
  split
  · rfl
  · cases count.call? <;> rfl

theorem fault?_scriptWriter (config : Config) {shape : Shape} (hpivot : shape.usesPivot = true) :
    fault? (Build.scriptWriter config db shape) = shape.runFault? db := by
  unfold Build.scriptWriter Shape.runFault?
  rw [hpivot]
  cases db <;> rfl

section
variable (h : Checked request)
include h

theorem fault?_ofRows (hshape : Shape.classify request = .pivot) :
    fault? (PivotPlan.ofRows db request) =
      if db.hasFilteredAggregates then none else request.countSelect?.bind Line.uncallable? := by
  obtain ⟨pivot, count, hpivot, hcount⟩ := h.pivot (by rw [hshape]; rfl)
  obtain ⟨header, hheader⟩ := h.header hshape
  obtain ⟨values, hvalues⟩ := census_of_valid db h.valid hcount .pivot pivot.expression none
  rw [hcount, Option.bind_some, ← fault?_forRows pivot.expression count]
  unfold PivotPlan.ofRows
  rw [hpivot, hcount]
  simp only [Shape.require, ok_bind, hheader, hvalues]
  exact fault?_bind_ok fun _ => rfl

theorem fault?_ofAxis (hshape : Shape.classify request = .axisPivot) (calendar : Calendar)
    (axisAlias : String) :
    fault? (PivotPlan.ofAxis db calendar axisAlias request) =
      request.namedSelects.findSome? Line.unnamed? := by
  obtain ⟨pivot, _, hpivot, -⟩ := h.pivot (by rw [hshape]; rfl)
  obtain ⟨spec, axis, count, hspec, haxis, hcount⟩ := h.axis (by rw [hshape]; rfl)
  unfold PivotPlan.ofAxis
  rw [hpivot, ← fault?_axisPlan db hspec haxis hcount .axisPivot]
  simp only [Shape.require, ok_bind]
  rw [← Option.or_none (o := fault? (AxisPlan.ofRequest db request .axisPivot))]
  refine fault?_bind fun plan hplan => ?_
  -- The plan has a name for the pivot because the request has a pivot select.
  obtain ⟨_, _, names, -, -, hnames, hparts⟩ := AxisPlan.ofRequest_ok hplan
  have hname : ∃ name, plan.names.pivot = some name := by
    obtain ⟨-, -, ⟨hnone, -⟩ | ⟨_, name, -, -, hname⟩⟩ := DatasetNames.resolve_ok.mp hnames
    · rw [hpivot] at hnone
      cases hnone
    · exact ⟨name, by rw [hparts, hname]⟩
  obtain ⟨name, hname⟩ := hname
  obtain ⟨values, hvalues⟩ := census_of_valid db h.valid hcount .axisPivot
    pivot.expression (some plan.axisExpr)
  rw [hname]
  simp only [ok_bind, hvalues]
  rfl

end

variable (config : Config) (h : Checked request)
include h

theorem fault?_plain : fault? (Build.plain db request) = none := by
  obtain ⟨limit, hlimit⟩ := h.valid.limit
  unfold Build.plain
  rw [hlimit]
  rfl

theorem fault?_axis (hshape : Shape.classify request = .axis) :
    fault? (Build.axis config db request) = Shape.axis.nameFault? request := by
  obtain ⟨spec, axis, count, hspec, haxis, hcount⟩ := h.axis (by rw [hshape]; rfl)
  have hname : Shape.axis.nameFault? request = request.namedSelects.findSome? Line.unnamed? := rfl
  unfold Build.axis
  rw [hspec, hname, ← fault?_axisPlan db hspec haxis hcount .axis]
  simp only [Shape.require, ok_bind]
  exact fault?_bind_ok fun _ => rfl

theorem fault?_pivot (hshape : Shape.classify request = .pivot) :
    fault? (Build.pivot config db request) =
      (Shape.pivot.runFault? db).or (Shape.pivot.callFault? db request) := by
  unfold Build.pivot
  rw [← fault?_scriptWriter config rfl]
  refine fault?_bind fun write hwrite => (fault?_bind_ok fun _ => rfl).trans ?_
  rw [fault?_ofRows h hshape]
  -- A target with a writer is none of those that cannot run a script.
  cases db with
  | sqlite => cases hwrite
  | postgres => rfl
  | sqlServer | mySql | oracle => rfl

theorem fault?_axisPivot (hshape : Shape.classify request = .axisPivot) :
    fault? (Build.axisPivot config db request) =
      (Shape.axisPivot.runFault? db).or (Shape.axisPivot.nameFault? request) := by
  obtain ⟨spec, _, _, hspec, -, -⟩ := h.axis (by rw [hshape]; rfl)
  unfold Build.axisPivot
  rw [← fault?_scriptWriter config rfl]
  refine fault?_bind fun write _ => ?_
  rw [hspec]
  simp only [Shape.require, ok_bind]
  refine (fault?_bind_ok fun _ => rfl).trans ?_
  exact fault?_ofAxis h hshape _ _

/-- After the checks there are three causes left for a writer to stop at. -/
theorem fault?_inShape :
    fault? (Build.inShape config db (Shape.classify request) request) =
      ((Shape.classify request).runFault? db).or
        (((Shape.classify request).nameFault? request).or
          ((Shape.classify request).callFault? db request)) := by
  cases hshape : Shape.classify request with
  | plain => exact fault?_plain h
  | axis =>
      have hnone : Shape.axis.callFault? db request = none := rfl
      have hrun : Shape.axis.runFault? db = none := rfl
      rw [hrun, hnone, Option.or_none, Option.none_or]
      exact fault?_axis config h hshape
  | pivot =>
      have hnone : Shape.pivot.nameFault? request = none := rfl
      rw [hnone, Option.none_or]
      exact fault?_pivot config h hshape
  | axisPivot =>
      have hnone : Shape.axisPivot.callFault? db request = none := rfl
      rw [hnone, Option.or_none]
      exact fault?_axisPivot config h hshape

end

/-! ## The headline -/

section
variable {db : Database} {request : Request}

theorem fault?_build (config : Config) (db : Database) (request : Request) :
    fault? (build config db request) = firstFault? db request := by
  unfold build firstFault?
  refine fault?_bind fun _ hvalid => fault?_bind fun _ hcomplete => ?_
  exact fault?_inShape config ⟨validate_ok.mp hvalid, checkRequirements_ok.mp hcomplete⟩

/-- The faults that validation reports: it knows nothing of shapes. -/
def Failure.isContractual : Failure → Bool
  | .invalidRequest _ | .invalidTopX _ => true
  | _ => false

theorem invalidRequest_of_checkSole {what : SoleLine} {p : Line → Bool} {failure : Failure}
    (h : request.checkSole what p = .error failure) : ∃ fault, failure = .invalidRequest fault := by
  unfold Request.checkSole at h
  dsimp only at h
  split at h <;> cases h
  exact ⟨_, rfl⟩

theorem invalidRequest_of_checkPlaced {failure : Failure}
    (h : request.checkPlaced = .error failure) : ∃ fault, failure = .invalidRequest fault := by
  unfold Request.checkPlaced at h
  split at h <;> cases h
  exact ⟨_, rfl⟩

theorem invalidRequest_of_checkAxis {failure : Failure}
    (h : request.checkAxis = .error failure) : ∃ fault, failure = .invalidRequest fault := by
  unfold Request.checkAxis at h
  split at h
  · cases h
    exact ⟨_, rfl⟩
  · cases h
    exact ⟨_, rfl⟩
  · split at h <;> cases h
    exact ⟨_, rfl⟩

theorem invalidTopX_of_topXLimit {failure : Failure} (h : request.topXLimit = .error failure) :
    ∃ line, request.topXLine? = some line ∧ failure = .invalidTopX line.text := by
  unfold Request.topXLimit at h
  split at h
  · cases h
  · rename_i line hline
    refine ⟨line, hline, ?_⟩
    split at h
    · split at h <;> cases h
      rfl
    · cases h
      rfl

/-- The contract comes first, and the limit last. -/
theorem invalidRequest_or_of_validate {failure : Failure} (h : request.validate = .error failure) :
    (∃ fault, failure = .invalidRequest fault) ∨ request.topXLimit = .error failure := by
  have step {α : Type} {x : Outcome α} {f : α → Outcome Unit} := @error_of_bind α Unit x f
    fun failure => (∃ fault, failure = .invalidRequest fault) ∨ request.topXLimit = .error failure
  -- One step for each check, in the order in which they are made.
  unfold Request.validate at h
  refine step (fun _ h => Or.inl (invalidRequest_of_checkSole h)) (fun _ failure h => ?_) h
  refine step (fun _ h => Or.inl (invalidRequest_of_checkSole h)) (fun _ failure h => ?_) h
  refine step (fun _ h => Or.inl (invalidRequest_of_checkSole h)) (fun _ failure h => ?_) h
  refine step (fun _ h => Or.inl (invalidRequest_of_checkSole h)) (fun _ failure h => ?_) h
  refine step (fun _ h => Or.inl (invalidRequest_of_checkSole h)) (fun _ failure h => ?_) h
  refine step (fun _ h => Or.inl (invalidRequest_of_checkPlaced h)) (fun _ failure h => ?_) h
  refine step (fun _ h => Or.inl (invalidRequest_of_checkAxis h)) (fun _ failure h => ?_) h
  refine step (fun _ h => Or.inr h) (fun _ failure h => ?_) h
  cases h

theorem isContractual_of_validate (failure : Failure) (h : request.validate = .error failure) :
    failure.isContractual = true := by
  rcases invalidRequest_or_of_validate h with ⟨_, rfl⟩ | hlimit
  · rfl
  · obtain ⟨_, -, rfl⟩ := invalidTopX_of_topXLimit hlimit
    rfl

theorem usesAxis_classify : (Shape.classify request).usesAxis = request.axisSelect?.isSome := by
  unfold Shape.classify
  cases request.axisSelect? <;> cases request.pivotSelect? <;> rfl

theorem usesPivot_classify : (Shape.classify request).usesPivot = request.pivotSelect?.isSome := by
  unfold Shape.classify
  cases request.axisSelect? <;> cases request.pivotSelect? <;> rfl

/-- After validation the check of the shape comes down to the count and the row header: the other
parts are what gives a request its shape, or come with them. -/
theorem fault?_checkRequirements (h : request.Valid) :
    fault? ((Shape.classify request).checkRequirements request) =
      if Shape.classify request = .plain then none
      else if request.countSelect? = none then
        some (.missingPart (Shape.classify request) .countSelect)
      else if Shape.classify request = .pivot ∧
          request.countLines (·.is .select .ordinary) ≠ 1 then
        some (.invalidRequest (.rowHeaders (request.countLines (·.is .select .ordinary))))
      else none := by
  have haxis : (Shape.classify request).usesAxis = true →
      request.axis.isSome = true ∧ request.axisSelect?.isSome = true := by
    rw [usesAxis_classify, h.axis]
    exact fun hsome => ⟨hsome, hsome⟩
  have hpivot : (Shape.classify request).usesPivot = true → request.pivotSelect?.isSome = true := by
    rw [usesPivot_classify]
    exact id
  cases hshape : Shape.classify request with
  | plain => rfl
  | axis =>
      obtain ⟨hspec, hselect⟩ := haxis (by rw [hshape]; rfl)
      unfold Shape.checkRequirements
      rw [hspec, hselect]
      cases request.countSelect? <;> rfl
  | axisPivot =>
      obtain ⟨hspec, hselect⟩ := haxis (by rw [hshape]; rfl)
      unfold Shape.checkRequirements
      rw [hspec, hselect, hpivot (by rw [hshape]; rfl)]
      cases request.countSelect? <;> rfl
  | pivot =>
      unfold Shape.checkRequirements
      rw [hpivot (by rw [hshape]; rfl)]
      cases request.countSelect? with
      | none => rfl
      | some count =>
          by_cases hone : request.countLines (·.is .select .ordinary) = 1
          · simp [hone, Shape.usesAxis, Shape.usesPivot, Shape.demand, ok_bind]
          · simp [hone, Shape.usesAxis, Shape.usesPivot, Shape.demand, ok_bind]
            rfl

/-- The only part that a validated request can still lack is its count. -/
theorem missingPart_of_valid (h : request.Valid) {shape : Shape} {part : Part}
    (hfault : (Shape.classify request).checkRequirements request =
      .error (.missingPart shape part)) :
    shape = Shape.classify request ∧ part = .countSelect ∧ request.countSelect? = none := by
  rw [← fault?_eq_some, fault?_checkRequirements h] at hfault
  split at hfault
  · cases hfault
  · split at hfault
    · rename_i hcount
      cases hfault
      exact ⟨rfl, rfl, hcount⟩
    · split at hfault <;> cases hfault

/-- What a writer can still fail for when the checks have passed: its target, a select without a
name, or a count that is no single call. -/
def Failure.isOfWriter : Failure → Bool
  | .unsupportedShape _ _ | .ambiguousAlias _ | .invalidRequest (.notOneCall _) => true
  | _ => false

theorem isOfWriter_of_inShape (h : Checked request) {config : Config} {failure : Failure}
    (hfault : Build.inShape config db (Shape.classify request) request = .error failure) :
    failure.isOfWriter = true := by
  rw [← fault?_eq_some, fault?_inShape config h, Option.or_eq_some_iff, Option.or_eq_some_iff]
    at hfault
  rcases hfault with hrun | ⟨-, hname | ⟨-, hcall⟩⟩
  · unfold Shape.runFault? at hrun
    split at hrun <;> cases hrun
    rfl
  · unfold Shape.nameFault? at hname
    split at hname
    · obtain ⟨line, -, hline⟩ := List.exists_of_findSome?_eq_some hname
      unfold Line.unnamed? at hline
      split at hline <;> cases hline
      rfl
    · cases hname
  · unfold Shape.callFault? at hcall
    split at hcall
    · obtain ⟨line, -, hline⟩ := Option.bind_eq_some_iff.mp hcall
      unfold Line.uncallable? at hline
      split at hline <;> cases hline
      rfl
    · cases hcall

/-- **A request is built when every condition holds, and refused for the first that fails.** A part
that is reported as missing is the count; and once the checks have passed, no writer misses a part,
a row header or a readable limit. -/
theorem build_contract (config : Config) (db : Database) (request : Request) :
    ((∃ sql, build config db request = .ok sql) ↔ Acceptable db request) ∧
    (∀ failure, build config db request = .error failure ↔
      firstFault? db request = some failure) ∧
    (∀ shape part, build config db request = .error (.missingPart shape part) →
      part = .countSelect ∧ shape = Shape.classify request ∧ request.countSelect? = none) ∧
    (request.validate = .ok () →
      (Shape.classify request).checkRequirements request = .ok () →
      (∀ shape part, Build.inShape config db (Shape.classify request) request ≠
        .error (.missingPart shape part)) ∧
      (∀ text, Build.inShape config db (Shape.classify request) request ≠
        .error (.invalidTopX text)) ∧
      Build.inShape config db (Shape.classify request) request ≠
        .error (.invalidRequest .noRowHeader)) := by
  refine ⟨?_, ?_, ?_, ?_⟩
  · rw [← fault?_eq_none, fault?_build, firstFault?_eq_none]
  · intro failure
    rw [← fault?_eq_some, fault?_build]
  · intro shape part hfault
    rw [← fault?_eq_some, fault?_build, firstFault?, Option.or_eq_some_iff] at hfault
    -- Validation reports no missing part, the check of the shape only the count, a writer none.
    rcases hfault with hvalid | ⟨hvalid, hfault⟩
    · cases isContractual_of_validate _ (fault?_eq_some.mp hvalid)
    · have hvalid := validate_ok.mp (fault?_unit.mp hvalid)
      rw [Option.or_eq_some_iff] at hfault
      rcases hfault with hfault | ⟨hcomplete, hfault⟩
      · obtain ⟨hshape, hpart, hcount⟩ := missingPart_of_valid hvalid (fault?_eq_some.mp hfault)
        exact ⟨hpart, hshape, hcount⟩
      · have hchecked : Checked request :=
          ⟨hvalid, checkRequirements_ok.mp (fault?_unit.mp hcomplete)⟩
        rw [← fault?_inShape config hchecked] at hfault
        cases isOfWriter_of_inShape hchecked (fault?_eq_some.mp hfault)
  · intro hvalid hcomplete
    have hchecked : Checked request := ⟨validate_ok.mp hvalid, checkRequirements_ok.mp hcomplete⟩
    refine ⟨fun shape part h => ?_, fun text h => ?_, fun h => ?_⟩ <;>
      cases isOfWriter_of_inShape hchecked h

end

end Crosstab
