import Crosstab.Build

/-!
# What a success says

A synthesis that succeeds has passed every check on its way. For each function that can fail, this
file says what its result is then made of, so that nothing later has to follow the checks again.
-/

namespace Crosstab

theorem bind_eq_ok {α β : Type} {x : Outcome α} {f : α → Outcome β} {b : β} :
    (x >>= f) = .ok b ↔ ∃ a, x = .ok a ∧ f a = .ok b := by
  cases x <;> simp [bind, Except.bind]

theorem Shape.require_ok {α : Type} {shape : Shape} {part : Part} {o : Option α} {a : α} :
    shape.require part o = .ok a ↔ o = some a := by
  cases o <;> simp [Shape.require]

theorem columnName_ok {fragment name : String} :
    columnName fragment = .ok name ↔ runtimeName fragment.toList = some name.toList := by
  unfold columnName
  cases runtimeName fragment.toList with
  | none => simp
  | some cs =>
      rw [Except.ok.injEq, Option.some.injEq]
      constructor
      · rintro rfl
        exact String.toList_ofList.symm
      · rintro rfl
        exact String.ofList_toList

/-! ## Checks -/

/-- A check that comes first has to succeed. -/
theorem check_eq_ok {β : Type} {x : Outcome Unit} {f : Unit → Outcome β} {b : β} :
    (x >>= f) = .ok b ↔ x = .ok () ∧ f () = .ok b := by
  cases x <;> simp [bind, Except.bind]

theorem checkSole_ok {request : Request} {what : SoleLine} {p : Line → Bool} :
    request.checkSole what p = .ok () ↔ request.countLines p ≤ 1 := by
  unfold Request.checkSole
  dsimp only
  split
  · rename_i h
    simp [Nat.not_le.mpr h]
  · rename_i h
    simp [Nat.not_lt.mp h]

theorem checkPlaced_ok {request : Request} :
    request.checkPlaced = .ok () ↔ ∀ line ∈ request.lines, Request.isPlaced line = true := by
  unfold Request.checkPlaced
  split
  · rename_i line h
    have hplaced := List.find?_some h
    simp only [reduceCtorEq, false_iff]
    intro hall
    simp [hall line (List.mem_of_find?_eq_some h)] at hplaced
  · rename_i h
    simpa using h

theorem checkAxis_ok {request : Request} :
    request.checkAxis = .ok () ↔ request.axis.isSome = request.axisSelect?.isSome ∧
      (request.axisSelect?.isSome = true → request.axisGroupBy?.isSome = true) := by
  unfold Request.checkAxis
  cases request.axis <;> cases request.axisSelect? <;> cases request.axisGroupBy? <;> simp

/-- What validation makes sure of. -/
structure Request.Valid (request : Request) : Prop where
  axisSelect : request.countLines (·.is .select .axis) ≤ 1
  axisGroupBy : request.countLines (·.is .groupBy .axis) ≤ 1
  pivotSelect : request.countLines (·.is .select .pivot) ≤ 1
  countSelect : request.countLines (·.is .select .count) ≤ 1
  topX : request.countLines Request.isTopXLimit ≤ 1
  placed : ∀ line ∈ request.lines, Request.isPlaced line = true
  axis : request.axis.isSome = request.axisSelect?.isSome
  grouped : request.axisSelect?.isSome = true → request.axisGroupBy?.isSome = true
  limit : ∃ limit, request.topXLimit = .ok limit

theorem validate_ok {request : Request} : request.validate = .ok () ↔ request.Valid := by
  simp only [Request.validate, check_eq_ok]
  simp only [checkSole_ok, checkPlaced_ok, checkAxis_ok, bind_eq_ok]
  constructor
  · rintro ⟨h1, h2, h3, h4, h5, h6, ⟨h7, h8⟩, limit, h9, -⟩
    exact ⟨h1, h2, h3, h4, h5, h6, h7, h8, limit, h9⟩
  · rintro ⟨h1, h2, h3, h4, h5, h6, h7, h8, limit, h9⟩
    exact ⟨h1, h2, h3, h4, h5, h6, ⟨h7, h8⟩, limit, h9, trivial⟩

/-- What the check of a shape makes sure of. -/
structure Shape.Complete (shape : Shape) (request : Request) : Prop where
  axis : shape.usesAxis = true →
    request.axis.isSome = true ∧ request.axisSelect?.isSome = true
  pivot : shape.usesPivot = true → request.pivotSelect?.isSome = true
  count : shape ≠ .plain → request.countSelect?.isSome = true
  header : shape = .pivot → request.countLines (·.is .select .ordinary) = 1

theorem demand_ok {shape : Shape} {part : Part} {present : Bool} :
    shape.demand part present = .ok () ↔ present = true := by
  cases present <;> simp [Shape.demand]

theorem checkRequirements_ok {shape : Shape} {request : Request} :
    shape.checkRequirements request = .ok () ↔ shape.Complete request := by
  have hparts : shape.checkRequirements request = .ok () ↔
      (shape.usesAxis = true → request.axis.isSome = true ∧ request.axisSelect?.isSome = true) ∧
      (shape.usesPivot = true → request.pivotSelect?.isSome = true) ∧
      (shape ≠ .plain → request.countSelect?.isSome = true) ∧
      (shape = .pivot → request.countLines (·.is .select .ordinary) = 1) := by
    unfold Shape.checkRequirements
    cases shape with
    | plain =>
        simp [Shape.usesAxis, Shape.usesPivot]
        rfl
    | axis => simp [Shape.usesAxis, Shape.usesPivot, check_eq_ok, demand_ok, and_assoc]
    | axisPivot => simp [Shape.usesAxis, Shape.usesPivot, check_eq_ok, demand_ok, and_assoc]
    | pivot =>
        by_cases hone : request.countLines (·.is .select .ordinary) = 1 <;>
          simp [Shape.usesAxis, Shape.usesPivot, check_eq_ok, demand_ok, hone]
  rw [hparts]
  exact ⟨fun ⟨haxis, hpivot, hcount, hheader⟩ => ⟨haxis, hpivot, hcount, hheader⟩,
    fun h => ⟨h.axis, h.pivot, h.count, h.header⟩⟩

/-! ## The axis -/

/-- The names of a dataset are those of the lines that it is made of. -/
theorem DatasetNames.resolve_ok {request : Request} {shape : Shape} {names : DatasetNames} :
    DatasetNames.resolve request shape = .ok names ↔
      (∃ line, request.axisSelect? = some line ∧ columnName line.text = .ok names.join) ∧
      (∃ line, request.countSelect? = some line ∧ columnName line.text = .ok names.count) ∧
      ((request.pivotSelect? = none ∧ names.pivot = none) ∨
        ∃ line name, request.pivotSelect? = some line ∧ columnName line.text = .ok name ∧
          names.pivot = some name) := by
  unfold DatasetNames.resolve
  simp only [bind_eq_ok, Shape.require_ok]
  constructor
  · rintro ⟨axis, haxis, count, hcount, join, hjoin, name, hname, h⟩
    cases hpivot : request.pivotSelect? with
    | none =>
        rw [hpivot] at h
        cases h
        exact ⟨⟨axis, haxis, hjoin⟩, ⟨count, hcount, hname⟩, Or.inl ⟨rfl, rfl⟩⟩
    | some line =>
        simp only [hpivot, bind_eq_ok] at h
        obtain ⟨pivot, hpivotName, h⟩ := h
        cases h
        exact ⟨⟨axis, haxis, hjoin⟩, ⟨count, hcount, hname⟩,
          Or.inr ⟨line, pivot, rfl, hpivotName, rfl⟩⟩
  · obtain ⟨join, count, pivot⟩ := names
    rintro ⟨⟨axis, haxis, hjoin⟩, ⟨line, hcount, hname⟩, hpivot⟩
    refine ⟨axis, haxis, line, hcount, join, hjoin, count, hname, ?_⟩
    rcases hpivot with ⟨hnone, rfl⟩ | ⟨line, name, hsome, hpivotName, rfl⟩
    · rw [hnone]
    · simp only [hsome, bind_eq_ok]
      exact ⟨name, hpivotName, rfl⟩

theorem AxisPlan.ofRequest_ok {db : Database} {request : Request} {shape : Shape}
    {plan : AxisPlan} (h : AxisPlan.ofRequest db request shape = .ok plan) :
    ∃ axis axisSelect names, request.axis = some axis ∧ request.axisSelect? = some axisSelect ∧
      DatasetNames.resolve request shape = .ok names ∧
      plan = {
        axisExpr := axisSelect.expression
        names := names
        bucket := db.datePart axis.increment "axis.dt"
        dataset := (AxisPlan.datasetQuery db request axis.increment names).render db
        preSelect := request.textsIn .preSelect
        trailing := (request.uncappedIn .trailing).map (·.text) } := by
  simp only [AxisPlan.ofRequest, bind_eq_ok, Shape.require_ok] at h
  obtain ⟨axis, haxis, axisSelect, hselect, names, hnames, h⟩ := h
  cases h
  exact ⟨axis, axisSelect, names, haxis, hselect, hnames, rfl⟩

/-! ## The pivot -/

theorem census_ok {db : Database} {request : Request} {shape : Shape} {pivotExpr : String}
    {axisExpr : Option String} {cte : Cte}
    (h : census db request shape pivotExpr axisExpr = .ok cte) :
    ∃ count limit, request.countSelect? = some count ∧ request.topXLimit = .ok limit ∧
      cte = {
        name := censusName
        columns := []
        body := (censusQuery db request count limit pivotExpr axisExpr).render db
        recursive := false } := by
  simp only [census, bind_eq_ok, Shape.require_ok] at h
  obtain ⟨count, hcount, limit, hlimit, h⟩ := h
  cases h
  exact ⟨count, limit, hcount, hlimit, rfl⟩

namespace PivotPlan

theorem ofRows_ok {db : Database} {request : Request} {plan : PivotPlan}
    (h : PivotPlan.ofRows db request = .ok plan) :
    ∃ pivotSelect count header values template,
      request.pivotSelect? = some pivotSelect ∧ request.countSelect? = some count ∧
      request.find? .select .ordinary = some header ∧
      Crosstab.census db request .pivot pivotSelect.expression none = .ok values ∧
      ColumnTemplate.forRows db pivotSelect.expression count = .ok template ∧
      plan = {
        preSelect := request.textsIn .preSelect
        census := values
        column := template
        head := (rowQuery request header pivotSelect.expression).head db
        tail := (rowQuery request header pivotSelect.expression).tail db } := by
  simp only [PivotPlan.ofRows, bind_eq_ok, Shape.require_ok] at h
  obtain ⟨pivotSelect, hpivot, count, hcount, h⟩ := h
  cases hheader : request.find? .select .ordinary with
  | none =>
      rw [hheader] at h
      cases h
  | some header =>
      simp only [hheader, bind_eq_ok] at h
      obtain ⟨values, hvalues, template, htemplate, h⟩ := h
      cases h
      exact ⟨pivotSelect, count, header, values, template, hpivot, hcount, rfl, hvalues,
        htemplate, rfl⟩

theorem ofAxis_ok {db : Database} {calendar : Calendar} {axisAlias : String} {request : Request}
    {plan : PivotPlan} (h : PivotPlan.ofAxis db calendar axisAlias request = .ok plan) :
    ∃ pivotSelect axisPlan pivotName values,
      request.pivotSelect? = some pivotSelect ∧
      AxisPlan.ofRequest db request .axisPivot = .ok axisPlan ∧
      axisPlan.names.pivot = some pivotName ∧
      Crosstab.census db request .axisPivot pivotSelect.expression (some axisPlan.axisExpr) =
        .ok values ∧
      plan = {
        preSelect := calendar.settings ++ axisPlan.preSelect
        census := values
        column := ColumnTemplate.forDataset db pivotName axisPlan.names.count
        head := (axisQuery db calendar axisAlias axisPlan).head db
        tail := (axisQuery db calendar axisAlias axisPlan).tail db } := by
  simp only [PivotPlan.ofAxis, bind_eq_ok, Shape.require_ok] at h
  obtain ⟨pivotSelect, hpivot, axisPlan, haxis, pivotName, hname, values, hvalues, h⟩ := h
  cases h
  exact ⟨pivotSelect, axisPlan, pivotName, values, hpivot, haxis, hname, hvalues, rfl⟩

end PivotPlan

/-! ## Building -/

namespace Build

theorem plain_ok {db : Database} {request : Request} {sql : String}
    (h : plain db request = .ok sql) :
    ∃ limit, request.topXLimit = .ok limit ∧
      sql = { Query.ofLines request.lines with limit := limit }.render db := by
  simp only [plain, bind_eq_ok] at h
  obtain ⟨limit, hlimit, h⟩ := h
  cases h
  exact ⟨limit, hlimit, rfl⟩

theorem axis_ok {config : Config} {db : Database} {request : Request} {sql : String}
    (h : axis config db request = .ok sql) :
    ∃ spec plan, request.axis = some spec ∧ AxisPlan.ofRequest db request .axis = .ok plan ∧
      sql = (plan.statement db (Calendar.ofAxis config db spec) config.axisAlias
        [plan.countColumn db] false).render db := by
  simp only [axis, bind_eq_ok, Shape.require_ok] at h
  obtain ⟨spec, hspec, plan, hplan, h⟩ := h
  cases h
  exact ⟨spec, plan, hspec, hplan, rfl⟩

theorem scriptWriter_ok {config : Config} {db : Database} {shape : Shape}
    {write : PivotPlan → Bool → Script} :
    scriptWriter config db shape = .ok write ↔ Script.writer? config db = some write := by
  unfold scriptWriter
  cases Script.writer? config db <;> simp

theorem pivot_ok {config : Config} {db : Database} {request : Request} {sql : String}
    (h : pivot config db request = .ok sql) :
    ∃ write plan, Script.writer? config db = some write ∧ PivotPlan.ofRows db request = .ok plan ∧
      sql = (write plan false).render db := by
  simp only [pivot, bind_eq_ok, scriptWriter_ok] at h
  obtain ⟨write, hwrite, plan, hplan, h⟩ := h
  cases h
  exact ⟨write, plan, hwrite, hplan, rfl⟩

theorem axisPivot_ok {config : Config} {db : Database} {request : Request} {sql : String}
    (h : axisPivot config db request = .ok sql) :
    ∃ write spec plan, Script.writer? config db = some write ∧ request.axis = some spec ∧
      PivotPlan.ofAxis db (Calendar.ofAxis config db spec) config.axisAlias request = .ok plan ∧
      sql = (write plan true).render db := by
  simp only [axisPivot, bind_eq_ok, scriptWriter_ok, Shape.require_ok] at h
  obtain ⟨write, hwrite, spec, hspec, plan, hplan, h⟩ := h
  cases h
  exact ⟨write, spec, plan, hwrite, hspec, hplan, rfl⟩

end Build

/-- A request that is built has been written out in the shape it has. -/
theorem build_ok {config : Config} {db : Database} {request : Request} {sql : String}
    (h : build config db request = .ok sql) :
    Build.inShape config db (Shape.classify request) request = .ok sql := by
  simp only [build, bind_eq_ok] at h
  obtain ⟨-, -, -, -, h⟩ := h
  exact h

end Crosstab
