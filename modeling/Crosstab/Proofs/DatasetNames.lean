import Crosstab.Proofs.Outcomes
import Crosstab.Proofs.Aliases
import Crosstab.Proofs.Clauses

/-!
# The names of the dataset

The outer statement over a date axis reads columns of the dataset by quoted names, and the dataset
gives its columns those names. Both take them from `DatasetNames.resolve`, but the dataset writes
them back into lines of text, so they agree only if such a line is read as it was meant. That is
`splitAlias_aliased`; the names are then resolved from the binned request as from the request that
was given (`BinnedColumns.resolve`), and each is selected by the dataset (`BinnedColumns.selects`).
-/

namespace Crosstab

/-! ## An expression under a quoted name -/

theorem closed_expression {line : Line} (h : Closed line.text) : Closed line.expression := by
  rw [Closed, Line.expression, String.toList_ofList]
  exact isClosed_splitAlias h

/-- A line that names its column has an expression to name. -/
theorem solid_expression {line : Line} {name : String} (h : columnName line.text = .ok name) :
    Solid line.expression :=
  solid_of_trimmed (splitAlias_ne_nil (columnName_ok.mp h)) (trimmed_splitAlias _)

theorem Database.splitAlias_aliased (db : Database) {expression : String}
    (hclosed : Closed expression) (hsolid : Solid expression) (name : String) :
    splitAlias (db.aliased expression name).toList = (expression.toList, some name.toList) := by
  have hlist : (db.aliased expression name).toList = expression.toList ++ [] ++
      ' ' :: 'A' :: 'S' :: ([' '] ++ (db.quoteIdent name).toList) := by
    simp [aliased]
  rw [hlist]
  exact splitAlias_as hclosed hsolid.ne_nil hsolid.trimmed (by simp) rfl (Or.inr rfl)
    (Or.inr rfl) db name (by simp [isBlank]) (List.cons_ne_nil _ _)

/-- A column of the dataset: a closed expression under the quoted form of its name. -/
def Database.IsColumn (db : Database) (expression name item : String) : Prop :=
  item = db.aliased expression name ∧
    splitAlias item.toList = (expression.toList, some name.toList)

theorem Database.isColumn_aliased (db : Database) {expression : String}
    (hclosed : Closed expression) (hsolid : Solid expression) (name : String) :
    db.IsColumn expression name (db.aliased expression name) :=
  ⟨rfl, db.splitAlias_aliased hclosed hsolid name⟩

theorem Database.IsColumn.columnName {db : Database} {expression name item : String}
    (h : db.IsColumn expression name item) : columnName item = .ok name := by
  rw [columnName_ok, runtimeName, h.2]

/-! ## Lines of the dataset -/

theorem line_of_is {line : Line} {slot : Slot} {role : Role} (h : line.is slot role = true) :
    ∃ text, line = ⟨text, slot, role⟩ := by
  obtain ⟨text, slot', role'⟩ := line
  simp only [Line.is, Bool.and_eq_true, beq_iff_eq] at h
  obtain ⟨rfl, rfl⟩ := h
  exact ⟨text, rfl⟩

section
variable (db : Database) (increment : Increment) (names : DatasetNames)

/-- Binning changes no more of a line than its text. -/
theorem binLine_kind (line : Line) :
    (binLine db increment names line).slot = line.slot ∧
      (binLine db increment names line).role = line.role := by
  obtain ⟨text, slot, role⟩ := line
  obtain ⟨join, count, pivot⟩ := names
  cases slot <;> cases role <;> cases pivot <;> exact ⟨rfl, rfl⟩

theorem binLine_axisSelect {line : Line} (h : line.is .select .axis = true) :
    binLine db increment names line =
      line.withText (db.aliased (db.datePart increment line.expression) names.join) := by
  obtain ⟨text, rfl⟩ := line_of_is h
  rfl

theorem binLine_axisGroupBy {line : Line} (h : line.is .groupBy .axis = true) :
    binLine db increment names line =
      line.withText (db.datePart increment line.expression) := by
  obtain ⟨text, rfl⟩ := line_of_is h
  rfl

theorem binLine_countSelect {line : Line} (h : line.is .select .count = true) :
    binLine db increment names line = line.withText (db.aliased line.expression names.count) := by
  obtain ⟨text, rfl⟩ := line_of_is h
  rfl

theorem binLine_pivotSelect {line : Line} (h : line.is .select .pivot = true) :
    binLine db increment names line =
      match names.pivot with
      | some name => line.withText (db.aliased line.expression name)
      | none => line := by
  obtain ⟨text, rfl⟩ := line_of_is h
  rfl

/-- A line of no part in the axis or in the names is kept. -/
theorem binLine_other {line : Line} (haxis : line.is .select .axis = false)
    (hgroup : line.is .groupBy .axis = false) (hcount : line.is .select .count = false)
    (hpivot : line.is .select .pivot = false) : binLine db increment names line = line := by
  obtain ⟨text, slot, role⟩ := line
  cases slot <;> cases role <;> first | contradiction | rfl

theorem is_binLine (line : Line) (slot : Slot) (role : Role) :
    (binLine db increment names line).is slot role = line.is slot role := by
  obtain ⟨hslot, hrole⟩ := binLine_kind db increment names line
  rw [Line.is, hslot, hrole, Line.is]

theorem find?_binned (request : Request) (slot : Slot) (role : Role) :
    (request.binned db increment names).find? slot role =
      (request.find? slot role).map (binLine db increment names) := by
  rw [Request.find?, Request.binned, Request.mapLines, List.find?_map]
  congr 2
  funext line
  exact is_binLine db increment names line slot role

theorem find?_is {request : Request} {slot : Slot} {role : Role} {line : Line}
    (h : request.find? slot role = some line) : line.is slot role = true := by
  have hfound := List.find?_some h
  exact hfound

variable {request : Request} {line : Line}

theorem axisSelect?_binned (h : request.axisSelect? = some line) :
    (request.binned db increment names).axisSelect? =
      some (line.withText (db.aliased (db.datePart increment line.expression) names.join)) := by
  rw [← binLine_axisSelect db increment names (find?_is h), Request.axisSelect?, find?_binned]
  exact congrArg _ h

theorem countSelect?_binned (h : request.countSelect? = some line) :
    (request.binned db increment names).countSelect? =
      some (line.withText (db.aliased line.expression names.count)) := by
  rw [← binLine_countSelect db increment names (find?_is h), Request.countSelect?, find?_binned]
  exact congrArg _ h

variable {names} in
theorem pivotSelect?_binned {name : String} (h : request.pivotSelect? = some line)
    (hname : names.pivot = some name) :
    (request.binned db increment names).pivotSelect? =
      some (line.withText (db.aliased line.expression name)) := by
  have hbin :
      binLine db increment names line = line.withText (db.aliased line.expression name) := by
    rw [binLine_pivotSelect db increment names (find?_is h), hname]
  rw [← hbin, Request.pivotSelect?, find?_binned]
  exact congrArg _ h

/-- A select of the binned request is selected by the dataset. -/
theorem text_mem_datasetQuery {slot : Slot} {role : Role}
    (h : (request.binned db increment names).find? slot role = some line)
    (hslot : slot = .select) (hrole : role ≠ .topX) :
    line.text ∈ (AxisPlan.datasetQuery db request increment names).select := by
  subst hslot
  obtain ⟨text, rfl⟩ := line_of_is (find?_is h)
  have hmem := List.mem_of_find?_eq_some h
  refine List.mem_map_of_mem ?_
  simp [Request.linesBetween, hmem, hrole, Slot.rank]

end

/-! ## The named columns -/

/-- The three named selects of a binned request, each read as the expression and the name that it
was pasted from. -/
structure BinnedColumns (db : Database) (request : Request) (increment : Increment)
    (names : DatasetNames) : Prop where
  axis : ∃ line binned, request.axisSelect? = some line ∧
    (request.binned db increment names).axisSelect? = some binned ∧
    db.IsColumn (db.datePart increment line.expression) names.join binned.text
  count : ∃ line binned, request.countSelect? = some line ∧
    (request.binned db increment names).countSelect? = some binned ∧
    db.IsColumn line.expression names.count binned.text
  pivot : (request.pivotSelect? = none ∧ names.pivot = none) ∨
    ∃ line binned name, request.pivotSelect? = some line ∧ names.pivot = some name ∧
      (request.binned db increment names).pivotSelect? = some binned ∧
      db.IsColumn line.expression name binned.text

/-- The dataset selects an expression under this name, quoted so that it is read back. -/
def AxisPlan.DatasetSelects (db : Database) (request : Request) (increment : Increment)
    (names : DatasetNames) (name : String) : Prop :=
  ∃ expression,
    db.aliased expression name ∈ (AxisPlan.datasetQuery db request increment names).select ∧
    columnName (db.aliased expression name) = .ok name

namespace BinnedColumns

variable {db : Database} {request : Request} {increment : Increment} {names : DatasetNames}
variable (h : BinnedColumns db request increment names)
include h

theorem resolve (shape : Shape) :
    DatasetNames.resolve (request.binned db increment names) shape = .ok names := by
  obtain ⟨_, axis, -, haxis, haxisColumn⟩ := h.axis
  obtain ⟨_, count, -, hcount, hcountColumn⟩ := h.count
  refine DatasetNames.resolve_ok.mpr ⟨⟨axis, haxis, haxisColumn.columnName⟩,
    ⟨count, hcount, hcountColumn.columnName⟩, ?_⟩
  rcases h.pivot with ⟨hnone, hname⟩ | ⟨_, pivot, name, -, hname, hpivot, hcolumn⟩
  · left
    rw [Request.pivotSelect?, find?_binned]
    exact ⟨congrArg _ hnone, hname⟩
  · exact Or.inr ⟨pivot, name, hpivot, hcolumn.columnName, hname⟩

/-- Each of the resolved names is one of the dataset's columns. -/
theorem selects {name : String}
    (hname : name = names.join ∨ name = names.count ∨ names.pivot = some name) :
    AxisPlan.DatasetSelects db request increment names name := by
  have hmem {e item : String} (hcolumn : db.IsColumn e name item)
      (hitem : item ∈ (AxisPlan.datasetQuery db request increment names).select) :
      AxisPlan.DatasetSelects db request increment names name := by
    obtain rfl := hcolumn.1
    exact ⟨e, hitem, hcolumn.columnName⟩
  rcases hname with rfl | rfl | hname
  · obtain ⟨_, axis, -, haxis, hcolumn⟩ := h.axis
    exact hmem hcolumn (text_mem_datasetQuery _ _ _ haxis rfl (by decide))
  · obtain ⟨_, count, -, hcount, hcolumn⟩ := h.count
    exact hmem hcolumn (text_mem_datasetQuery _ _ _ hcount rfl (by decide))
  · rcases h.pivot with ⟨-, hnone⟩ | ⟨_, pivot, name', -, hname', hpivot, hcolumn⟩
    · rw [hname] at hnone
      cases hnone
    · rw [hname] at hname'
      cases hname'
      exact hmem hcolumn (text_mem_datasetQuery _ _ _ hpivot rfl (by decide))

end BinnedColumns

section
variable {db : Database} {request : Request} {shape : Shape} {increment : Increment}
variable {names : DatasetNames}
variable (haxis : ∀ line, request.axisSelect? = some line → Closed line.text)
variable (hcount : ∀ line, request.countSelect? = some line → Closed line.text)
variable (hpivot : ∀ line, request.pivotSelect? = some line → Closed line.text)
variable (hnames : DatasetNames.resolve request shape = .ok names)
include haxis hcount hpivot hnames

theorem binnedColumns_of_closed : BinnedColumns db request increment names := by
  obtain ⟨⟨axis, haxisLine, -⟩, ⟨count, hcountLine, hcountName⟩, hpivotName⟩ :=
    DatasetNames.resolve_ok.mp hnames
  refine ⟨⟨axis, _, haxisLine, axisSelect?_binned db increment names haxisLine, ?_⟩,
    ⟨count, _, hcountLine, countSelect?_binned db increment names hcountLine, ?_⟩, ?_⟩
  · have hclosed := closed_expression (haxis axis haxisLine)
    exact db.isColumn_aliased (db.closed_datePart increment hclosed)
      (db.solid_datePart increment _) _
  · exact db.isColumn_aliased (closed_expression (hcount count hcountLine))
      (solid_expression hcountName) _
  · refine hpivotName.imp_right ?_
    rintro ⟨pivot, name, hline, hname, hpivotName⟩
    refine ⟨pivot, _, name, hline, hpivotName,
      pivotSelect?_binned db increment hline hpivotName, ?_⟩
    exact db.isColumn_aliased (closed_expression (hpivot pivot hline)) (solid_expression hname) _

end

end Crosstab
