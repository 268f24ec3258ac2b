import Crosstab.Proofs.Calls
import Crosstab.Proofs.ClosedAxis
import Crosstab.Proofs.Splicing

/-!
# A closed pivot

A script holds its final statement in literals, which are closed whatever they hold, so for a pivot
only the census and what runs before it matter (`Script.closed_of_writer`). The statement that the
script runs is closed as well (`Planned.closed`): there the column template is read outside of
literals, around a value that is quoted twice.
-/

namespace Crosstab

/-! ## The census -/

theorem closed_rankOrder {request : Request} (h : request.ClosedParts) {count : Line}
    (hcount : Closed count.text) {pivotExpr : String} (hpivot : Closed pivotExpr) :
    Closed (rankOrder request count pivotExpr) := by
  have hexpression := closed_expression hcount
  refine closed_intercalate (.own rfl) ?_
  split
  · exact .cons (closed_of_reads (.trans (.given hexpression) (.own rfl)))
      (.cons (closed_of_reads (.trans (.given hpivot) (.own rfl))) .nil)
  · exact h.keptIn .orderBy _

theorem closed_censusQuery (db : Database) {request : Request} (h : request.ClosedParts)
    {count : Line} (hcount : Closed count.text) (limit : Option Nat) {pivotExpr : String}
    (hpivot : Closed pivotExpr) {axisExpr : Option String}
    (haxis : ∀ expression, axisExpr = some expression → Closed expression) :
    (censusQuery db request count limit pivotExpr axisExpr).ClosedParts := by
  have horder := closed_rankOrder h hcount hpivot
  have hnotNull {expression : String} (he : Closed expression) :
      Closed (expression ++ " IS NOT NULL") :=
    closed_of_reads (.trans (.given he) (.own rfl))
  exact {
    preSelect := .nil
    ctes := fun _ hcte => nomatch hcte
    select := .cons (closed_of_reads (.trans (.given (db.closed_castToText hpivot)) (.own rfl)))
      (.cons (closed_of_reads (.paste (.own rfl) horder (.own rfl))) .nil)
    tables := h.textsIn .table
    filters := by
      refine .append (h.keptIn .filter _) (.cons (hnotNull hpivot) ?_)
      cases axisExpr with
      | none => exact .nil
      | some expression => exact .cons (hnotNull (haxis expression rfl)) .nil
    groupBy := .cons hpivot .nil
    having := .nil
    orderBy := by
      cases limit with
      | none => exact .nil
      | some n => exact .cons horder .nil
    trailing := .nil }

theorem closed_censusName : Closed censusName := rfl

theorem closed_census {db : Database} {request : Request} (h : request.ClosedParts) {shape : Shape}
    {pivotExpr : String} (hpivot : Closed pivotExpr) {axisExpr : Option String}
    (haxis : ∀ expression, axisExpr = some expression → Closed expression) {cte : Cte}
    (hcte : census db request shape pivotExpr axisExpr = .ok cte) : cte.ClosedParts := by
  obtain ⟨count, limit, hcount, -, rfl⟩ := census_ok hcte
  have hparts := closed_censusQuery db h (h.find? hcount) limit hpivot haxis
  exact ⟨closed_censusName, .nil, hparts.render db⟩

/-- The parenthesis of the window by which the census ranks its values. -/
theorem select_censusQuery (db : Database) (request : Request) (count : Line) (limit : Option Nat)
    (pivotExpr : String) (axisExpr : Option String) :
    ", ".intercalate (censusQuery db request count limit pivotExpr axisExpr).select =
      db.castToText pivotExpr ++ " AS piv, ROW_NUMBER() OVER " ++ "(" ++
        ("ORDER BY " ++ rankOrder request count pivotExpr) ++ ")" ++ " AS rn" := by
  have hopen : "ROW_NUMBER() OVER (ORDER BY " = "ROW_NUMBER() OVER " ++ "(" ++ "ORDER BY " := by
    decide +kernel
  have hcomma : " AS piv, ROW_NUMBER() OVER " = " AS piv" ++ ", " ++ "ROW_NUMBER() OVER " := by
    decide +kernel
  have hclose : ") AS rn" = ")" ++ " AS rn" := by decide +kernel
  have hlist : (censusQuery db request count limit pivotExpr axisExpr).select =
      [db.castToText pivotExpr ++ " AS piv",
        "ROW_NUMBER() OVER (ORDER BY " ++ rankOrder request count pivotExpr ++ ") AS rn"] := rfl
  rw [hlist, String.intercalate_cons_cons, String.intercalate_singleton, hopen, hcomma, hclose]
  simp only [String.append_assoc]

theorem render_censusQuery (db : Database) (request : Request) (count : Line) (limit : Option Nat)
    (pivotExpr : String) (axisExpr : Option String) :
    (censusQuery db request count limit pivotExpr axisExpr).render db =
      (censusQuery db request count limit pivotExpr axisExpr).selectKeyword db ++
        db.castToText pivotExpr ++ " AS piv, ROW_NUMBER() OVER " ++ "(" ++
        ("ORDER BY " ++ rankOrder request count pivotExpr) ++ ")" ++
        (" AS rn" ++ (censusQuery db request count limit pivotExpr axisExpr).tail db) := by
  rw [Query.render_eq db rfl rfl, select_censusQuery]
  simp only [String.append_assoc]

/-! ## Plans -/

/-- What a script writes outside of literals is closed. -/
structure PivotPlan.ClosedParts (plan : PivotPlan) : Prop where
  preSelect : AllClosed plan.preSelect
  census : plan.census.ClosedParts

theorem closed_ofRows {db : Database} {request : Request} (h : request.ClosedParts)
    {plan : PivotPlan} (hplan : PivotPlan.ofRows db request = .ok plan) : plan.ClosedParts := by
  obtain ⟨pivotSelect, count, header, values, template, hpivot, -, -, hvalues, -, rfl⟩ :=
    PivotPlan.ofRows_ok hplan
  have hexpression := closed_expression (h.find? hpivot)
  exact ⟨h.textsIn .preSelect, closed_census h hexpression (by simp) hvalues⟩

theorem closed_ofAxis {db : Database} {calendar : Calendar} {axisAlias : String}
    {request : Request} (h : request.ClosedParts) (hcalendar : calendar.ClosedParts)
    {plan : PivotPlan} (hplan : PivotPlan.ofAxis db calendar axisAlias request = .ok plan) :
    plan.ClosedParts := by
  obtain ⟨pivotSelect, axisPlan, pivotName, values, hpivot, haxis, -, hvalues, rfl⟩ :=
    PivotPlan.ofAxis_ok hplan
  have hexpression := closed_expression (h.find? hpivot)
  have hparts := AxisPlan.closed_ofRequest h haxis
  refine ⟨.append hcalendar.settings hparts.preSelect, closed_census h hexpression ?_ hvalues⟩
  rintro expression heq
  cases heq
  exact hparts.axisExpr

/-! ## Scripts -/

namespace Script

section
variable {db : Database} {σ τ υ : Stand}

theorem reads_nil : Reads σ (renderLine db []) σ := .own rfl

theorem reads_code {text : String} {rest : List Piece} (h : Reads σ text τ)
    (hrest : Reads τ (renderLine db rest) υ) : Reads σ (renderLine db (.code text :: rest)) υ :=
  .trans h hrest

/-- A carried text is closed whatever it is. -/
theorem reads_carried {d : Nat} {text : String} {rest : List Piece}
    (hrest : Reads ⟨d, false⟩ (renderLine db rest) υ) :
    Reads ⟨d, true⟩ (renderLine db (.carried text :: rest)) υ :=
  .trans (.given (db.closed_quoteLiteral text)) hrest

theorem reads_append {as bs : List Piece} (ha : Reads σ (renderLine db as) τ)
    (hb : Reads τ (renderLine db bs) υ) : Reads σ (renderLine db (as ++ bs)) υ := by
  rw [renderLine_append]
  exact ha.trans hb

end

theorem closed_render {script : Script} {db : Database}
    (h : ∀ line ∈ script.lines, Closed (renderLine db line)) : Closed (script.render db) :=
  closed_intercalate (.own rfl) (.map h)

theorem closed_code {db : Database} {text : String} (h : Closed text) :
    Closed (renderLine db [.code text]) :=
  closed_of_reads (reads_code (.given h) reads_nil)

/-- Code around two carried texts. -/
theorem closed_carried {db : Database} {d e : Nat} {settled : Bool}
    {before between after s t : String} (hbefore : Reads ⟨0, true⟩ before ⟨d, true⟩)
    (hbetween : Reads ⟨d, false⟩ between ⟨e, true⟩)
    (hafter : Reads ⟨e, false⟩ after ⟨0, settled⟩) :
    Closed (renderLine db [.code before, .carried s, .code between, .carried t, .code after]) :=
  closed_of_reads (reads_code hbefore (reads_carried (reads_code hbetween (reads_carried
    (reads_code hafter reads_nil)))))

theorem closed_codeLines {db : Database} {texts : List String} (h : AllClosed texts) :
    ∀ line ∈ codeLines texts, Closed (renderLine db line) := by
  intro line hline
  obtain ⟨text, htext, rfl⟩ := List.mem_map.mp hline
  exact closed_code (h text htext)

section
variable {plan : PivotPlan} (h : plan.ClosedParts)
include h

theorem closed_overCensus {db : Database} {selectList : List Piece}
    (hlist : Closed (renderLine db selectList)) :
    Closed (renderLine db (overCensus db plan selectList)) := by
  have hwith : Closed (renderWith db [plan.census]) :=
    closed_renderWith (List.forall_mem_singleton.mpr h.census)
  have hopening : Reads ⟨0, true⟩ (plan.censusOpening db) ⟨0, true⟩ :=
    .trans (.given hwith) (.own rfl)
  exact closed_of_reads (reads_append (reads_code hopening (.given hlist))
    (reads_code (.own rfl) reads_nil))

/-- The statement over the census that a script ends by a semicolon. -/
theorem closed_collect {db : Database} {selectList : List Piece}
    (hlist : Closed (renderLine db selectList)) :
    Closed (renderLine db (overCensus db plan selectList ++ [.code ";"])) :=
  closed_of_reads (reads_append (.given (closed_overCensus h hlist))
    (reads_code (.own rfl) reads_nil))

theorem closed_sqlServer (overAxis : Bool) :
    ∀ line ∈ (sqlServer plan overAxis).lines, Closed (renderLine .sqlServer line) := by
  simp only [sqlServer, List.forall_mem_append, List.forall_mem_cons]
  refine ⟨closed_codeLines h.preSelect, closed_code rfl, ?_, ?_, ?_, by simp⟩
  · exact closed_collect h (closed_carried (.own rfl) (.own rfl) (.own rfl))
  · exact closed_carried (.own rfl) (.own rfl) (.own rfl)
  · cases overAxis <;> exact closed_code (by decide +kernel)

theorem closed_mySql (config : Config) (overAxis : Bool) :
    ∀ line ∈ (mySql config plan overAxis).lines, Closed (renderLine .mySql line) := by
  simp only [mySql, List.forall_mem_append, List.forall_mem_cons]
  have hvar : Closed (if overAxis then "@columnsSelectFromDataset" else "@columnsSelectCases") := by
    cases overAxis <;> rfl
  generalize (if overAxis then "@columnsSelectFromDataset" else "@columnsSelectCases") = var at hvar
  refine ⟨⟨closed_code ?_, closed_codeLines h.preSelect⟩, closed_code ?_, ?_, ?_, closed_code rfl,
    closed_code rfl, closed_code rfl, by simp⟩
  · exact closed_of_reads (.paste (.own rfl) (closed_toString _) (.own rfl))
  · exact closed_of_reads (.paste (.own rfl) hvar (.own rfl))
  · exact closed_collect h (closed_carried (.own rfl) (.own rfl) (.trans (.own rfl) (.given hvar)))
  · exact closed_carried (.own rfl) (.paste (.own rfl) hvar (.own rfl)) (.own rfl)

theorem closed_postgres (config : Config) :
    ∀ line ∈ (postgres config plan).lines, Closed (renderLine .postgres line) := by
  simp only [postgres, List.forall_mem_append, List.forall_mem_cons]
  have hview := Database.postgres.closed_quoteIdent config.pivotView
  refine ⟨closed_codeLines h.preSelect, closed_code rfl, closed_code rfl, closed_code rfl,
    closed_code rfl, ?_, ?_, ?_, closed_code rfl, closed_code rfl, closed_code ?_, by simp⟩
  · exact closed_collect h (closed_carried (.own rfl) (.own rfl) (.own rfl))
  · exact closed_of_reads (reads_code (.own rfl) (reads_carried (reads_code (.own rfl) reads_nil)))
  · exact closed_carried (.own rfl) (.own rfl) (.own rfl)
  · exact closed_of_reads (.paste (.own rfl) hview (.own rfl))

theorem closed_oracle : ∀ line ∈ (oracle plan).lines, Closed (renderLine .oracle line) := by
  simp only [oracle, List.forall_mem_append, List.forall_mem_cons]
  refine ⟨closed_codeLines h.preSelect, closed_code rfl, closed_code rfl, closed_code rfl,
    closed_code rfl, ?_, closed_code rfl, closed_code rfl, ?_, closed_code rfl, closed_code rfl,
    by simp⟩
  · refine closed_of_reads (reads_append (reads_code (.own rfl) (.given (closed_overCensus h ?_)))
      (reads_code (.own rfl) reads_nil))
    exact closed_carried (.own rfl) (.own rfl) (.own rfl)
  · exact closed_carried (.own rfl) (.own rfl) (.own rfl)

/-- Whatever the target, the script of a closed plan is closed. -/
theorem closed_of_writer {config : Config} {db : Database} {write : PivotPlan → Bool → Script}
    (hwrite : writer? config db = some write) (overAxis : Bool) :
    Closed ((write plan overAxis).render db) := by
  refine closed_render ?_
  cases db with
  | sqlServer =>
      cases hwrite
      exact closed_sqlServer h overAxis
  | mySql =>
      cases hwrite
      exact closed_mySql h config overAxis
  | postgres =>
      cases hwrite
      exact closed_postgres h config
  | oracle =>
      cases hwrite
      exact closed_oracle h
  | sqlite => cases hwrite

end

theorem mem_pieces {script : Script} {line : List Piece} {piece : Piece}
    (hline : line ∈ script.lines) (hpiece : piece ∈ line) : piece ∈ script.pieces := by
  obtain ⟨lines⟩ := script
  simp only [pieces] at hline ⊢
  induction lines with
  | nil => cases hline
  | cons first lines ih =>
      cases lines with
      | nil =>
          obtain rfl := List.mem_singleton.mp hline
          rwa [List.intercalate_singleton]
      | cons next lines =>
          rw [List.intercalate_cons_cons, List.mem_append, List.mem_append]
          rcases List.mem_cons.mp hline with rfl | hrest
          · exact Or.inl (Or.inl hpiece)
          · exact Or.inr (ih hrest)

/-- Every script has its census under a `WITH` clause. -/
theorem render_census {config : Config} {db : Database} {write : PivotPlan → Bool → Script}
    (hwrite : writer? config db = some write) (plan : PivotPlan) (overAxis : Bool) :
    ∃ before after, (write plan overAxis).render db =
      before ++ plan.censusOpening db ++ after := by
  obtain ⟨rest, hlines, line, hline, hpiece⟩ := lines_of_writer hwrite plan overAxis
  have hline' : line ∈ (write plan overAxis).lines := by
    rw [hlines plan.preSelect]
    exact List.mem_append_right _ hline
  have hmem := mem_pieces hline' hpiece
  obtain ⟨before, after, hpieces⟩ := List.append_of_mem hmem
  refine ⟨renderLine db before, renderLine db after, ?_⟩
  rw [render_eq, hpieces, renderLine_append, String.append_assoc]
  rfl

end Script

/-! ## The statement that a script runs -/

namespace ColumnTemplate

/-- A template whose two parts open and close the same parentheses, so that any value can be put
between them. -/
def Balanced (template : ColumnTemplate) : Prop :=
  ∃ d, Reads ⟨0, false⟩ template.opening ⟨d, true⟩ ∧ Reads ⟨d, false⟩ template.middle ⟨0, true⟩

theorem Balanced.reads_column {template : ColumnTemplate} (h : template.Balanced) (db : Database)
    (value : String) : Reads ⟨0, false⟩ (template.column db value) ⟨0, false⟩ := by
  obtain ⟨d, hopening, hmiddle⟩ := h
  exact .trans (.paste hopening (db.closed_quoteLiteral value) hmiddle)
    (.given (db.closed_quoteIdent value))

theorem balanced_ofFilter {aggregate pivotExpr : String} (haggregate : Closed aggregate)
    (hpivot : Closed pivotExpr) : (ofFilter aggregate pivotExpr).Balanced :=
  ⟨1, .paste (.paste (.own rfl) haggregate (.own rfl)) hpivot (.own rfl),
    .own (s := ") AS ") rfl⟩

theorem balanced_ofCondition {function keyword pivotExpr operand : String}
    (hfunction : Closed function) (hkeyword : Closed keyword) (hpivot : Closed pivotExpr)
    (hoperand : Closed operand) : (ofCondition function keyword pivotExpr operand).Balanced :=
  ⟨1, .paste (.paste (.paste (.own rfl) hfunction (.own rfl)) hkeyword (.own rfl)) hpivot
    (.own rfl), .paste (.own rfl) hoperand (.own rfl)⟩

/-- A column of the dataset as the outer statement names it. -/
theorem closed_datasetColumn (db : Database) (name : String) :
    Closed ("dataset." ++ db.quoteIdent name) :=
  closed_of_reads (.trans (.own rfl) (.given (db.closed_quoteIdent _)))

theorem forDataset_filter {db : Database} (hdb : db.hasFilteredAggregates = true)
    (pivotName countName : String) : forDataset db pivotName countName =
      ofFilter ("MAX(" ++ ("dataset." ++ db.quoteIdent countName) ++ ")")
        ("dataset." ++ db.quoteIdent pivotName) :=
  if_pos hdb

theorem forDataset_condition {db : Database} (hdb : db.hasFilteredAggregates = false)
    (pivotName countName : String) : forDataset db pivotName countName =
      ofCondition "MAX" "" ("dataset." ++ db.quoteIdent pivotName)
        ("dataset." ++ db.quoteIdent countName) := by
  rw [forDataset, hdb, if_neg Bool.false_ne_true]

theorem balanced_forDataset (db : Database) (pivotName countName : String) :
    (forDataset db pivotName countName).Balanced := by
  have hpivot := closed_datasetColumn db pivotName
  have hcount := closed_datasetColumn db countName
  cases hdb : db.hasFilteredAggregates with
  | true =>
      rw [forDataset_filter hdb]
      exact balanced_ofFilter (closed_of_reads (.paste (.own rfl) hcount (.own rfl))) hpivot
  | false =>
      rw [forDataset_condition hdb]
      exact balanced_ofCondition (by decide) closed_empty hpivot hcount

/-- A counted `*` becomes the constant one. -/
theorem closed_operand {operand : String} (h : Closed operand) :
    Closed (if operand == "*" then "1" else operand) := by
  split
  · decide
  · exact h

/-- The call of the count is taken apart and put together again around a condition, with and without
`DISTINCT` in front of it. -/
theorem forRows_condition {db : Database} (hdb : db.hasFilteredAggregates = false)
    {pivotExpr : String} {count : Line} {template : ColumnTemplate}
    (h : forRows db pivotExpr count = .ok template) :
    ∃ function argument keyword operand, count.call? = some (function, argument) ∧
      Closed keyword ∧ Closed operand ∧
      template = ofCondition function keyword pivotExpr operand := by
  unfold forRows at h
  rw [hdb, if_neg Bool.false_ne_true] at h
  cases hcall : count.call? with
  | none =>
      rw [hcall] at h
      cases h
  | some call =>
      obtain ⟨function, argument⟩ := call
      have hargument := (closed_call? hcall).2
      rw [hcall] at h
      cases hstrip : stripDistinct argument.toList with
      | some inner =>
          simp only [hstrip] at h
          cases h
          have hinner : Closed (String.ofList inner) := by
            rw [Closed, String.toList_ofList]
            exact isClosed_stripDistinct hstrip hargument
          exact ⟨function, argument, _, _, rfl, by decide, closed_operand hinner, rfl⟩
      | none =>
          simp only [hstrip] at h
          cases h
          exact ⟨function, argument, _, _, rfl, closed_empty, closed_operand hargument, rfl⟩

theorem forRows_filter {db : Database} (hdb : db.hasFilteredAggregates = true)
    {pivotExpr : String} {count : Line} {template : ColumnTemplate}
    (h : forRows db pivotExpr count = .ok template) :
    template = ofFilter count.expression pivotExpr := by
  unfold forRows at h
  rw [hdb, if_pos rfl] at h
  cases h
  rfl

theorem balanced_forRows {db : Database} {pivotExpr : String} (hpivot : Closed pivotExpr)
    {count : Line} (hcount : Closed count.text) {template : ColumnTemplate}
    (h : forRows db pivotExpr count = .ok template) : template.Balanced := by
  cases hdb : db.hasFilteredAggregates with
  | true =>
      obtain rfl := forRows_filter hdb h
      exact balanced_ofFilter (closed_expression hcount) hpivot
  | false =>
      obtain ⟨function, argument, keyword, operand, hcall, hkeyword, hoperand, rfl⟩ :=
        forRows_condition hdb h
      exact balanced_ofCondition (closed_call? hcall).1 hkeyword hpivot hoperand

end ColumnTemplate

theorem closed_rowQuery {request : Request} (h : request.ClosedParts) {header : Line}
    (hheader : Closed header.text) (pivotExpr : String) :
    (PivotPlan.rowQuery request header pivotExpr).ClosedParts where
  preSelect := .nil
  ctes := fun _ hcte => nomatch hcte
  select := .cons hheader .nil
  tables := h.textsIn .table
  filters := h.textsIn .filter
  groupBy := by
    show AllClosed (PivotPlan.rowGroups request header pivotExpr)
    unfold PivotPlan.rowGroups
    dsimp only
    split
    · exact .cons (closed_expression hheader) .nil
    · exact h.keptIn .groupBy _
  having := h.textsIn .having
  orderBy := h.uncappedIn .orderBy
  trailing := h.uncappedIn .trailing

theorem closed_axisQuery {db : Database} {calendar : Calendar} (hcalendar : calendar.ClosedParts)
    {axisAlias : String} (halias : Closed axisAlias) {plan : AxisPlan} (h : plan.ClosedParts) :
    (PivotPlan.axisQuery db calendar axisAlias plan).ClosedParts :=
  { AxisPlan.closed_statement h db hcalendar halias .nil true with preSelect := .nil }

/-- Columns of any values between the halves of a closed query give a closed statement. -/
theorem closed_spliced {db : Database} {query : Query} (h : query.ClosedParts)
    {template : ColumnTemplate} (htemplate : template.Balanced) (values : List String) :
    Closed (query.head db ++ String.join (values.map (template.column db)) ++ query.tail db) := by
  have hcolumns : Reads ⟨0, false⟩ (String.join (values.map (template.column db))) ⟨0, false⟩ := by
    induction values with
    | nil => exact .own rfl
    | cons value values ih =>
        rw [List.map_cons, String.join_cons]
        exact .trans (htemplate.reads_column db value) ih
  exact closed_of_reads (.trans (.trans (.given (h.head db)) hcolumns) (h.tail db))

/-- **The statement that a pivot script runs is closed**, for every list of values that its census
may find. -/
theorem Planned.closed {config : Config} {db : Database} {request : Request} {shape : Shape}
    {plan : PivotPlan} {query : Query} (hplanned : Planned config db request shape plan query)
    (hconfig : config.check = .ok ()) (h : request.ClosedParts) (values : List String) :
    Closed (plan.head ++ String.join (values.map (plan.column.column db)) ++ plan.tail) := by
  cases hplanned with
  | rows plan_eq =>
      obtain ⟨pivotSelect, count, header, _, _, hpivot, hcount, hheader, -, htemplate, rfl⟩ :=
        PivotPlan.ofRows_ok plan_eq
      have hexpression := closed_expression (h.find? hpivot)
      exact closed_spliced (closed_rowQuery h (h.find? hheader) _)
        (ColumnTemplate.balanced_forRows hexpression (h.find? hcount) htemplate) values
  | axis spec_eq plan_eq axis_eq =>
      obtain ⟨hstart, hend⟩ := h.bounds _ spec_eq
      obtain ⟨_, axisPlan, _, _, -, haxis, -, -, rfl⟩ := PivotPlan.ofAxis_ok plan_eq
      exact closed_spliced (closed_axisQuery (Calendar.closed_ofAxis config db hstart hend)
        (closed_axisAlias hconfig) (AxisPlan.closed_ofRequest h haxis))
        (ColumnTemplate.balanced_forDataset db _ _) values

end Crosstab
