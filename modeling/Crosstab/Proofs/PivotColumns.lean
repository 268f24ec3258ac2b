import Crosstab.Proofs.ClosedPivot

/-!
# The columns of a pivot

The column of a pivot value is pasted from four pieces: the two halves of a template, the value as a
literal and the value as a name. Whatever the value is, the four make one item of a select list that
is named after the value (`columns_named_by_value`).

The item is an aggregate under a quoted alias, so `Database.splitAlias_aliased` reads it back once
the aggregate is known to be closed and free of outer blanks. There are two forms of aggregate: a
filter behind it, or a condition inside its call, and then the call is one call again
(`isCall_of_closed`).
-/

namespace Crosstab

/-! ## Items of a select list -/

/-- A blank before a fragment does not matter to its alias. -/
theorem splitAlias_cons_blank {c : Char} (hc : isBlank c = true) (cs : List Char) :
    splitAlias (c :: cs) = splitAlias cs := by
  refine splitAlias_congr ?_
  simp [tidy, trim, trimStart, hc]

namespace ColumnTemplate

/-- The column of a value without the separator in front of it. -/
def item (template : ColumnTemplate) (db : Database) (value : String) : String :=
  String.ofList ((template.column db value).toList.drop 2)

/-- What the template writes for a value: the separator of a select list and one item, which is a
closed aggregate under the value as its name. Where targets have no `FILTER`, the aggregate is a
single call of `callee`. -/
structure IsItem (template : ColumnTemplate) (db : Database) (callee : Option String)
    (value : String) : Prop where
  separated : template.column db value = ", " ++ template.item db value
  named : ∃ aggregate, splitAlias (template.item db value).toList =
    (aggregate, some value.toList) ∧ aggregate ≠ [] ∧ isClosed aggregate = true ∧
    (db.hasFilteredAggregates = false → ∃ function argument, callee = some function ∧
      splitCall aggregate = some (function.toList, argument))

section
variable {template : ColumnTemplate} {db : Database} {callee : Option String}

theorem item_eq {value item : String} (h : template.column db value = ", " ++ item) :
    template.item db value = item := by
  have hcut : (", " ++ item).toList.drop 2 = item.toList := by simp
  rw [ColumnTemplate.item, h, hcut, String.ofList_toList]

theorem IsItem.columnName {value : String} (h : template.IsItem db callee value) :
    columnName (template.item db value) = .ok value := by
  obtain ⟨aggregate, halias, -⟩ := h.named
  rw [columnName_ok, runtimeName, halias]

/-- An aggregate under the quoted value is an item, also with a blank before it. -/
theorem isItem_of_aliased {value blank : String} (aggregate : String)
    (hblank : blank = "" ∨ blank = " ")
    (h : template.column db value = ", " ++ (blank ++ db.aliased aggregate value))
    (hclosed : Closed aggregate) (hsolid : Solid aggregate)
    (hcall : db.hasFilteredAggregates = false → ∃ function argument, callee = some function ∧
      splitCall aggregate.toList = some (function.toList, argument)) :
    template.IsItem db callee value := by
  refine ⟨by rw [item_eq h]; exact h, aggregate.toList, ?_, hsolid.ne_nil, hclosed, hcall⟩
  have hsplit := db.splitAlias_aliased hclosed hsolid value
  rw [item_eq h]
  rcases hblank with rfl | rfl
  · rwa [String.empty_append]
  · have hlist : (" " ++ db.aliased aggregate value).toList =
        ' ' :: (db.aliased aggregate value).toList := by simp
    rw [hlist, splitAlias_cons_blank rfl, hsplit]

/-! ## A filter behind an aggregate -/

/-- An aggregate over the rows in which an expression has a value. -/
def filtered (aggregate pivotExpr literal : String) : String :=
  aggregate ++ " FILTER (WHERE " ++ pivotExpr ++ " = " ++ literal ++ ")"

theorem column_ofFilter (db : Database) (aggregate pivotExpr value : String) :
    (ofFilter aggregate pivotExpr).column db value =
      ", " ++ db.aliased (filtered aggregate pivotExpr (db.quoteLiteral value)) value := by
  have halias : ") AS " = ")" ++ " AS " := by decide
  simp only [column, ofFilter, filtered, Database.aliased, halias, String.append_assoc]

theorem isItem_ofFilter (hdb : db.hasFilteredAggregates = true) {aggregate pivotExpr : String}
    (haggregate : Closed aggregate) (htrimmed : Trimmed aggregate.toList)
    (hpivot : Closed pivotExpr) (value : String) :
    (ofFilter aggregate pivotExpr).IsItem db callee value := by
  have hnone {P : Prop} (h : db.hasFilteredAggregates = false) : P := by
    rw [hdb] at h
    cases h
  have halias : ") AS " = ")" ++ " AS " := by decide
  have hliteral := db.closed_quoteLiteral value
  by_cases hempty : aggregate = ""
  · -- Nothing is counted, and what remains begins with the blank before the filter.
    subst hempty
    have hopen : " FILTER (WHERE " = " " ++ "FILTER (WHERE " := by decide
    refine isItem_of_aliased
      ("FILTER (WHERE " ++ pivotExpr ++ " = " ++ db.quoteLiteral value ++ ")") (Or.inr rfl) ?_
      ?_ ⟨?_, ends_append rfl _⟩ hnone
    · simp only [column, ofFilter, Database.aliased, halias, hopen, String.append_assoc,
        String.empty_append]
    · exact closed_of_reads (.paste (.paste (.own rfl) hpivot (.own rfl)) hliteral (.own rfl))
    · exact starts_append (starts_append (starts_append (starts_append rfl _) _) _) _
  · have hstarts : aggregate.toList.head?.any (!isBlank ·) = true := by
      have hne : aggregate.toList ≠ [] := by simpa using hempty
      have hsolid := solid_of_trimmed hne htrimmed
      rw [String.ofList_toList] at hsolid
      exact hsolid.starts
    refine isItem_of_aliased (filtered aggregate pivotExpr (db.quoteLiteral value))
      (Or.inl rfl) ?_ ?_ ⟨?_, ends_append rfl _⟩ hnone
    · rw [String.empty_append, column_ofFilter]
    · exact closed_of_reads (.paste (.paste (.trans (.given haggregate) (.own rfl)) hpivot
        (.own rfl)) hliteral (.own rfl))
    · exact starts_append (starts_append (starts_append (starts_append (starts_append hstarts _) _)
        _) _) _

/-! ## A condition inside a call -/

/-- What is aggregated over the rows in which an expression has a value. -/
def conditioned (keyword pivotExpr literal operand : String) : String :=
  keyword ++ "CASE WHEN " ++ pivotExpr ++ " = " ++ literal ++ " THEN " ++ operand ++
    " ELSE NULL END"

theorem column_ofCondition (db : Database) (function keyword pivotExpr operand value : String) :
    (ofCondition function keyword pivotExpr operand).column db value = ", " ++ db.aliased
      (function ++ "(" ++ conditioned keyword pivotExpr (db.quoteLiteral value) operand ++ ")")
        value := by
  have hend : " ELSE NULL END) AS " = " ELSE NULL END" ++ ")" ++ " AS " := by decide
  simp only [column, ofCondition, conditioned, Database.aliased, hend, String.append_assoc]

theorem isItem_ofCondition {function keyword pivotExpr operand : String}
    (hne : function.toList ≠ []) (hfunction : ∀ c ∈ function.toList, isCallNameChar c = true)
    (hkeyword : Closed keyword) (hpivot : Closed pivotExpr) (hoperand : Closed operand)
    (value : String) :
    (ofCondition function keyword pivotExpr operand).IsItem db (some function) value := by
  have hinner : Closed (conditioned keyword pivotExpr (db.quoteLiteral value) operand) :=
    closed_of_reads (.paste (.paste (.paste (.trans (.given hkeyword) (.own rfl)) hpivot
      (.own rfl)) (db.closed_quoteLiteral value) (.own rfl)) hoperand (.own rfl))
  have hclosed : Closed function := isClosed_callName hfunction
  have hsolid := solid_of_trimmed hne (trimmed_callName hfunction)
  rw [String.ofList_toList] at hsolid
  -- What stands in the parentheses is closed, so the call ends at the last one.
  have hcall : splitCall (function ++ "(" ++
      conditioned keyword pivotExpr (db.quoteLiteral value) operand ++ ")").toList =
        some (function.toList,
          trim (conditioned keyword pivotExpr (db.quoteLiteral value) operand).toList) := by
    simpa using (isCall_of_closed hne hfunction hinner).splitCall
  refine isItem_of_aliased _ (Or.inl rfl) ?_ ?_ ⟨?_, ends_append rfl _⟩
    fun _ => ⟨function, _, rfl, hcall⟩
  · rw [String.empty_append, column_ofCondition]
  · exact closed_of_reads (.paste (.trans (.given hclosed) (.own rfl)) hinner (.own rfl))
  · exact starts_append (starts_append (starts_append hsolid.starts _) _) _

theorem isItem_forRows {pivotExpr : String} (hpivot : Closed pivotExpr) {count : Line}
    (hcount : Closed count.text) (h : forRows db pivotExpr count = .ok template) (value : String) :
    template.IsItem db (count.call?.map Prod.fst) value := by
  cases hdb : db.hasFilteredAggregates with
  | true =>
      obtain rfl := forRows_filter hdb h
      have htrimmed : Trimmed count.expression.toList := by
        rw [Line.expression, String.toList_ofList]
        exact trimmed_splitAlias _
      exact isItem_ofFilter hdb (closed_expression hcount) htrimmed hpivot value
  | false =>
      obtain ⟨function, argument, keyword, operand, hcall, hkeyword, hoperand, rfl⟩ :=
        forRows_condition hdb h
      obtain ⟨hne, hname⟩ := callName_of_call? hcall
      rw [hcall]
      exact isItem_ofCondition hne hname hkeyword hpivot hoperand value

/-- The dataset has the count ready, so the aggregate only picks it. -/
theorem isItem_forDataset (pivotName countName value : String) :
    (forDataset db pivotName countName).IsItem db (some "MAX") value := by
  have hpivot := closed_datasetColumn db pivotName
  have hcount := closed_datasetColumn db countName
  cases hdb : db.hasFilteredAggregates with
  | true =>
      rw [forDataset_filter hdb]
      refine isItem_ofFilter hdb ?_ (Solid.trimmed ⟨?_, ends_append rfl _⟩) hpivot value
      · exact closed_of_reads (.paste (.own rfl) hcount (.own rfl))
      · exact starts_append (starts_append rfl _) _
  | false =>
      rw [forDataset_condition hdb]
      exact isItem_ofCondition (by decide) (List.all_eq_true.mp (by decide)) closed_empty hpivot
        hcount value

end

end ColumnTemplate

/-! ## Plans -/

/-- A template that makes an item of every value, and of different values items with different
names. -/
structure ColumnTemplate.NamedByValue (template : ColumnTemplate) (db : Database)
    (callee : Option String) : Prop where
  isItem : ∀ value, template.IsItem db callee value
  distinct : ∀ v w, v ≠ w → columnName (template.item db v) ≠ columnName (template.item db w)

theorem ColumnTemplate.namedByValue {template : ColumnTemplate} {db : Database}
    {callee : Option String} (h : ∀ value, template.IsItem db callee value) :
    template.NamedByValue db callee := by
  refine ⟨h, fun v w hne heq => hne ?_⟩
  rw [(h v).columnName, (h w).columnName] at heq
  exact Except.ok.inj heq

/-- **Every pivot column is one select item named after its value.** The callee is the one of the
count, or `MAX` where a dataset has the count ready. -/
theorem columns_named_by_value {request : Request}
    (hpivot : ∀ line, request.pivotSelect? = some line → Closed line.text)
    (hcount : ∀ line, request.countSelect? = some line → Closed line.text) (db : Database) :
    (∀ plan, PivotPlan.ofRows db request = .ok plan → ∃ count, request.countSelect? = some count ∧
      plan.column.NamedByValue db (count.call?.map Prod.fst)) ∧
    (∀ calendar axisAlias plan, PivotPlan.ofAxis db calendar axisAlias request = .ok plan →
      plan.column.NamedByValue db (some "MAX")) := by
  constructor
  · intro plan hplan
    obtain ⟨pivotSelect, count, _, _, _, hpivotSelect, hcountSelect, -, -, htemplate, rfl⟩ :=
      PivotPlan.ofRows_ok hplan
    have hexpression := closed_expression (hpivot _ hpivotSelect)
    exact ⟨count, hcountSelect, ColumnTemplate.namedByValue
      (ColumnTemplate.isItem_forRows hexpression (hcount _ hcountSelect) htemplate)⟩
  · intro calendar axisAlias plan hplan
    obtain ⟨_, _, _, _, -, -, -, -, rfl⟩ := PivotPlan.ofAxis_ok hplan
    exact ColumnTemplate.namedByValue (ColumnTemplate.isItem_forDataset _ _)

/-- A distinct count and a bracketed name, on the target whose names are bracketed themselves. -/
theorem columns_named_by_value_distinct :
    let request : Request := ⟨[.plain .select "k", ⟨"p.[a)]]b]", .select, .pivot⟩,
      ⟨"COUNT(distinct n) AS total", .select, .count⟩, .plain .table "t"], none⟩
    ∃ plan count, PivotPlan.ofRows .sqlServer request = .ok plan ∧
      request.countSelect? = some count ∧ count.call? = some ("COUNT", "distinct n") ∧
      plan.column.NamedByValue .sqlServer (some "COUNT") ∧
      plan.column.item .sqlServer "x' AS ]" =
        "COUNT(DISTINCT CASE WHEN p.[a)]]b] = 'x'' AS ]' THEN n ELSE NULL END) AS [x' AS ]]]" := by
  intro request
  have hpivot : ∀ line, request.pivotSelect? = some line → Closed line.text := by
    rintro line hline
    cases hline
    rfl
  have hcount : ∀ line, request.countSelect? = some line → Closed line.text := by
    rintro line hline
    cases hline
    rfl
  obtain ⟨plan, hplan⟩ : ∃ plan, PivotPlan.ofRows .sqlServer request = .ok plan := ⟨_, rfl⟩
  obtain ⟨count, hfound, hnamed⟩ :=
    (columns_named_by_value hpivot hcount .sqlServer).1 plan hplan
  cases hfound
  have hcall : (Line.mk "COUNT(distinct n) AS total" .select .count).call? =
      some ("COUNT", "distinct n") := by decide +kernel
  rw [hcall] at hnamed
  cases hplan
  exact ⟨_, _, rfl, rfl, hcall, hnamed, by decide +kernel⟩

end Crosstab
