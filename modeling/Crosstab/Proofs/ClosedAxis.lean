import Crosstab.Proofs.Calls
import Crosstab.Proofs.DatasetNames
import Crosstab.Proofs.Rendering

/-!
# A closed axis

From closed lines and closed bounds come a closed calendar, a closed dataset and a closed statement
that joins them. The two parentheses that hold them are found again by `matchingParen`, each with
the partner that was written for it.
-/

namespace Crosstab

/-! ## Settings and requests -/

theorem isPlain_axisAlias {config : Config} (h : config.check = .ok ()) :
    Config.isPlainIdentifier config.axisAlias = true := by
  rw [Config.check] at h
  split at h
  · cases h
  · rename_i hplain
    simpa using hplain

/-- An alias that passes the check is a word. -/
theorem isWord_axisAlias {config : Config} (h : config.check = .ok ()) :
    config.axisAlias.toList ≠ [] ∧ ∀ c ∈ config.axisAlias.toList, isCallNameChar c = true := by
  have hplain := isPlain_axisAlias h
  simp only [Config.isPlainIdentifier, Bool.not_eq_true', Bool.and_eq_true,
    List.all_eq_true] at hplain
  obtain ⟨hne, hchars⟩ := hplain
  refine ⟨fun hnil => ?_, fun c hc => ?_⟩
  · rw [String.toList_eq_nil_iff] at hnil
    rw [hnil] at hne
    cases hne
  · rw [isCallNameChar, hchars c hc, Bool.true_or]

/-- A name that needs no quotes is closed. -/
theorem closed_axisAlias {config : Config} (h : config.check = .ok ()) :
    Closed config.axisAlias :=
  isClosed_callName (isWord_axisAlias h).2

/-- A request of closed lines, over closed bounds if it has an axis. -/
structure Request.ClosedParts (request : Request) : Prop where
  lines : ∀ line ∈ request.lines, Closed line.text
  bounds : ∀ spec, request.axis = some spec → Closed spec.startDate ∧ Closed spec.endDate

namespace Request.ClosedParts

variable {request : Request} (h : request.ClosedParts)
include h

theorem find? {slot : Slot} {role : Role} {line : Line}
    (hline : request.find? slot role = some line) : Closed line.text :=
  h.lines line (List.mem_of_find?_eq_some hline)

theorem textsIn (slot : Slot) : AllClosed (request.textsIn slot) :=
  .map fun line hline => h.lines line (List.mem_of_mem_filter hline)

theorem keptIn (slot : Slot) (p : Line → Bool) :
    AllClosed (((request.linesIn slot).filter p).map (·.text)) :=
  .map fun line hline => h.lines line (List.mem_of_mem_filter (List.mem_of_mem_filter hline))

theorem uncappedIn (slot : Slot) : AllClosed ((request.uncappedIn slot).map (·.text)) :=
  h.keptIn slot _

end Request.ClosedParts

theorem closed_ofLines {lines : List Line} (h : ∀ line ∈ lines, Closed line.text)
    (limit : Option Nat) : { Query.ofLines lines with limit := limit }.ClosedParts := by
  have htexts (slot : Slot) : AllClosed (((lines.filter fun line =>
      line.role != .topX || line.slot == .orderBy).filter (·.slot == slot)).map (·.text)) :=
    .map fun line hline => h line (List.mem_of_mem_filter (List.mem_of_mem_filter hline))
  exact {
    preSelect := htexts .preSelect
    ctes := fun _ hcte => nomatch hcte
    select := htexts .select
    tables := htexts .table
    filters := htexts .filter
    groupBy := htexts .groupBy
    having := htexts .having
    orderBy := htexts .orderBy
    trailing := htexts .trailing }

/-! ## The calendar -/

/-- A calendar of closed texts. -/
structure Calendar.ClosedParts (calendar : Calendar) : Prop where
  settings : AllClosed calendar.settings
  cte : calendar.cte.ClosedParts
  options : AllClosed calendar.options

theorem closed_calendarName : Closed calendarName := rfl

namespace Calendar

theorem closed_oracleBound {bound : String} (h : Closed bound) : Closed (oracleBound bound) := by
  have htrim : Closed (trimText bound) := closed_trimText h
  unfold oracleBound
  dsimp only
  split
  · exact closed_of_reads (.paste (.own rfl) htrim (.own rfl))
  · exact htrim

section
variable (config : Config) {spec : AxisSpec}

theorem closed_sqlServer (hstart : Closed spec.startDate) (hend : Closed spec.endDate) :
    (sqlServer config spec).ClosedParts := by
  have hunit : Closed (unitKeyword spec.increment) := by
    cases spec.increment <;> rfl
  have hnext : Closed ("DATEADD(" ++ unitKeyword spec.increment ++ ", 1, dt)") :=
    closed_of_reads (.paste (.own rfl) hunit (.own rfl))
  refine ⟨.cons ?_ (.cons ?_ .nil), ⟨closed_calendarName, .nil, ?_⟩, .cons ?_ .nil⟩
  · exact closed_of_reads (.paste (.own rfl) hstart (.own rfl))
  · exact closed_of_reads (.paste (.own rfl) hend (.own rfl))
  · exact closed_of_reads (.paste (.paste (.paste (.own rfl) hnext (.own rfl)) closed_calendarName
      (.own rfl)) hnext (.own rfl))
  · exact closed_of_reads (.paste (.own rfl) (closed_toString _) (.own rfl))

theorem closed_mySql (hstart : Closed spec.startDate) (hend : Closed spec.endDate) :
    (mySql config spec).ClosedParts := by
  have hunit : Closed (unitKeyword spec.increment) := by
    cases spec.increment <;> rfl
  have hnext : Closed ("DATE_ADD(dt, INTERVAL 1 " ++ unitKeyword spec.increment ++ ")") :=
    closed_of_reads (.paste (.own rfl) hunit (.own rfl))
  refine ⟨.cons ?_ .nil, ⟨closed_calendarName, .nil, ?_⟩, .nil⟩
  · exact closed_of_reads (.paste (.own rfl) (closed_toString _) (.own rfl))
  · exact closed_of_reads (.paste (.paste (.paste (.paste (.paste (.own rfl) hstart (.own rfl))
      hnext (.own rfl)) closed_calendarName (.own rfl)) hnext (.own rfl)) hend (.own rfl))

theorem closed_postgres (hstart : Closed spec.startDate) (hend : Closed spec.endDate) :
    (postgres spec).ClosedParts := by
  -- The interval stands inside a literal, so it is read together with what is around it.
  have hstep : Reads ⟨2, false⟩ (" AS DATE), INTERVAL '" ++ (seriesInterval spec.increment ++
      "') AS g(dt)")) ⟨0, true⟩ := by
    cases spec.increment <;> exact .own (by decide)
  refine ⟨.nil, ⟨closed_calendarName, .nil, ?_⟩, .nil⟩
  simp only [postgres, String.append_assoc]
  exact closed_of_reads (.trans (.own rfl) (.trans (.given hstart) (.trans (.own rfl)
    (.trans (.given hend) hstep))))

theorem closed_oracle (hstart : Closed spec.startDate) (hend : Closed spec.endDate) :
    (oracle spec).ClosedParts := by
  have hnext : Closed (oracleNext spec.increment "dt") := by
    cases spec.increment <;> decide
  refine ⟨.nil, ⟨closed_calendarName, .cons rfl .nil, ?_⟩, .nil⟩
  refine closed_of_reads (.trans ?_ (.given (closed_oracleBound hend)))
  exact .paste (.paste (.paste (.paste (.own rfl) (closed_oracleBound hstart) (.own rfl)) hnext
    (.own rfl)) closed_calendarName (.own rfl)) hnext (.own rfl)

theorem closed_sqlite (hstart : Closed spec.startDate) (hend : Closed spec.endDate) :
    (sqlite spec).ClosedParts := by
  have hnext : Closed ("date(dt, '" ++ dateModifier spec.increment ++ "')") := by
    cases spec.increment <;> decide
  refine ⟨.nil, ⟨closed_calendarName, .cons rfl .nil, ?_⟩, .nil⟩
  exact closed_of_reads (.paste (.paste (.paste (.paste (.paste (.own rfl) hstart (.own rfl)) hnext
    (.own rfl)) closed_calendarName (.own rfl)) hnext (.own rfl)) hend (.own rfl))

end

theorem closed_ofAxis (config : Config) (db : Database) {spec : AxisSpec}
    (hstart : Closed spec.startDate) (hend : Closed spec.endDate) :
    (Calendar.ofAxis config db spec).ClosedParts := by
  cases db with
  | sqlServer => exact closed_sqlServer config hstart hend
  | mySql => exact closed_mySql config hstart hend
  | postgres => exact closed_postgres hstart hend
  | oracle => exact closed_oracle hstart hend
  | sqlite => exact closed_sqlite hstart hend

end Calendar

/-! ## The dataset -/

theorem Database.closed_aliased (db : Database) {expression : String} (h : Closed expression)
    (name : String) : Closed (db.aliased expression name) :=
  closed_of_reads (.trans (.trans (.given h) (.own rfl)) (.given (db.closed_quoteIdent name)))

theorem closed_binLine (db : Database) (increment : Increment) (names : DatasetNames) {line : Line}
    (h : Closed line.text) : Closed (binLine db increment names line).text := by
  have hexpression := closed_expression h
  by_cases haxis : line.is .select .axis = true
  · rw [binLine_axisSelect db increment names haxis]
    exact db.closed_aliased (db.closed_datePart increment hexpression) _
  by_cases hgroup : line.is .groupBy .axis = true
  · rw [binLine_axisGroupBy db increment names hgroup]
    exact db.closed_datePart increment hexpression
  by_cases hcount : line.is .select .count = true
  · rw [binLine_countSelect db increment names hcount]
    exact db.closed_aliased hexpression _
  by_cases hpivot : line.is .select .pivot = true
  · rw [binLine_pivotSelect db increment names hpivot]
    split
    · exact db.closed_aliased hexpression _
    · exact h
  rw [Bool.not_eq_true] at haxis hgroup hcount hpivot
  rw [binLine_other db increment names haxis hgroup hcount hpivot]
  exact h

theorem closed_datasetQuery (db : Database) {request : Request} (h : request.ClosedParts)
    (increment : Increment) (names : DatasetNames) :
    (AxisPlan.datasetQuery db request increment names).ClosedParts := by
  refine closed_ofLines (fun line hline => ?_) none
  have hmem := List.mem_of_mem_filter (List.mem_of_mem_filter hline)
  obtain ⟨given, hgiven, rfl⟩ := List.mem_map.mp hmem
  exact closed_binLine db increment names (h.lines given hgiven)

/-! ## The statement over an axis -/

namespace AxisPlan

/-- An axis plan of closed texts. -/
structure ClosedParts (plan : AxisPlan) : Prop where
  axisExpr : Closed plan.axisExpr
  bucket : Closed plan.bucket
  dataset : Closed plan.dataset
  preSelect : AllClosed plan.preSelect
  trailing : AllClosed plan.trailing

theorem closed_ofRequest {db : Database} {request : Request} {shape : Shape} {plan : AxisPlan}
    (h : request.ClosedParts) (hplan : ofRequest db request shape = .ok plan) :
    plan.ClosedParts := by
  obtain ⟨spec, axisSelect, names, -, hselect, -, rfl⟩ := ofRequest_ok hplan
  exact {
    axisExpr := closed_expression (h.find? hselect)
    bucket := db.closed_datePart spec.increment rfl
    dataset := (closed_datasetQuery db h spec.increment names).render db
    preSelect := h.textsIn .preSelect
    trailing := h.uncappedIn .trailing }

/-- What a statement over an axis says before the parenthesis of its dataset. -/
def joinOpening : String := "\nFROM " ++ calendarName ++ " axis\nLEFT JOIN "

/-- What a statement over an axis says after the parenthesis of its dataset, up to the next line. -/
def joinCondition (plan : AxisPlan) (db : Database) : String :=
  " dataset ON dataset." ++ db.quoteIdent plan.names.join ++ " = " ++ plan.bucket

theorem joinClause_eq (plan : AxisPlan) (db : Database) :
    plan.joinClause db =
      "LEFT JOIN " ++ "(" ++ ("\n" ++ plan.dataset ++ "\n") ++ ")" ++ plan.joinCondition db := by
  have hopen : "LEFT JOIN (\n" = "LEFT JOIN " ++ "(" ++ "\n" := by decide +kernel
  have hclose : "\n) dataset ON dataset." = "\n" ++ ")" ++ " dataset ON dataset." := by
    decide +kernel
  unfold joinClause joinCondition
  rw [hopen, hclose]
  simp only [String.append_assoc]

/-- The parenthesis of the dataset in the tail of a statement. -/
theorem tail_statement (plan : AxisPlan) (db : Database) (calendar : Calendar) (axisAlias : String)
    (columns : List String) (grouped : Bool) :
    ∃ after, (plan.statement db calendar axisAlias columns grouped).tail db =
      joinOpening ++ "(" ++ ("\n" ++ plan.dataset ++ "\n") ++ ")" ++
        (plan.joinCondition db ++ after) := by
  have hjoined : "\n".intercalate [calendarName ++ " axis", plan.joinClause db] =
      calendarName ++ " axis" ++ "\n" ++ plan.joinClause db := by
    rw [String.intercalate_cons_cons, String.intercalate_singleton]
  have htail : ∃ lines, (plan.statement db calendar axisAlias columns grouped).tail db =
      "\n" ++ ("FROM " ++ "\n".intercalate [calendarName ++ " axis", plan.joinClause db]) ++
        indentLines lines := ⟨_, rfl⟩
  have hopening : joinOpening =
      "\n" ++ "FROM " ++ calendarName ++ " axis" ++ "\n" ++ "LEFT JOIN " := by
    decide +kernel
  obtain ⟨lines, hlines⟩ := htail
  refine ⟨indentLines lines, ?_⟩
  rw [hlines, hjoined, joinClause_eq, hopening]
  simp only [String.append_assoc]

theorem closed_countColumn (plan : AxisPlan) (db : Database) : Closed (plan.countColumn db) :=
  closed_of_reads (.trans (.own rfl) (.given (db.closed_quoteIdent _)))

variable {plan : AxisPlan} (h : plan.ClosedParts) (db : Database)
include h

theorem closed_joinClause : Closed (plan.joinClause db) :=
  closed_of_reads (.trans (.paste (.paste (.own rfl) h.dataset (.own rfl))
    (db.closed_quoteIdent _) (.own rfl)) (.given h.bucket))

theorem closed_statement {calendar : Calendar} (hcalendar : calendar.ClosedParts)
    {axisAlias : String} (halias : Closed axisAlias) {columns : List String}
    (hcolumns : AllClosed columns) (grouped : Bool) :
    (plan.statement db calendar axisAlias columns grouped).ClosedParts where
  preSelect := .append hcalendar.settings h.preSelect
  ctes := List.forall_mem_singleton.mpr hcalendar.cte
  select := .cons (closed_of_reads (.trans (.trans (.given h.bucket) (.own rfl)) (.given halias)))
    hcolumns
  tables := .cons rfl (.cons (closed_joinClause h db) .nil)
  filters := .nil
  groupBy := by
    cases grouped with
    | false => exact .nil
    | true => exact .cons h.bucket .nil
  having := .nil
  orderBy := .cons h.bucket .nil
  trailing := .append h.trailing hcalendar.options

end AxisPlan

end Crosstab
