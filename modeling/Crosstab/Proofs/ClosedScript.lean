import Crosstab.Proofs.ClosedPivot

/-!
# Closed fragments give a closed script

Whatever shape a request has, closed lines and bounds give a closed text (`build_closed`), and the
parentheses that the synthesizer opened around them are matched with the ones that it wrote to close
them. Each pairing is stated for the text that holds it, at the place where it was written.
-/

namespace Crosstab

/-! ## Parentheses that belong together -/

/-- In a text that goes on after `before` with a `WITH` clause, the parenthesis of the one common
table expression is paired with the one written after its body. -/
def Cte.PairedIn (cte : Cte) (db : Database) (before text : String) : Prop :=
  ∃ after, Encloses text (before ++ withKeyword db [cte] ++ cte.opening)
    ("\n" ++ cte.body ++ "\n") after

/-- In a text that goes on after `before` with the `FROM` of a statement over an axis, the
parenthesis of the dataset is paired with the one written after it. -/
def AxisPlan.PairedIn (plan : AxisPlan) (before text : String) : Prop :=
  ∃ after, Encloses text (before ++ AxisPlan.joinOpening) ("\n" ++ plan.dataset ++ "\n") after

/-- In the body of a census, the parenthesis of the window is paired with the one written after its
ordering. -/
def WindowPairedIn (db : Database) (request : Request) (pivotExpr : String)
    (axisExpr : Option String) (body : String) : Prop :=
  ∃ count limit after, request.countSelect? = some count ∧ request.topXLimit = .ok limit ∧
    Encloses body
      ((censusQuery db request count limit pivotExpr axisExpr).selectKeyword db ++
        db.castToText pivotExpr ++ " AS piv, ROW_NUMBER() OVER ")
      ("ORDER BY " ++ rankOrder request count pivotExpr) after

theorem Cte.paired_head {db : Database} {query : Query} {cte : Cte} (hctes : query.ctes = [cte])
    (h : Closed cte.body) (rest : String) :
    cte.PairedIn db (String.join (query.preSelect.map (· ++ "\n"))) (query.head db ++ rest) := by
  refine ⟨"\n" ++ query.selectClause db ++ rest, encloses_of_closed (closed_lines h) ?_⟩
  rw [query.head_with db hctes, String.append_assoc]

theorem AxisPlan.paired_tail {plan : AxisPlan} (h : Closed plan.dataset) (db : Database)
    (calendar : Calendar) (axisAlias : String) (columns : List String) (grouped : Bool)
    (before : String) :
    plan.PairedIn before
      (before ++ (plan.statement db calendar axisAlias columns grouped).tail db) := by
  obtain ⟨after, htail⟩ := plan.tail_statement db calendar axisAlias columns grouped
  refine ⟨plan.joinCondition db ++ after, encloses_of_closed (closed_lines h) ?_⟩
  rw [htail]
  simp only [String.append_assoc]

theorem paired_census {db : Database} {request : Request} (h : request.ClosedParts) {shape : Shape}
    {pivotExpr : String} (hpivot : Closed pivotExpr) {axisExpr : Option String} {cte : Cte}
    (hcte : census db request shape pivotExpr axisExpr = .ok cte) :
    WindowPairedIn db request pivotExpr axisExpr cte.body := by
  obtain ⟨count, limit, hcount, hlimit, rfl⟩ := census_ok hcte
  have horder := closed_rankOrder h (h.find? hcount) hpivot
  refine ⟨count, limit, _, hcount, hlimit, encloses_of_closed ?_ (render_censusQuery ..)⟩
  exact closed_of_reads (.trans (.own rfl) (.given horder))

theorem PivotPlan.ClosedParts.paired {plan : PivotPlan} (h : plan.ClosedParts) {config : Config}
    {db : Database} {write : PivotPlan → Bool → Script}
    (hwrite : Script.writer? config db = some write) (overAxis : Bool) :
    ∃ before, plan.census.PairedIn db before ((write plan overAxis).render db) := by
  obtain ⟨before, after, hrender⟩ := Script.render_census hwrite plan overAxis
  refine ⟨before, "\n" ++ after, encloses_of_closed (closed_lines h.census.body) ?_⟩
  rw [hrender, PivotPlan.censusOpening, renderWith_singleton, Cte.render_eq]
  simp only [String.append_assoc]

/-- The parentheses that a synthesis in some shape opens around texts that it was given are paired
with the ones that it wrote to close them, in the text that holds them. -/
def Paired (config : Config) (db : Database) (request : Request) (sql : String) : Shape → Prop
  | .plain => True
  | .axis => ∃ spec plan,
      request.axis = some spec ∧ AxisPlan.ofRequest db request .axis = .ok plan ∧
      let calendar := Calendar.ofAxis config db spec
      let query := plan.statement db calendar config.axisAlias [plan.countColumn db] false
      calendar.cte.PairedIn db (String.join (query.preSelect.map (· ++ "\n"))) sql ∧
      plan.PairedIn (query.head db) sql
  | .pivot => ∃ plan pivotSelect,
      PivotPlan.ofRows db request = .ok plan ∧ request.pivotSelect? = some pivotSelect ∧
      (∃ before, plan.census.PairedIn db before sql) ∧
      WindowPairedIn db request pivotSelect.expression none plan.census.body
  | .axisPivot => ∃ spec axisPlan plan pivotSelect,
      request.axis = some spec ∧ AxisPlan.ofRequest db request .axisPivot = .ok axisPlan ∧
      let calendar := Calendar.ofAxis config db spec
      PivotPlan.ofAxis db calendar config.axisAlias request = .ok plan ∧
      request.pivotSelect? = some pivotSelect ∧
      calendar.cte.PairedIn db "" plan.head ∧ axisPlan.PairedIn "" plan.tail ∧
      (∃ before, plan.census.PairedIn db before sql) ∧
      WindowPairedIn db request pivotSelect.expression (some axisPlan.axisExpr) plan.census.body

section
variable {config : Config} {db : Database} {request : Request} {sql : String}

theorem plain_closed (h : request.ClosedParts) (hsql : Build.plain db request = .ok sql) :
    Closed sql := by
  obtain ⟨limit, -, rfl⟩ := Build.plain_ok hsql
  exact (closed_ofLines h.lines limit).render db

theorem axis_closed (h : request.ClosedParts) (halias : Closed config.axisAlias)
    (hsql : Build.axis config db request = .ok sql) :
    Closed sql ∧ Paired config db request sql .axis := by
  obtain ⟨spec, plan, hspec, hplan, rfl⟩ := Build.axis_ok hsql
  obtain ⟨hstart, hend⟩ := h.bounds spec hspec
  have hcalendar := Calendar.closed_ofAxis config db hstart hend
  have hparts := AxisPlan.closed_ofRequest h hplan
  have hquery := AxisPlan.closed_statement hparts db hcalendar halias
    (.cons (plan.closed_countColumn db) .nil) false
  refine ⟨hquery.render db, spec, plan, hspec, hplan, ?_, ?_⟩
  · exact Cte.paired_head rfl hcalendar.cte.body _
  · exact AxisPlan.paired_tail hparts.dataset ..

theorem pivot_closed (h : request.ClosedParts) (hsql : Build.pivot config db request = .ok sql) :
    Closed sql ∧ Paired config db request sql .pivot := by
  obtain ⟨write, plan, hwrite, hplan, rfl⟩ := Build.pivot_ok hsql
  obtain ⟨pivotSelect, _, _, values, _, hpivot, -, -, hvalues, -, heq⟩ := PivotPlan.ofRows_ok hplan
  have hparts := closed_ofRows h hplan
  have hwindow := paired_census h (closed_expression (h.find? hpivot)) hvalues
  refine ⟨Script.closed_of_writer hparts hwrite false, plan, pivotSelect, hplan, hpivot,
    hparts.paired hwrite false, ?_⟩
  rw [heq]
  exact hwindow

theorem axisPivot_closed (h : request.ClosedParts)
    (hsql : Build.axisPivot config db request = .ok sql) :
    Closed sql ∧ Paired config db request sql .axisPivot := by
  obtain ⟨write, spec, plan, hwrite, hspec, hplan, rfl⟩ := Build.axisPivot_ok hsql
  obtain ⟨hstart, hend⟩ := h.bounds spec hspec
  have hcalendar := Calendar.closed_ofAxis config db hstart hend
  obtain ⟨pivotSelect, axisPlan, _, values, hpivot, haxis, -, hvalues, heq⟩ :=
    PivotPlan.ofAxis_ok hplan
  have hdataset := (AxisPlan.closed_ofRequest h haxis).dataset
  have hparts := closed_ofAxis h hcalendar hplan
  have hpaired := hparts.paired hwrite true
  have hwindow := paired_census h (closed_expression (h.find? hpivot)) hvalues
  refine ⟨Script.closed_of_writer hparts hwrite true, spec, axisPlan, plan, pivotSelect, hspec,
    haxis, hplan, hpivot, ?_, ?_, hpaired, ?_⟩
  · rw [heq, ← String.append_empty (s := Query.head ..)]
    exact Cte.paired_head rfl hcalendar.cte.body ""
  · have htail := AxisPlan.paired_tail hdataset db (Calendar.ofAxis config db spec)
      config.axisAlias [] true ""
    rw [String.empty_append] at htail
    rw [heq]
    exact htail
  · rw [heq]
    exact hwindow

/-- **Closed fragments give a closed script.** Lines and bounds that open nothing they do not close
make up a text of the same kind, in every shape and for every target, and the parentheses opened
around them are closed where they were meant to be. -/
theorem build_closed (hconfig : config.check = .ok ())
    (hlines : ∀ line ∈ request.lines, Closed line.text)
    (hbounds : ∀ spec, request.axis = some spec → Closed spec.startDate ∧ Closed spec.endDate)
    (hsql : build config db request = .ok sql) :
    Closed sql ∧ Paired config db request sql (Shape.classify request) := by
  have hrequest : request.ClosedParts := ⟨hlines, hbounds⟩
  have hshape := build_ok hsql
  cases hclass : Shape.classify request with
  | plain =>
      rw [hclass] at hshape
      exact ⟨plain_closed hrequest hshape, trivial⟩
  | axis =>
      rw [hclass] at hshape
      exact axis_closed hrequest (closed_axisAlias hconfig) hshape
  | pivot =>
      rw [hclass] at hshape
      exact pivot_closed hrequest hshape
  | axisPivot =>
      rw [hclass] at hshape
      exact axisPivot_closed hrequest hshape

end

/-- Parentheses inside of quotes, on the target that quotes names by backticks. -/
theorem build_closed_quoted :
    let request : Request := ⟨[⟨"CAST(o.at AS DATE) AS \x60at)\x60", .select, .axis⟩,
      ⟨"COUNT(DISTINCT o.[(]) AS n", .select, .count⟩, ⟨"o.\"k)\"", .select, .pivot⟩,
      ⟨"orders o", .table, .ordinary⟩, ⟨"o.note <> '('", .filter, .ordinary⟩,
      ⟨"CAST(o.at AS DATE)", .groupBy, .axis⟩], some ⟨"'2020-01-01'", "(CURRENT_DATE)", .month⟩⟩
    ∃ sql, build {} .mySql request = .ok sql ∧ Closed sql ∧
      Paired {} .mySql request sql .axisPivot := by
  intro request
  obtain ⟨sql, hsql⟩ : ∃ sql, build {} .mySql request = .ok sql := ⟨_, rfl⟩
  refine ⟨sql, hsql, build_closed (by decide) (by decide) ?_ hsql⟩
  rintro spec hspec
  cases hspec
  exact ⟨by decide, by decide⟩

end Crosstab
