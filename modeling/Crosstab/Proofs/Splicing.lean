import Crosstab.Proofs.Outcomes
import Crosstab.Proofs.Quoting
import Crosstab.Proofs.Rendering

/-!
# The statement that a pivot script runs

A pivot script carries the two halves of its final statement, and the template of a column, in
string literals. Two things make it run the statement that was meant.

- Every literal is read back as what was written into it (`Script.literal_of_spaced`). Its closing
  quote is its own because no piece of code that follows a literal starts with a quote, which would
  double it.
- The halves are cut so that columns go in between (`Query.head_columns`): with the generated
  columns spliced in, they are the rendering of the query that selects those columns.
-/

namespace Crosstab

/-! ## Scripts as one run of pieces -/

/-- The text that a piece carries. -/
def Piece.carried? : Piece → Option String
  | .carried text => some text
  | .code _ => none

namespace Script

/-- The pieces of a script from its first line to its last, line breaks included. -/
def pieces (script : Script) : List Piece := [Piece.code "\n"].intercalate script.lines

theorem renderLine_append (db : Database) (as bs : List Piece) :
    renderLine db (as ++ bs) = renderLine db as ++ renderLine db bs := by
  induction as with
  | nil => simp [renderLine]
  | cons piece as ih =>
      simp only [renderLine, List.cons_append, List.foldr_cons] at ih ⊢
      rw [ih, String.append_assoc]

theorem map_renderLine_codeLines (db : Database) (texts : List String) :
    (codeLines texts).map (renderLine db) = texts := by
  have hline (text : String) : renderLine db [.code text] = text := String.append_empty
  rw [codeLines, List.map_map]
  exact (List.map_congr_left fun text _ => hline text).trans (List.map_id texts)

theorem render_eq (script : Script) (db : Database) :
    script.render db = renderLine db script.pieces := by
  obtain ⟨lines⟩ := script
  simp only [render, pieces]
  induction lines with
  | nil => rfl
  | cons line lines ih =>
      cases lines with
      | nil => simp
      | cons next lines =>
          rw [List.map_cons, List.map_cons, String.intercalate_cons_cons, ← List.map_cons, ih,
            List.intercalate_cons_cons, renderLine_append, renderLine_append]
          rfl

theorem carried_eq (script : Script) :
    script.carried = script.lines.flatten.filterMap Piece.carried? := by
  unfold carried
  congr 1

/-- Line breaks carry nothing. -/
theorem carried_pieces (script : Script) :
    script.pieces.filterMap Piece.carried? = script.carried := by
  rw [carried_eq, pieces, filterMap_intercalate rfl, List.filterMap_flatten]
  rfl

/-! ## Literals that end where they were ended -/

/-- Whether a text can follow a literal: its first character is no quote. -/
def severs (text : String) : Bool := text.toList.head?.any (· != '\'')

/-- Whether the first piece is code that can follow a literal. -/
def severed : List Piece → Bool
  | .code text :: _ => severs text
  | _ => false

/-- Whether each carried text is followed by code that can follow a literal. -/
def spaced : List Piece → Bool
  | [] => true
  | .code _ :: rest => spaced rest
  | .carried _ :: rest => severed rest && spaced rest

theorem severed_append {as : List Piece} (h : severed as = true) (bs : List Piece) :
    severed (as ++ bs) = true := by
  cases as with
  | nil => cases h
  | cons piece as =>
      cases piece with
      | code text => exact h
      | carried text => cases h

theorem spaced_append {as bs : List Piece} (ha : spaced as = true) (hb : spaced bs = true) :
    spaced (as ++ bs) = true := by
  induction as with
  | nil => exact hb
  | cons piece as ih =>
      cases piece with
      | code text => exact ih ha
      | carried text =>
          rw [spaced, Bool.and_eq_true] at ha
          rw [List.cons_append, spaced, Bool.and_eq_true]
          exact ⟨severed_append ha.1 bs, ih ha.2⟩

theorem spaced_suffix {as bs : List Piece} (h : spaced (as ++ bs) = true) : spaced bs = true := by
  induction as with
  | nil => exact h
  | cons piece as ih =>
      cases piece with
      | code text => exact ih h
      | carried text =>
          rw [List.cons_append, spaced, Bool.and_eq_true] at h
          exact ih h.2

theorem spaced_pieces {script : Script} (h : ∀ line ∈ script.lines, spaced line = true) :
    spaced script.pieces = true := by
  obtain ⟨lines⟩ := script
  simp only [pieces] at h ⊢
  induction lines with
  | nil => rfl
  | cons line lines ih =>
      rw [List.forall_mem_cons] at h
      cases lines with
      | nil =>
          rw [List.intercalate_singleton]
          exact h.1
      | cons next lines =>
          rw [List.intercalate_cons_cons]
          exact spaced_append (spaced_append h.1 rfl) (ih h.2)

theorem spaced_codeLines (texts : List String) :
    ∀ line ∈ codeLines texts, spaced line = true := by
  intro line hline
  obtain ⟨text, -, rfl⟩ := List.mem_map.mp hline
  rfl

theorem severed_head? {db : Database} {pieces : List Piece} (h : severed pieces = true) :
    (renderLine db pieces).toList.head? ≠ some '\'' := by
  cases pieces with
  | nil => cases h
  | cons piece pieces =>
      cases piece with
      | carried text => cases h
      | code text =>
          change severs text = true at h
          have hall := starts_append h (renderLine db pieces)
          intro hquote
          have hlist : (renderLine db (.code text :: pieces)).toList =
              (text ++ renderLine db pieces).toList := rfl
          rw [hlist] at hquote
          rw [hquote] at hall
          cases hall

/-- A carried text is read back from its opening quote up to the quote that the script wrote after
it, whatever characters it has. -/
theorem literal_of_spaced {script : Script} (db : Database) (h : spaced script.pieces = true)
    {before after : List Piece} {text : String}
    (hpieces : script.pieces = before ++ .carried text :: after) :
    db.readLiteral (renderLine db (.carried text :: after)).toList =
      some (text.toList, (renderLine db after).toList) := by
  rw [hpieces] at h
  have hafter := spaced_suffix h
  rw [spaced, Bool.and_eq_true] at hafter
  have hlist : (renderLine db (.carried text :: after)).toList =
      (db.quoteLiteral text).toList ++ (renderLine db after).toList := by
    rw [← String.toList_append]
    rfl
  rw [hlist]
  -- A quote after the closing one would be read as a doubled one.
  exact db.readLiteral_quoteLiteral text (severed_head? hafter.1)

/-! ## The four scripts -/

theorem spaced_overCensus (db : Database) (plan : PivotPlan) {selectList : List Piece}
    (h : spaced selectList = true) : spaced (overCensus db plan selectList) = true :=
  spaced_append (show spaced (.code _ :: selectList) = true from h) rfl

theorem spaced_sqlServer (plan : PivotPlan) (overAxis : Bool) :
    spaced (sqlServer plan overAxis).pieces = true := by
  refine spaced_pieces ?_
  simp only [sqlServer, List.forall_mem_append, List.forall_mem_cons]
  refine ⟨spaced_codeLines _, rfl, ?_, rfl, rfl, by simp⟩
  exact spaced_append (spaced_overCensus _ _ rfl) rfl

theorem spaced_mySql (config : Config) (plan : PivotPlan) (overAxis : Bool) :
    spaced (mySql config plan overAxis).pieces = true := by
  refine spaced_pieces ?_
  simp only [mySql, List.forall_mem_append, List.forall_mem_cons]
  -- The name of the session variable is left open, so the code around it is not a closed term.
  generalize (if overAxis then "@columnsSelectFromDataset" else "@columnsSelectCases") = var
  refine ⟨⟨rfl, spaced_codeLines _⟩, rfl, ?_, ?_, rfl, rfl, rfl, by simp⟩
  · refine spaced_append (spaced_overCensus _ _ ?_) rfl
    simp only [spaced, severed, Bool.and_eq_true]
    exact ⟨rfl, starts_append rfl var, trivial⟩
  · simp only [spaced, severed, Bool.and_eq_true]
    exact ⟨starts_append (starts_append rfl var) _, rfl, trivial⟩

theorem spaced_postgres (config : Config) (plan : PivotPlan) :
    spaced (postgres config plan).pieces = true := by
  refine spaced_pieces ?_
  simp only [postgres, List.forall_mem_append, List.forall_mem_cons]
  refine ⟨spaced_codeLines _, rfl, rfl, rfl, rfl, ?_, rfl, rfl, rfl, rfl, rfl, by simp⟩
  exact spaced_append (spaced_overCensus _ _ rfl) rfl

theorem spaced_oracle (plan : PivotPlan) : spaced (oracle plan).pieces = true := by
  refine spaced_pieces ?_
  simp only [oracle, List.forall_mem_append, List.forall_mem_cons]
  refine ⟨spaced_codeLines _, rfl, rfl, rfl, rfl, ?_, rfl, rfl, rfl, rfl, rfl, by simp⟩
  refine spaced_append ?_ rfl
  show spaced (overCensus .oracle plan _) = true
  exact spaced_overCensus _ _ rfl

/-- What a script says ahead of the texts that run first. -/
def opening (config : Config) : Database → List (List Piece)
  | .mySql =>
    [[.code ("SET SESSION group_concat_max_len = " ++ toString config.groupConcatMaxLen ++ ";")]]
  | _ => []

/-- The texts that run first stand ahead of the census, and the other lines of a script are the same
whatever they are. -/
theorem lines_of_writer {config : Config} {db : Database} {write : PivotPlan → Bool → Script}
    (hwrite : writer? config db = some write) (plan : PivotPlan) (overAxis : Bool) :
    ∃ rest,
      (∀ texts, (write { plan with preSelect := texts } overAxis).lines =
        opening config db ++ codeLines texts ++ rest) ∧
      ∃ line ∈ rest, Piece.code (plan.censusOpening db) ∈ line := by
  refine ⟨(write { plan with preSelect := [] } overAxis).lines.drop (opening config db).length,
    ?_, ?_⟩
  · intro texts
    cases db <;> cases hwrite <;> rfl
  -- The census has a line of its own, but not at one place in all four scripts.
  · cases db with
    | sqlServer =>
        cases hwrite
        exact ⟨_, .tail _ (.head _), .head _⟩
    | mySql =>
        cases hwrite
        exact ⟨_, .tail _ (.head _), .head _⟩
    | postgres =>
        cases hwrite
        exact ⟨_, .tail _ (.tail _ (.tail _ (.tail _ (.head _)))), .head _⟩
    | oracle =>
        cases hwrite
        exact ⟨_, .tail _ (.tail _ (.tail _ (.tail _ (.head _)))), .tail _ (.head _)⟩
    | sqlite => cases hwrite

/-- Whatever the plan, a script can be cut into literals again. -/
theorem spaced_of_writer {config : Config} {db : Database} {write : PivotPlan → Bool → Script}
    (h : writer? config db = some write) (plan : PivotPlan) (overAxis : Bool) :
    spaced (write plan overAxis).pieces = true := by
  cases db with
  | sqlServer =>
      cases h
      exact spaced_sqlServer plan overAxis
  | mySql =>
      cases h
      exact spaced_mySql config plan overAxis
  | postgres =>
      cases h
      exact spaced_postgres config plan
  | oracle =>
      cases h
      exact spaced_oracle plan
  | sqlite => cases h

end Script

/-- The texts that the script of a plan carries. PostgreSQL replaces a view before the statement
can be read through it. -/
def PivotPlan.texts (plan : PivotPlan) (config : Config) (db : Database) : List String :=
  let view := db.quoteIdent config.pivotView
  match db with
  | .postgres => [plan.column.opening, plan.column.middle, "DROP VIEW IF EXISTS " ++ view,
      "CREATE TEMP VIEW " ++ view ++ " AS\n" ++ plan.head, plan.tail]
  | _ => [plan.column.opening, plan.column.middle, plan.head, plan.tail]

theorem Script.carried_codeLines (texts : List String) :
    (codeLines texts).flatten.filterMap Piece.carried? = [] := by
  induction texts with
  | nil => rfl
  | cons text texts ih => exact ih

theorem Script.carried_of_writer {config : Config} {db : Database}
    {write : PivotPlan → Bool → Script} (h : Script.writer? config db = some write)
    (plan : PivotPlan) (overAxis : Bool) :
    (write plan overAxis).carried = plan.texts config db := by
  rw [carried_eq]
  cases db with
  | sqlServer =>
      cases h
      simp only [sqlServer, List.flatten_append, List.filterMap_append, carried_codeLines]
      rfl
  | mySql =>
      cases h
      simp only [mySql, List.flatten_cons, List.flatten_append, List.filterMap_append,
        carried_codeLines]
      rfl
  | postgres =>
      cases h
      simp only [postgres, List.flatten_append, List.filterMap_append, carried_codeLines]
      rfl
  | oracle =>
      cases h
      simp only [oracle, List.flatten_append, List.filterMap_append, carried_codeLines]
      rfl
  | sqlite => cases h

/-! ## Columns between the halves -/

/-- The column of every value begins with the separator of a select list. -/
theorem ColumnTemplate.column_eq {template : ColumnTemplate} {opening : String}
    (h : template.opening = ", " ++ opening) (db : Database) (value : String) :
    template.column db value =
      ", " ++ (opening ++ db.quoteLiteral value ++ template.middle ++ db.quoteIdent value) := by
  simp only [ColumnTemplate.column, h, String.append_assoc]

theorem begins_append {start s : String} (h : ∃ rest, s = start ++ rest) (t : String) :
    ∃ rest, s ++ t = start ++ rest := by
  obtain ⟨rest, rfl⟩ := h
  exact ⟨rest ++ t, String.append_assoc⟩

namespace ColumnTemplate

theorem ofFilter_opening (aggregate pivotExpr : String) :
    ∃ opening, (ofFilter aggregate pivotExpr).opening = ", " ++ opening :=
  begins_append (begins_append (begins_append ⟨_, rfl⟩ _) _) _

theorem ofCondition_opening (function keyword pivotExpr operand : String) :
    ∃ opening, (ofCondition function keyword pivotExpr operand).opening = ", " ++ opening :=
  begins_append (begins_append (begins_append (begins_append (begins_append ⟨_, rfl⟩ _) _) _) _) _

theorem forRows_opening {db : Database} {pivotExpr : String} {count : Line}
    {template : ColumnTemplate} (h : forRows db pivotExpr count = .ok template) :
    ∃ opening, template.opening = ", " ++ opening := by
  unfold forRows at h
  split at h
  · cases h
    exact ofFilter_opening _ _
  · cases hcall : count.call? with
    | none =>
        rw [hcall] at h
        cases h
    | some call =>
        rw [hcall] at h
        cases h
        exact ofCondition_opening _ _ _ _

theorem forDataset_opening (db : Database) (pivotName countName : String) :
    ∃ opening, (forDataset db pivotName countName).opening = ", " ++ opening := by
  unfold forDataset
  dsimp only
  split
  · exact ofFilter_opening _ _
  · exact ofCondition_opening _ _ _ _

end ColumnTemplate

/-! ## The headline -/

/-- The plan of a request in a shape with a pivot, and the query that its halves are cut from. What
has to run before the query is the script's, not the query's. -/
inductive Planned (config : Config) (db : Database) (request : Request) :
    Shape → PivotPlan → Query → Prop where
  | rows {plan : PivotPlan} {pivotSelect header : Line}
      (plan_eq : PivotPlan.ofRows db request = .ok plan)
      (pivot_eq : request.pivotSelect? = some pivotSelect)
      (header_eq : request.find? .select .ordinary = some header) :
      Planned config db request .pivot plan
        (PivotPlan.rowQuery request header pivotSelect.expression)
  | axis {plan : PivotPlan} {spec : AxisSpec} {axisPlan : AxisPlan}
      (spec_eq : request.axis = some spec)
      (plan_eq : PivotPlan.ofAxis db (Calendar.ofAxis config db spec) config.axisAlias request =
        .ok plan)
      (axis_eq : AxisPlan.ofRequest db request .axisPivot = .ok axisPlan) :
      Planned config db request .axisPivot plan
        (PivotPlan.axisQuery db (Calendar.ofAxis config db spec) config.axisAlias axisPlan)

/-- The halves and the template of a plan are those of its query. -/
theorem Planned.spliced {config : Config} {db : Database} {request : Request} {shape : Shape}
    {plan : PivotPlan} {query : Query} (h : Planned config db request shape plan query) :
    query.preSelect = [] ∧ query.select ≠ [] ∧ plan.head = query.head db ∧
      plan.tail = query.tail db ∧ ∃ opening, plan.column.opening = ", " ++ opening := by
  cases h with
  | rows plan_eq pivot_eq header_eq =>
      obtain ⟨pivotSelect, count, header, values, template, hpivot, -, hheader, -, htemplate,
        rfl⟩ := PivotPlan.ofRows_ok plan_eq
      rw [pivot_eq] at hpivot
      rw [header_eq] at hheader
      cases hpivot
      cases hheader
      exact ⟨rfl, List.cons_ne_nil _ _, rfl, rfl, ColumnTemplate.forRows_opening htemplate⟩
  | axis spec_eq plan_eq axis_eq =>
      obtain ⟨pivotSelect, axisPlan, pivotName, values, -, haxis, -, -, rfl⟩ :=
        PivotPlan.ofAxis_ok plan_eq
      rw [axis_eq] at haxis
      cases haxis
      exact ⟨rfl, List.cons_ne_nil _ _, rfl, rfl, ColumnTemplate.forDataset_opening _ _ _⟩

/-- What ties a script to the statement that it runs. -/
structure Script.Dynamic (config : Config) (db : Database) (plan : PivotPlan) (query : Query)
    (script : Script) : Prop where
  /-- The script carries the template and the halves, and nothing else of the statement. -/
  texts : script.pieces.filterMap Piece.carried? = plan.texts config db
  /-- Each text that it carries is read from its opening quote to its own closing quote. -/
  literal : ∀ before text after, script.pieces = before ++ .carried text :: after →
    db.readLiteral (renderLine db (.carried text :: after)).toList =
      some (text.toList, (renderLine db after).toList)
  /-- The query runs nothing before its `SELECT`. -/
  bare : query.preSelect = []
  /-- With the columns of any values between its halves, the statement is the query that selects
  those columns too. -/
  spliced : ∃ item : String → String,
    (∀ value, plan.column.column db value = ", " ++ item value) ∧
    ∀ values : List String,
      plan.head ++ String.join (values.map (plan.column.column db)) ++ plan.tail =
        { query with select := query.select ++ values.map item }.render db

theorem Planned.dynamic {config : Config} {db : Database} {request : Request} {shape : Shape}
    {plan : PivotPlan} {query : Query} {write : PivotPlan → Bool → Script}
    (h : Planned config db request shape plan query)
    (hwrite : Script.writer? config db = some write) (overAxis : Bool) :
    (write plan overAxis).Dynamic config db plan query := by
  obtain ⟨hbare, hselect, hhead, htail, opening, hopening⟩ := h.spliced
  refine ⟨?_, ?_, hbare, ?_⟩
  · rw [Script.carried_pieces, Script.carried_of_writer hwrite]
  · intro before text after hpieces
    exact Script.literal_of_spaced db (Script.spaced_of_writer hwrite plan overAxis) hpieces
  · have hcolumn := plan.column.column_eq hopening db
    refine ⟨_, hcolumn, fun values => ?_⟩
    have hmap : values.map (plan.column.column db) =
        (values.map fun value => opening ++ db.quoteLiteral value ++ plan.column.middle ++
          db.quoteIdent value).map (", " ++ ·) := by
      rw [List.map_map]
      exact List.map_congr_left fun value _ => hcolumn value
    rw [hmap, hhead, htail, query.head_columns db hselect]
    rfl

/-- **A pivot script runs the statement that was meant.** Whatever a request holds, each literal of
the script that is built for it stands for exactly the text put into it; and the template, the two
halves and any list of values make up the query of the plan with a column for each value. -/
theorem build_dynamic {config : Config} {db : Database} {request : Request} {sql : String}
    (hsql : build config db request = .ok sql)
    (hpivot : (Shape.classify request).usesPivot = true) :
    ∃ plan query write,
      Planned config db request (Shape.classify request) plan query ∧
      Script.writer? config db = some write ∧
      sql = Script.renderLine db (write plan (Shape.classify request).usesAxis).pieces ∧
      (write plan (Shape.classify request).usesAxis).Dynamic config db plan query := by
  have hshape := build_ok hsql
  cases hclass : Shape.classify request with
  | plain =>
      rw [hclass] at hpivot
      cases hpivot
  | axis =>
      rw [hclass] at hpivot
      cases hpivot
  | pivot =>
      rw [hclass] at hshape
      obtain ⟨write, plan, hwrite, hplan, rfl⟩ := Build.pivot_ok hshape
      obtain ⟨pivotSelect, -, header, -, -, hselect, -, hheader, -⟩ := PivotPlan.ofRows_ok hplan
      have hplanned : Planned config db request .pivot plan _ := .rows hplan hselect hheader
      exact ⟨plan, _, write, hplanned, hwrite, Script.render_eq _ db, hplanned.dynamic hwrite _⟩
  | axisPivot =>
      rw [hclass] at hshape
      obtain ⟨write, spec, plan, hwrite, hspec, hplan, rfl⟩ := Build.axisPivot_ok hshape
      obtain ⟨-, axisPlan, -, -, -, haxis, -⟩ := PivotPlan.ofAxis_ok hplan
      have hplanned : Planned config db request .axisPivot plan _ := .axis hspec hplan haxis
      exact ⟨plan, _, write, hplanned, hwrite, Script.render_eq _ db, hplanned.dynamic hwrite _⟩

/-- Quotes and backslashes in the row header and in the pivot expression, on the target that reads
both as escapes. -/
theorem build_dynamic_escapes :
    let request : Request := ⟨[⟨"'\\it''s'", .select, .ordinary⟩, ⟨"p['\\']", .select, .pivot⟩,
      ⟨"COUNT(*)", .select, .count⟩, ⟨"t", .table, .ordinary⟩], none⟩
    ∃ sql plan query write,
      build {} .mySql request = .ok sql ∧
      (Shape.classify request).usesPivot = true ∧
      Planned {} .mySql request .pivot plan query ∧
      Script.writer? {} .mySql = some write ∧
      sql = Script.renderLine .mySql (write plan false).pieces ∧
      (write plan false).Dynamic {} .mySql plan query := by
  intro request
  have hpivot : (Shape.classify request).usesPivot = true := by decide
  obtain ⟨sql, hsql⟩ : ∃ sql, build {} .mySql request = .ok sql := ⟨_, rfl⟩
  obtain ⟨plan, query, write, hplanned, hwrite, hrender, hdynamic⟩ := build_dynamic hsql hpivot
  exact ⟨sql, plan, query, write, hsql, hpivot, hplanned, hwrite, hrender, hdynamic⟩

end Crosstab
