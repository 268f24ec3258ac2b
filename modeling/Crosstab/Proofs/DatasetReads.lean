import Crosstab.Proofs.ColumnReads
import Crosstab.Proofs.PivotColumns

/-!
# What the outer statement reads

The outer statement over a date axis joins a dataset and reads columns of it. Each text that it is
made of is read once for itself: the bucket and its alias read nothing, the condition of the join
reads the name of the axis, and the columns read the names of the count and of the pivot
(`OuterStatement`). With `BinnedColumns` this says that the two sides agree: what is read is what
the dataset selects (`dataset_names_agree`).

What is left out is not the outer statement's own reading: the dataset is a statement of its own
inside of its parentheses, the calendar stands ahead under `WITH`, where there is no dataset yet, and
the other lines before and behind are the caller's and the settings of the target.
-/

namespace Crosstab

/-! ## The texts of an outer statement -/

namespace Database

variable (db : Database)

section
variable (increment : Increment)

theorem silent_bucket : Cursor.start.silent (db.datePart increment "axis.dt").toList = true := by
  cases db <;> cases increment <;> decide +kernel

theorem run_bucket : Cursor.start.run (db.datePart increment "axis.dt").toList = .start := by
  cases db <;> cases increment <;> decide +kernel

theorem readsColumns_bucket : db.ReadsColumns (db.datePart increment "axis.dt") [] := by
  rw [ReadsColumns, db.columnsRead_silent (db.silent_bucket increment)]
  exact List.Perm.nil

/-- The bucket under an alias that is accepted. -/
theorem readsColumns_header {config : Config} (h : config.check = .ok ()) :
    db.ReadsColumns (db.datePart increment "axis.dt" ++ " AS " ++ config.axisAlias) [] := by
  have hundotted : '.' ∉ config.axisAlias.toList := by
    intro hdot
    have hplain := isPlain_axisAlias h
    simp only [Config.isPlainIdentifier, Bool.and_eq_true, List.all_eq_true] at hplain
    cases hplain.2 '.' hdot
  have hbucket := db.columnsRead_own (db.silent_bucket increment) (db.run_bucket increment)
    (" AS " ++ config.axisAlias)
  have hword : db.columnsRead .start (" AS " ++ config.axisAlias).toList =
      db.columnsRead .start config.axisAlias.toList := db.columnsRead_own rfl rfl _
  rw [ReadsColumns, String.append_assoc, hbucket, hword, db.columnsRead_undotted hundotted]
  exact List.Perm.nil

end

theorem readsColumns_countColumn (plan : AxisPlan) :
    db.ReadsColumns (plan.countColumn db) [plan.names.count] :=
  List.Perm.of_eq (db.columnsRead_column_empty 0 _)

/-- What joins the dataset reads the name that the axis has in it. -/
theorem readsColumns_joinCondition {plan : AxisPlan} {increment : Increment}
    (hbucket : plan.bucket = db.datePart increment "axis.dt") :
    db.ReadsColumns (plan.joinCondition db) [plan.names.join] := by
  have hopen : " dataset ON dataset." = " dataset ON " ++ "dataset." := by decide +kernel
  have hcondition : plan.joinCondition db = " dataset ON " ++ ("dataset." ++
      db.quoteIdent plan.names.join ++ (" = " ++ db.datePart increment "axis.dt")) := by
    unfold AxisPlan.joinCondition
    rw [hbucket, hopen]
    simp only [String.append_assoc]
  have hahead (t : String) : db.columnsRead .start (" dataset ON " ++ t).toList =
      db.columnsRead ⟨0, .plain⟩ t.toList := db.columnsRead_own rfl rfl t
  have hvalue : db.columnsRead ⟨0, .plain⟩ (db.datePart increment "axis.dt").toList = [] :=
    db.columnsRead_silent (db.silent_bucket increment)
  rw [ReadsColumns, hcondition, hahead, columnsRead_comparison, hvalue]
  exact List.Perm.refl _

/-- The end of an aggregate and the name that it gets. -/
theorem columnsRead_named (name : String) :
    db.columnsRead ⟨1, .plain⟩ (")" ++ (" AS " ++ db.quoteIdent name)).toList = [] := by
  rw [db.columnsRead_own (l := ⟨0, .plain⟩) rfl rfl,
    db.columnsRead_own (l := ⟨0, .plain⟩) rfl rfl, db.columnsRead_quoteIdent_empty]

/-- The column of a pivot value reads the name of the count and the name of the pivot. -/
theorem readsColumns_item (pivotName countName value : String) :
    db.ReadsColumns ((ColumnTemplate.forDataset db pivotName countName).item db value)
      [countName, pivotName] := by
  cases hdb : db.hasFilteredAggregates with
  | true =>
      have hitem : (ColumnTemplate.forDataset db pivotName countName).item db value =
          "MAX(" ++ ("dataset." ++ db.quoteIdent countName ++ (")" ++ (" FILTER (WHERE " ++
            ("dataset." ++ db.quoteIdent pivotName ++ (" = " ++ (db.quoteLiteral value ++
              (")" ++ (" AS " ++ db.quoteIdent value)))))))) := by
        rw [ColumnTemplate.forDataset_filter hdb,
          ColumnTemplate.item_eq (ColumnTemplate.column_ofFilter ..)]
        simp only [ColumnTemplate.filtered, aliased, String.append_assoc]
      rw [ReadsColumns, hitem, db.columnsRead_own (l := ⟨1, .plain⟩) rfl rfl,
        db.columnsRead_column 1 (detached_append rfl _),
        db.columnsRead_own (l := ⟨0, .plain⟩) rfl rfl,
        db.columnsRead_own (l := ⟨1, .plain⟩) rfl rfl, db.columnsRead_comparison,
        db.columnsRead_quoteLiteral 1 (detached_append rfl _), db.columnsRead_named]
      exact List.Perm.refl _
  | false =>
      have hitem : (ColumnTemplate.forDataset db pivotName countName).item db value =
          "MAX" ++ ("(" ++ ("CASE WHEN " ++ ("dataset." ++ db.quoteIdent pivotName ++ (" = " ++
            (db.quoteLiteral value ++ (" THEN " ++ ("dataset." ++ db.quoteIdent countName ++
              (" ELSE NULL END" ++ (")" ++ (" AS " ++ db.quoteIdent value)))))))))) := by
        rw [ColumnTemplate.forDataset_condition hdb,
          ColumnTemplate.item_eq (ColumnTemplate.column_ofCondition ..)]
        simp only [ColumnTemplate.conditioned, aliased, String.append_assoc, String.empty_append]
      rw [ReadsColumns, hitem, db.columnsRead_own (l := ⟨0, .plain⟩) rfl rfl,
        db.columnsRead_own (l := ⟨1, .plain⟩) rfl rfl,
        db.columnsRead_own (l := ⟨1, .plain⟩) rfl rfl, db.columnsRead_comparison,
        db.columnsRead_quoteLiteral 1 (detached_append rfl _),
        db.columnsRead_own (l := ⟨1, .plain⟩) rfl rfl,
        db.columnsRead_column 1 (detached_append rfl _),
        db.columnsRead_own (l := ⟨1, .plain⟩) rfl rfl, db.columnsRead_named]
      -- The condition comes first here, and with it the pivot.
      exact List.Perm.swap ..

end Database

/-! ## The outer statement -/

/-- A statement over a date axis, as far as it can read the dataset of a request. It selects the
bucket under the alias of the settings and then `columns`, it joins the dataset under a condition,
and it groups and orders by the bucket. Apart from the dataset itself, the condition reads the name
of the axis, each column reads `wanted`, and nothing else reads a column at all; and the dataset
selects every name that is read. -/
structure OuterStatement (config : Config) (db : Database) (request : Request)
    (increment : Increment) (names : DatasetNames) (columns wanted : List String) (query : Query) :
    Prop where
  select : query.select =
    (db.datePart increment "axis.dt" ++ " AS " ++ config.axisAlias) :: columns
  join : ∃ condition, query.tables = [calendarName ++ " axis", "LEFT JOIN " ++ "(" ++
      ("\n" ++ (AxisPlan.datasetQuery db request increment names).render db ++ "\n") ++ ")" ++
        condition] ∧
    db.ReadsColumns condition [names.join]
  predicates : query.filters = [] ∧ query.having = []
  order : ∀ item ∈ query.groupBy ++ query.orderBy, item = db.datePart increment "axis.dt"
  bucket : db.ReadsColumns (db.datePart increment "axis.dt") []
  header : config.check = .ok () →
    db.ReadsColumns (db.datePart increment "axis.dt" ++ " AS " ++ config.axisAlias) []
  column : ∀ column ∈ columns, db.ReadsColumns column wanted
  selected : ∀ name ∈ names.join :: wanted, AxisPlan.DatasetSelects db request increment names name

section
variable {db : Database} {request : Request} {shape : Shape} {names : DatasetNames}
variable (haxis : ∀ line, request.axisSelect? = some line → Closed line.text)
variable (hcount : ∀ line, request.countSelect? = some line → Closed line.text)
variable (hpivot : ∀ line, request.pivotSelect? = some line → Closed line.text)
variable (hnames : DatasetNames.resolve request shape = .ok names)
include hnames

/-- The names do not depend on the shape that they are resolved for. -/
theorem plan_parts {other : Shape} {plan : AxisPlan}
    (hplan : AxisPlan.ofRequest db request other = .ok plan) :
    plan.names = names ∧ ∃ spec, request.axis = some spec ∧
      plan.bucket = db.datePart spec.increment "axis.dt" ∧
      plan.dataset = (AxisPlan.datasetQuery db request spec.increment names).render db := by
  obtain ⟨spec, axisSelect, names', hspec, -, hnames', rfl⟩ := AxisPlan.ofRequest_ok hplan
  have hother : DatasetNames.resolve request other = .ok names :=
    DatasetNames.resolve_ok.mpr (DatasetNames.resolve_ok.mp hnames)
  rw [hother] at hnames'
  cases hnames'
  exact ⟨rfl, spec, hspec, rfl, rfl⟩

include haxis hcount hpivot

/-- The query is stated with any lines ahead of it, since a script runs those on their own. -/
theorem outerStatement {other : Shape} {plan : AxisPlan}
    (hplan : AxisPlan.ofRequest db request other = .ok plan) {spec : AxisSpec}
    (hspec : request.axis = some spec) {columns wanted : List String}
    (hcolumns : ∀ column ∈ columns, db.ReadsColumns column wanted)
    (hwanted : ∀ name ∈ wanted, name = names.count ∨ names.pivot = some name) (config : Config)
    (calendar : Calendar) (grouped : Bool) (preSelect : List String) :
    OuterStatement config db request spec.increment names columns wanted
      { plan.statement db calendar config.axisAlias columns grouped with
        preSelect := preSelect } := by
  have hbinned : BinnedColumns db request spec.increment names :=
    binnedColumns_of_closed haxis hcount hpivot hnames
  obtain ⟨rfl, spec', hspec', hbucket, hdataset⟩ := plan_parts hnames hplan
  rw [hspec] at hspec'
  cases hspec'
  constructor
  · simp only [AxisPlan.statement, hbucket]
  · refine ⟨_, ?_, db.readsColumns_joinCondition hbucket⟩
    simp only [AxisPlan.statement]
    rw [AxisPlan.joinClause_eq, hdataset]
  · exact ⟨rfl, rfl⟩
  · cases grouped <;> simp [AxisPlan.statement, hbucket]
  · exact db.readsColumns_bucket spec.increment
  · exact db.readsColumns_header spec.increment
  · exact hcolumns
  · rintro name (_ | ⟨_, hname⟩)
    · exact hbinned.selects (Or.inl rfl)
    · exact hbinned.selects (Or.inr (hwanted name hname))

variable {config : Config} {sql : String}

theorem outerStatement_axis (h : Build.axis config db request = .ok sql) :
    ∃ spec plan query, request.axis = some spec ∧ AxisPlan.ofRequest db request .axis = .ok plan ∧
      query = plan.statement db (Calendar.ofAxis config db spec) config.axisAlias
        [plan.countColumn db] false ∧
      sql = query.render db ∧
      OuterStatement config db request spec.increment names [plan.countColumn db] [names.count]
        query := by
  obtain ⟨spec, plan, hspec, hplan, rfl⟩ := Build.axis_ok h
  have hreads := db.readsColumns_countColumn plan
  rw [(plan_parts hnames hplan).1] at hreads
  exact ⟨spec, plan, _, hspec, hplan, rfl, rfl, outerStatement haxis hcount hpivot hnames hplan
    hspec (List.forall_mem_singleton.mpr hreads) (List.forall_mem_singleton.mpr (Or.inl rfl)) config
    (Calendar.ofAxis config db spec) false _⟩

theorem outerStatement_axisPivot (h : Build.axisPivot config db request = .ok sql) :
    ∃ write spec axisPlan plan pivot, Script.writer? config db = some write ∧
      request.axis = some spec ∧ AxisPlan.ofRequest db request .axisPivot = .ok axisPlan ∧
      PivotPlan.ofAxis db (Calendar.ofAxis config db spec) config.axisAlias request = .ok plan ∧
      sql = (write plan true).render db ∧ names.pivot = some pivot ∧
      plan.column = .forDataset db pivot names.count ∧
      ∀ values : List String, ∃ query,
        query = { axisPlan.statement db (Calendar.ofAxis config db spec) config.axisAlias
          (values.map (plan.column.item db)) true with preSelect := [] } ∧
        plan.head ++ String.join (values.map (plan.column.column db)) ++ plan.tail =
          query.render db ∧
        OuterStatement config db request spec.increment names
          (values.map (plan.column.item db)) [names.count, pivot] query := by
  obtain ⟨write, spec, plan, hwrite, hspec, hplan, rfl⟩ := Build.axisPivot_ok h
  obtain ⟨_, axisPlan, pivot, _, -, haxisPlan, hname, -, hparts⟩ := PivotPlan.ofAxis_ok hplan
  have hplanned := Planned.axis hspec hplan haxisPlan
  obtain ⟨item, hcolumn, hspliced⟩ := (hplanned.dynamic hwrite true).spliced
  obtain rfl : plan.column.item db = item :=
    funext fun value => ColumnTemplate.item_eq (hcolumn value)
  obtain ⟨rfl, -⟩ := plan_parts hnames haxisPlan
  have htemplate : plan.column = .forDataset db pivot axisPlan.names.count := by
    rw [hparts]
  refine ⟨write, spec, axisPlan, plan, pivot, hwrite, hspec, haxisPlan, hplan, rfl, hname,
    htemplate, fun values => ⟨_, rfl, hspliced values, ?_⟩⟩
  refine outerStatement haxis hcount hpivot hnames haxisPlan hspec ?_ ?_ config
    (Calendar.ofAxis config db spec) true []
  · intro column hmem
    obtain ⟨value, -, rfl⟩ := List.mem_map.mp hmem
    rw [htemplate]
    exact db.readsColumns_item pivot _ value
  · rintro name (_ | ⟨_, _ | ⟨_, ⟨⟩⟩⟩)
    · exact Or.inl rfl
    · exact Or.inr hname

variable (db) in
/-- **The outer statement and the dataset agree on names.** Naming the columns of the dataset does
not change what they are called, each of the three named selects is read as the expression and the
name that it was pasted from, and no other line is touched. So each column that an outer statement
reads from the dataset is one that the dataset selects, with and without columns for the values of a
pivot. -/
theorem dataset_names_agree (increment : Increment) :
    DatasetNames.resolve (request.binned db increment names) shape = .ok names ∧
    BinnedColumns db request increment names ∧
    (request.binned db increment names).lines.length = request.lines.length ∧
    (∀ (i : Nat) (line : Line), request.lines[i]? = some line →
      ∃ binned, (request.binned db increment names).lines[i]? = some binned ∧
        binned.slot = line.slot ∧ binned.role = line.role ∧
        (line.is .groupBy .axis = true → binned.text = db.datePart increment line.expression) ∧
        (line.is .select .axis = false → line.is .groupBy .axis = false →
          line.is .select .count = false → line.is .select .pivot = false → binned = line)) ∧
    (∀ name, name = names.join ∨ name = names.count ∨ names.pivot = some name →
      AxisPlan.DatasetSelects db request increment names name) ∧
    (∀ plan, AxisPlan.ofRequest db request shape = .ok plan →
      plan.names = names ∧ ∃ spec, request.axis = some spec ∧
        plan.bucket = db.datePart spec.increment "axis.dt" ∧
        plan.dataset = (AxisPlan.datasetQuery db request spec.increment names).render db) ∧
    ∀ config sql,
      (Build.axis config db request = .ok sql →
        ∃ spec plan query, request.axis = some spec ∧
          AxisPlan.ofRequest db request .axis = .ok plan ∧
          query = plan.statement db (Calendar.ofAxis config db spec) config.axisAlias
            [plan.countColumn db] false ∧
          sql = query.render db ∧
          OuterStatement config db request spec.increment names [plan.countColumn db]
            [names.count] query) ∧
      (Build.axisPivot config db request = .ok sql →
        ∃ write spec axisPlan plan pivot, Script.writer? config db = some write ∧
          request.axis = some spec ∧ AxisPlan.ofRequest db request .axisPivot = .ok axisPlan ∧
          PivotPlan.ofAxis db (Calendar.ofAxis config db spec) config.axisAlias request =
            .ok plan ∧
          sql = (write plan true).render db ∧ names.pivot = some pivot ∧
          plan.column = .forDataset db pivot names.count ∧
          ∀ values : List String, ∃ query,
            query = { axisPlan.statement db (Calendar.ofAxis config db spec) config.axisAlias
              (values.map (plan.column.item db)) true with preSelect := [] } ∧
            plan.head ++ String.join (values.map (plan.column.column db)) ++ plan.tail =
              query.render db ∧
            OuterStatement config db request spec.increment names
              (values.map (plan.column.item db)) [names.count, pivot] query) := by
  have hcolumns : BinnedColumns db request increment names :=
    binnedColumns_of_closed haxis hcount hpivot hnames
  refine ⟨hcolumns.resolve shape, hcolumns, List.length_map .., ?_, fun _ => hcolumns.selects,
    fun _ => plan_parts hnames, fun _ _ => ⟨outerStatement_axis haxis hcount hpivot hnames,
      outerStatement_axisPivot haxis hcount hpivot hnames⟩⟩
  intro i line hline
  obtain ⟨hslot, hrole⟩ := binLine_kind db increment names line
  refine ⟨binLine db increment names line, ?_, hslot, hrole, ?_, ?_⟩
  · simp [Request.binned, Request.mapLines, hline]
  · intro hgroup
    rw [binLine_axisGroupBy db increment names hgroup]
    rfl
  · exact binLine_other db increment names

end

/-- Names with a closing bracket, the word `AS`, a quote and a dot in them. -/
theorem dataset_names_agree_quoted :
    let request : Request := ⟨[⟨"CAST(o.at AS DATE) AS [a]]s AS b]", .select, .axis⟩,
      ⟨"COUNT(*) as \"n\"\"\"", .select, .count⟩, ⟨"t.[k.v]", .select, .pivot⟩,
      .plain .table "o", ⟨"CAST(o.at AS DATE)", .groupBy, .axis⟩,
      ⟨"t.[k.v]", .groupBy, .pivot⟩], some ⟨"'2020-01-01'", "'2020-12-31'", .year⟩⟩
    let names : DatasetNames := ⟨"a]s AS b", "n\"", some "k.v"⟩
    let ahead := "WITH dateAxis AS (\nSELECT @startDate AS dt\nUNION ALL\n" ++
      "SELECT DATEADD(YEAR, 1, dt) FROM dateAxis\nWHERE DATEADD(YEAR, 1, dt) <= @endDate\n)\n" ++
      "SELECT YEAR(axis.dt) AS joinDt, "
    let behind := "\nFROM dateAxis axis\nLEFT JOIN (\nSELECT YEAR(CAST(o.at AS DATE)) " ++
      "AS [a]]s AS b], COUNT(*) AS [n\"], t.[k.v] AS [k.v]\nFROM o\n" ++
      "GROUP BY YEAR(CAST(o.at AS DATE)), t.[k.v]\n" ++
      ") dataset ON dataset.[a]]s AS b] = YEAR(axis.dt)"
    DatasetNames.resolve request .axisPivot = .ok names ∧
      DatasetNames.resolve (request.binned .sqlServer .year names) .axisPivot = .ok names ∧
      (∃ sql plan query, Build.axis {} .sqlServer request = .ok sql ∧
        AxisPlan.ofRequest .sqlServer request .axis = .ok plan ∧ sql = query.render .sqlServer ∧
        OuterStatement {} .sqlServer request .year names [plan.countColumn .sqlServer] ["n\""]
          query ∧
        sql = "DECLARE @startDate DATE = '2020-01-01';\nDECLARE @endDate DATE = '2020-12-31';\n" ++
          ahead ++ "dataset.[n\"]" ++ behind ++
          "\nORDER BY YEAR(axis.dt)\nOPTION (MAXRECURSION 0)") ∧
      ∃ sql write plan query, Build.axisPivot {} .sqlServer request = .ok sql ∧
        Script.writer? {} .sqlServer = some write ∧ sql = (write plan true).render .sqlServer ∧
        plan.head ++ plan.column.column .sqlServer "x'" ++ plan.tail = query.render .sqlServer ∧
        OuterStatement {} .sqlServer request .year names [plan.column.item .sqlServer "x'"]
          ["n\"", "k.v"] query ∧
        query.render .sqlServer = ahead ++
          "MAX(CASE WHEN dataset.[k.v] = 'x''' THEN dataset.[n\"] ELSE NULL END) AS [x']" ++
          behind ++ "\nGROUP BY YEAR(axis.dt)\nORDER BY YEAR(axis.dt)" ++
          "\nOPTION (MAXRECURSION 0)" := by
  intro request names ahead behind
  have hnames : DatasetNames.resolve request .axisPivot = .ok names := by rfl
  have haxis : ∀ line, request.axisSelect? = some line → Closed line.text := by
    rintro line hline
    cases hline
    rfl
  have hcount : ∀ line, request.countSelect? = some line → Closed line.text := by
    rintro line hline
    cases hline
    rfl
  have hpivot : ∀ line, request.pivotSelect? = some line → Closed line.text := by
    rintro line hline
    cases hline
    rfl
  obtain ⟨hresolve, -, -, -, -, -, hbuilt⟩ :=
    dataset_names_agree .sqlServer haxis hcount hpivot hnames .year
  obtain ⟨plain, hplain⟩ : ∃ sql, Build.axis {} .sqlServer request = .ok sql := ⟨_, rfl⟩
  obtain ⟨pivot, hscript⟩ : ∃ sql, Build.axisPivot {} .sqlServer request = .ok sql := ⟨_, rfl⟩
  obtain ⟨_, axisPlan, query, hspec, haxisPlan, -, hquery, houter⟩ := (hbuilt {} plain).1 hplain
  cases hspec
  obtain ⟨write, _, _, plan, _, hwrite, hspec, -, hplan, hwritten, hname, -, hvalues⟩ :=
    (hbuilt {} pivot).2 hscript
  cases hspec
  cases hname
  obtain ⟨outer, -, hstatement, houter'⟩ := hvalues ["x'"]
  have hcolumn : String.join (["x'"].map (plan.column.column .sqlServer)) =
      plan.column.column .sqlServer "x'" := by simp
  rw [hcolumn] at hstatement
  refine ⟨hnames, hresolve, ⟨plain, axisPlan, query, hplain, haxisPlan, hquery, houter, ?_⟩,
    ⟨pivot, write, plan, outer, hscript, hwrite, hwritten, hstatement, houter', ?_⟩⟩
  · cases hplain
    decide +kernel
  · rw [← hstatement]
    cases hplan
    decide +kernel

end Crosstab
