import Crosstab.Proofs.RankingCap

/-!
# The census reads the rows that are pivoted

Two queries read the rows of a pivot: the census, which finds the values, and the statement or the
dataset that counts them. They are written apart. The census leaves lines out by role, the dataset
goes through binning and a range of slots, and the statement takes its slots as they are. They read
the same tables under the same predicates because validation lets no role but the ordinary one into
these slots (`Request.Placed.ordinary`), and nothing that is done to the lines of a dataset touches
an ordinary one (`sources_datasetQuery`).

The order by which the census ranks values and the order by which it caps them are one text.
-/

namespace Crosstab

/-! ## Slots of ordinary lines -/

/-- The slots between `SELECT` and `GROUP BY`, which say what rows are read. -/
def Slot.isSource (slot : Slot) : Bool := slot == .table || slot == .filter

theorem Slot.isSource_iff (slot : Slot) :
    slot.isSource = true ↔ slot = .table ∨ slot = .filter := by
  simp [isSource]

section
variable {request : Request} (hplaced : request.Placed) {slot : Slot}
  (hslot : slot.isSource = true)
include hplaced hslot

theorem Request.Placed.ordinary {line : Line} (hline : line ∈ request.linesIn slot) :
    line.role = .ordinary := by
  obtain ⟨hmem, heq⟩ := List.mem_filter.mp hline
  have hplace := hplaced line hmem
  obtain ⟨text, slot', role⟩ := line
  obtain rfl : slot' = slot := beq_iff_eq.mp heq
  rcases slot'.isSource_iff.mp hslot with rfl | rfl <;>
    cases role <;> first | rfl | cases hplace

theorem Request.Placed.census_filters (role : Role) (hrole : role ≠ .ordinary) :
    (request.linesIn slot).filter (·.role != role) = request.linesIn slot := by
  refine List.filter_eq_self.mpr fun line hline => ?_
  rw [hplaced.ordinary hslot hline]
  exact bne_iff_ne.mpr hrole.symm

end

section
variable {request : Request} (hplaced : request.Placed) (db : Database) (increment : Increment)
  (names : DatasetNames)
include hplaced

/-- Between `SELECT` and `HAVING` a dataset has the lines that were given, binned. -/
theorem filter_datasetLines {slot : Slot} (hslot : slot.allowsTopX = false)
    (hrange : Slot.select.rank ≤ slot.rank ∧ slot.rank ≤ Slot.having.rank) :
    ((((request.binned db increment names).linesBetween .select .having).filter
        (·.role != .topX)).filter fun line => line.role != .topX || line.slot == .orderBy).filter
          (·.slot == slot) = (request.linesIn slot).map (binLine db increment names) := by
  simp only [Request.linesBetween, Request.binned, Request.mapLines, List.filter_filter,
    List.filter_map]
  rw [hplaced.linesIn hslot, Request.uncappedIn, Request.linesIn, List.filter_filter]
  congr 1
  refine List.filter_congr fun line hmem => ?_
  obtain ⟨hslot', hrole'⟩ := binLine_kind db increment names line
  simp only [Function.comp_apply, hslot', hrole']
  cases hin : line.slot == slot with
  | false => simp
  | true =>
      rw [beq_iff_eq.mp hin]
      cases line.role <;> simp [hrange.1, hrange.2]

/-- A dataset reads its sources as they were given. -/
theorem sources_datasetQuery :
    (AxisPlan.datasetQuery db request increment names).tables = request.textsIn .table ∧
      (AxisPlan.datasetQuery db request increment names).filters = request.textsIn .filter := by
  have hlines {slot : Slot} (hslot : slot.isSource = true) :
      (request.linesIn slot).map (binLine db increment names) = request.linesIn slot := by
    refine (List.map_congr_left fun line hline => ?_).trans (List.map_id _)
    have hrole := hplaced.ordinary hslot hline
    obtain ⟨text, slot', role⟩ := line
    obtain rfl : role = .ordinary := hrole
    exact binLine_other db increment names (Bool.and_false _) (Bool.and_false _)
      (Bool.and_false _) (Bool.and_false _)
  constructor
  · exact congrArg (List.map Line.text)
      ((filter_datasetLines hplaced db increment names rfl (by decide)).trans (hlines rfl))
  · exact congrArg (List.map Line.text)
      ((filter_datasetLines hplaced db increment names rfl (by decide)).trans (hlines rfl))

end

/-! ## The census and the query that counts its values -/

/-- The query that reads the rows of a pivot, and the axis expression that it bins. Without an axis
it is the statement around the columns; with one it is the dataset that the statement joins. -/
inductive Consumer (db : Database) (request : Request) (plan : PivotPlan) :
    Shape → Query → Option String → Prop where
  | statement {header pivot : Line}
      (header_eq : request.find? .select .ordinary = some header)
      (pivot_eq : request.pivotSelect? = some pivot)
      (text : plan.head ++ plan.tail =
        (PivotPlan.rowQuery request header pivot.expression).render db) :
      Consumer db request plan .pivot (PivotPlan.rowQuery request header pivot.expression) none
  | dataset {spec : AxisSpec} {axis : Line} {names : DatasetNames} {after : String}
      (spec_eq : request.axis = some spec) (axis_eq : request.axisSelect? = some axis)
      (names_eq : DatasetNames.resolve request .axisPivot = .ok names)
      (text : plan.tail = AxisPlan.joinOpening ++ "(" ++
        ("\n" ++ (AxisPlan.datasetQuery db request spec.increment names).render db ++ "\n") ++
          ")" ++ after) :
      Consumer db request plan .axisPivot
        (AxisPlan.datasetQuery db request spec.increment names) (some axis.expression)

/-- The order by which a census ranks values, and by which it caps them. -/
def rankTexts (request : Request) (count pivot : Line) : List String :=
  if request.topXOrder.isEmpty then [count.expression ++ " DESC", pivot.expression ++ " ASC"]
  else request.topXOrder.map (·.text)

/-- A query that finds the values of a pivot in the rows that another query reads. -/
structure Finds (db : Database) (request : Request) (count pivot : Line) (axisExpr : Option String)
    (limit : Option Nat) (consumer query : Query) : Prop where
  tables : query.tables = consumer.tables
  filters : query.filters = consumer.filters ++ (pivot.expression ++ " IS NOT NULL") ::
    (axisExpr.map (· ++ " IS NOT NULL")).toList
  groupBy : query.groupBy = [pivot.expression]
  having : query.having = []
  select : query.select = [db.castToText pivot.expression ++ " AS piv",
    "ROW_NUMBER() OVER (ORDER BY " ++ ", ".intercalate (rankTexts request count pivot) ++ ") AS rn"]
  orderBy : query.orderBy =
    if limit.isSome then [", ".intercalate (rankTexts request count pivot)] else []
  limit : query.limit = limit
  alone : query.preSelect = [] ∧ query.ctes = [] ∧ query.trailing = []

/-- The lines after the select list of a query that finds values: a `FROM` and a `WHERE` clause like
those of the query that reads the rows, no `HAVING`, and an ordering exactly if there is a cap. -/
def findingLines (db : Database) (request : Request) (count pivot : Line)
    (axisExpr : Option String) (limit : Option Nat) (consumer : Query) : List String :=
  clause "FROM " "\n" consumer.tables ++
    predicateClause "WHERE " (consumer.filters ++ (pivot.expression ++ " IS NOT NULL") ::
      (axisExpr.map (· ++ " IS NOT NULL")).toList) ++
    ["GROUP BY " ++ pivot.expression] ++
    (if limit.isSome then ["ORDER BY " ++ ", ".intercalate (rankTexts request count pivot)]
      else []) ++
    { consumer with limit := limit }.trailingLimit db

theorem Finds.tail {db : Database} {request : Request} {count pivot : Line}
    {axisExpr : Option String} {limit : Option Nat} {consumer query : Query}
    (h : Finds db request count pivot axisExpr limit consumer query) :
    query.tail db =
      indentLines (findingLines db request count pivot axisExpr limit consumer) := by
  obtain ⟨-, -, htrailing⟩ := h.alone
  have horder : clause "ORDER BY " ", " query.orderBy =
      if limit.isSome then ["ORDER BY " ++ ", ".intercalate (rankTexts request count pivot)]
      else [] := by
    rw [h.orderBy]
    cases limit <;> simp [clause]
  have hlimit : query.trailingLimit db = { consumer with limit := limit }.trailingLimit db := by
    rw [Query.trailingLimit, h.limit, Query.trailingLimit]
  rw [Query.tail, Query.tailLines, horder, hlimit, h.tables, h.filters, h.groupBy, h.having,
    htrailing]
  simp [clause, predicateClause, findingLines]

theorem Finds.head {db : Database} {request : Request} {count pivot : Line}
    {axisExpr : Option String} {limit : Option Nat} {consumer query : Query}
    (h : Finds db request count pivot axisExpr limit consumer query) :
    query.head db = { consumer with limit := limit }.selectKeyword db ++
      db.castToText pivot.expression ++ " AS piv, ROW_NUMBER() OVER (ORDER BY " ++
      ", ".intercalate (rankTexts request count pivot) ++ ") AS rn" := by
  obtain ⟨hpre, hctes, -⟩ := h.alone
  have hkeyword : query.selectKeyword db = { consumer with limit := limit }.selectKeyword db := by
    rw [Query.selectKeyword, h.limit, Query.selectKeyword]
  have hcomma : " AS piv, ROW_NUMBER() OVER (ORDER BY " =
      " AS piv" ++ ", " ++ "ROW_NUMBER() OVER (ORDER BY " := by decide +kernel
  rw [Query.head_eq db hpre hctes, Query.selectClause, hkeyword, h.select,
    String.intercalate_cons_cons, String.intercalate_singleton, hcomma]
  simp only [String.append_assoc]

theorem rankOrder_eq (request : Request) (count pivot : Line) :
    rankOrder request count pivot.expression =
      ", ".intercalate (rankTexts request count pivot) := by
  unfold rankOrder rankTexts
  cases request.topXOrder <;> rfl

theorem finds_census {request : Request} (hplaced : request.Placed) {consumer : Query}
    (htables : consumer.tables = request.textsIn .table)
    (hfilters : consumer.filters = request.textsIn .filter) (db : Database) (count pivot : Line)
    (limit : Option Nat) (axisExpr : Option String) :
    Finds db request count pivot axisExpr limit consumer
      (censusQuery db request count limit pivot.expression axisExpr) := by
  have hfilter := hplaced.census_filters (show Slot.filter.isSource = true from rfl) .axis
    (by decide)
  constructor
  · exact htables.symm
  · rw [hfilters]
    unfold censusQuery
    rw [hfilter]
    cases axisExpr <;> rfl
  · rfl
  · rfl
  · unfold censusQuery
    rw [rankOrder_eq]
  · unfold censusQuery
    rw [rankOrder_eq]
  · rfl
  · exact ⟨rfl, rfl, rfl⟩

/-! ## The headline -/

section
variable {config : Config} {db : Database} {request : Request} {sql : String}
  (hsql : build config db request = .ok sql) (hpivot : (Shape.classify request).usesPivot = true)
include hsql hpivot

/-- **The census finds values in the rows that are pivoted.** It reads the tables of the query that
counts the values under the predicates of that query, apart from rows without a value or off the
axis, and it ranks and caps the values by one order. -/
theorem census_reads_pivoted_rows :
    ∃ write plan statement consumer query axisExpr count pivot limit,
      Script.writer? config db = some write ∧
      Planned config db request (Shape.classify request) plan statement ∧
      sql = (write plan (Shape.classify request).usesAxis).render db ∧
      Consumer db request plan (Shape.classify request) consumer axisExpr ∧
      request.countSelect? = some count ∧ request.pivotSelect? = some pivot ∧
      request.topXLimit = .ok limit ∧
      Finds db request count pivot axisExpr limit consumer query ∧
      plan.census.body = query.head db ++
        indentLines (findingLines db request count pivot axisExpr limit consumer) := by
  have hplaced := (checked_of_build hsql).valid.placed
  have hshape := build_ok hsql
  cases hclass : Shape.classify request with
  | plain | axis =>
      rw [hclass] at hpivot
      cases hpivot
  | pivot =>
      rw [hclass] at hshape
      obtain ⟨write, plan, hwrite, hplan, rfl⟩ := Build.pivot_ok hshape
      obtain ⟨pivot, _, header, _, _, hselect, -, hheader, hvalues, -, rfl⟩ :=
        PivotPlan.ofRows_ok hplan
      obtain ⟨count, limit, hcount, hlimit, rfl⟩ := census_ok hvalues
      let consumer := PivotPlan.rowQuery request header pivot.expression
      have htables : consumer.tables = request.textsIn .table := rfl
      have hfinds := finds_census hplaced htables rfl db count pivot limit none
      exact ⟨write, _, _, _, _, none, count, pivot, limit, hwrite, .rows hplan hselect hheader, rfl,
        .statement hheader hselect rfl, hcount, hselect, hlimit, hfinds,
        congrArg (_ ++ ·) hfinds.tail⟩
  | axisPivot =>
      rw [hclass] at hshape
      obtain ⟨write, spec, plan, hwrite, hspec', hplan, rfl⟩ := Build.axisPivot_ok hshape
      obtain ⟨pivot, axisPlan, _, _, hselect, haxis, -, hvalues, rfl⟩ := PivotPlan.ofAxis_ok hplan
      obtain ⟨count, limit, hcount, hlimit, rfl⟩ := census_ok hvalues
      obtain ⟨after, htail⟩ := axisPlan.tail_statement db (Calendar.ofAxis config db spec)
        config.axisAlias [] true
      have hplanned := Planned.axis hspec' hplan haxis
      obtain ⟨spec', axis, names, hspec, haxisSelect, hnames, rfl⟩ := AxisPlan.ofRequest_ok haxis
      obtain ⟨htables, hfilters⟩ := sources_datasetQuery hplaced db spec'.increment names
      have hfinds := finds_census hplaced htables hfilters db count pivot limit
        (some axis.expression)
      exact ⟨write, _, _, _, _, some axis.expression, count, pivot, limit, hwrite, hplanned, rfl,
        .dataset hspec haxisSelect hnames htail, hcount, hselect, hlimit, hfinds,
        congrArg (_ ++ ·) hfinds.tail⟩

end

/-- A dataset over two tables, and a census that is capped by the request's own ordering. -/
theorem census_reads_pivoted_rows_capped :
    let request : Request := ⟨[⟨"o.at AS day", .select, .axis⟩, ⟨"o.kind", .select, .pivot⟩,
      ⟨"COUNT(*) AS n", .select, .count⟩, .plain .table "o", .plain .filter "a OR b",
      .plain .table "JOIN u ON u.id = o.u", ⟨"o.at", .groupBy, .axis⟩, .rowCap 3,
      ⟨"MAX(w)", .orderBy, .topX⟩], some ⟨"'2020-01-01'", "'2020-02-01'", .day⟩⟩
    ∃ sql plan consumer, ∃ query : Query,
      build {} .postgres request = .ok sql ∧
      Consumer .postgres request plan .axisPivot consumer (some "o.at") ∧
      consumer.tables = ["o", "JOIN u ON u.id = o.u"] ∧ consumer.filters = ["a OR b"] ∧
      query.tables = ["o", "JOIN u ON u.id = o.u"] ∧
      query.filters = ["a OR b", "o.kind IS NOT NULL", "o.at IS NOT NULL"] ∧
      plan.census.body =
        "SELECT CAST(o.kind AS TEXT) AS piv, ROW_NUMBER() OVER (ORDER BY MAX(w)) AS rn" ++
        "\nFROM o\nJOIN u ON u.id = o.u" ++
        "\nWHERE (a OR b) AND (o.kind IS NOT NULL) AND (o.at IS NOT NULL)" ++
        "\nGROUP BY o.kind\nORDER BY MAX(w)\nLIMIT 3" := by
  intro request
  obtain ⟨sql, hsql⟩ : ∃ sql, build {} .postgres request = .ok sql := ⟨_, rfl⟩
  have hshape : Shape.classify request = .axisPivot := by decide
  have hpivot : (Shape.classify request).usesPivot = true := by decide
  obtain ⟨_, plan, _, consumer, query, axisExpr, count, pivot, limit, -, -, -, hconsumer, hcount,
    hselect, hlimit, hfinds, hbody⟩ := census_reads_pivoted_rows hsql hpivot
  have hthree : request.topXLimit = .ok (some 3) := by rfl
  rw [hthree] at hlimit
  cases hcount
  cases hselect
  cases hlimit
  rw [hshape] at hconsumer
  have haxis : axisExpr = some "o.at" ∧ consumer.tables = ["o", "JOIN u ON u.id = o.u"] ∧
      consumer.filters = ["a OR b"] := by
    cases hconsumer with
    | dataset spec_eq axis_eq names_eq text =>
        cases axis_eq
        cases names_eq
        exact ⟨rfl, rfl, rfl⟩
  obtain ⟨rfl, htables, hfilters⟩ := haxis
  refine ⟨sql, plan, consumer, query, hsql, hconsumer, htables, hfilters, ?_, ?_, ?_⟩
  · rw [hfinds.tables, htables]
  · rw [hfinds.filters, hfilters]
    rfl
  · -- The target has its limits behind the statement, so the cap is the last line.
    have hkeyword : { consumer with limit := some 3 }.selectKeyword .postgres = "SELECT " := rfl
    have hlast : { consumer with limit := some 3 }.trailingLimit .postgres = ["LIMIT 3"] := by rfl
    rw [hbody, hfinds.head, findingLines, hkeyword, hlast, htables, hfilters]
    decide +kernel

end Crosstab
