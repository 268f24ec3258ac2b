import Mathlib.Data.List.Dedup
import Crosstab.Proofs.PivotedRows

/-!
# What one row of the dataset stands for

The columns of a pivot over an axis take the maximum of the counts that the dataset has for a bucket
and a pivot value. That is the count of the pair if there is one row for each pair, so it rests on
the grouping of the dataset.

The grouping is the caller's, binned (`groupBy_datasetQuery`). Validation asks for the bucket in it
and for nothing else. `dataset_rows_are_pairs` says what follows for a request that lists the
pivot as well, with rows and the meaning of expressions left abstract: `groupsOf` is what a
grouping does to rows. `dataset_mixes_values` is an accepted request that does not list it.
-/

namespace Crosstab

/-! ## The items of the grouping -/

/-- A line that groups by the pivot: it says so, or it is the expression of the pivot. A line that
is binned is no such line. -/
def Line.groupsPivot (line : Line) (pivotExpr : String) : Prop :=
  line.role = .pivot ∨ line.role ≠ .axis ∧ trimText line.text = pivotExpr

instance (line : Line) (pivotExpr : String) : Decidable (line.groupsPivot pivotExpr) :=
  inferInstanceAs (Decidable (_ ∨ _ ∧ _))

/-- The item that a line gives to the grouping of a dataset. -/
def Line.groupItem (line : Line) (db : Database) (increment : Increment) : String :=
  if line.role = .axis then db.datePart increment line.expression else line.text

theorem Line.groupItem_pivot {line : Line} {pivotExpr : String} (h : line.groupsPivot pivotExpr)
    (db : Database) (increment : Increment) : line.groupItem db increment = line.text := by
  refine if_neg ?_
  rcases h with hpivot | ⟨hrole, -⟩
  · rw [hpivot]
    decide
  · exact hrole

section
variable {request : Request}

theorem groupBy_datasetQuery (db : Database) (increment : Increment) (hplaced : request.Placed)
    (names : DatasetNames) :
    (AxisPlan.datasetQuery db request increment names).groupBy =
      (request.linesIn .groupBy).map (·.groupItem db increment) := by
  have hitem : ∀ line ∈ request.linesIn .groupBy,
      (binLine db increment names line).text = line.groupItem db increment := by
    intro line hline
    obtain ⟨text, slot, role⟩ := line
    obtain rfl : slot = .groupBy := beq_iff_eq.mp (List.mem_filter.mp hline).2
    cases role <;> rfl
  refine (congrArg (List.map Line.text)
    (filter_datasetLines hplaced db increment names rfl (by decide))).trans ?_
  rw [List.map_map]
  exact List.map_congr_left hitem

theorem mem_linesIn_of_find? {line : Line} {slot : Slot} {role : Role}
    (h : request.find? slot role = some line) : line ∈ request.linesIn slot := by
  obtain ⟨text, rfl⟩ := line_of_is (find?_is h)
  exact List.mem_filter.mpr ⟨List.mem_of_find?_eq_some h, beq_self_eq_true _⟩

end

/-! ## Groups of rows -/

section
variable {Source Value : Type} [DecidableEq Value] (eval : String → Source → Value)

/-- The values by which a row is put into a group. -/
def groupKey (items : List String) (r : Source) : List Value := items.map (eval · r)

/-- The rows of each group: what a grouping by `items` makes one row of. -/
def groupsOf (items : List String) (rows : List Source) : List (List Source) :=
  (rows.map (groupKey eval items)).dedup.map fun key => rows.filter (groupKey eval items · = key)

variable {eval} {items : List String} {rows : List Source}

omit [DecidableEq Value] in
theorem groupKey_eq_iff {r r' : Source} :
    groupKey eval items r = groupKey eval items r' ↔ ∀ item ∈ items, eval item r = eval item r' :=
  List.map_inj_left

theorem agree_of_mem_groupsOf {group : List Source} (hgroup : group ∈ groupsOf eval items rows)
    {r r' : Source} (hr : r ∈ group) (hr' : r' ∈ group) {item : String} (hitem : item ∈ items) :
    eval item r = eval item r' := by
  obtain ⟨key, -, rfl⟩ := List.mem_map.mp hgroup
  have hkey := of_decide_eq_true (List.mem_filter.mp hr).2
  have hkey' := of_decide_eq_true (List.mem_filter.mp hr').2
  exact groupKey_eq_iff.mp (hkey.trans hkey'.symm) item hitem

/-- A property that holds of the rows of one group and of no others picks that group. -/
theorem filter_groupsOf {p : Source → Bool} {r : Source} (hr : r ∈ rows)
    (hp : ∀ r' ∈ rows, p r' = true ↔ groupKey eval items r' = groupKey eval items r) :
    (groupsOf eval items rows).filter (·.any p) = [rows.filter p] := by
  have hpick : ∀ key ∈ (rows.map (groupKey eval items)).dedup,
      (rows.filter (groupKey eval items · = key)).any p = (key == groupKey eval items r) := by
    intro key _
    rw [Bool.eq_iff_iff, List.any_eq_true, beq_iff_eq]
    constructor
    · rintro ⟨r', hr', hpr'⟩
      obtain ⟨hmem, hkey⟩ := List.mem_filter.mp hr'
      exact (of_decide_eq_true hkey).symm.trans ((hp r' hmem).mp hpr')
    · rintro rfl
      exact ⟨r, List.mem_filter.mpr ⟨hr, decide_eq_true rfl⟩, (hp r hr).mpr rfl⟩
  have hkey : groupKey eval items r ∈ (rows.map (groupKey eval items)).dedup :=
    List.mem_dedup.mpr (List.mem_map_of_mem hr)
  rw [groupsOf, List.filter_map, Function.comp_def, List.filter_congr hpick, List.filter_beq,
    List.count_eq_one_of_mem (List.nodup_dedup _) hkey, List.replicate_one, List.map_singleton]
  congr 1
  refine List.filter_congr fun r' hr' => ?_
  rw [Bool.eq_iff_iff, decide_eq_true_iff, hp r' hr']

end

/-- What the columns of a pivot over an axis need of a grouping, whatever the rows are and whatever
expressions mean. A group has one bucket and one pivot value; and if nothing else is grouped by, the
groups of a pair are just one, with all the rows of the pair in it. -/
structure GroupsPairs (items : List String) (bucket pivot : String) : Prop where
  agree {Source Value : Type} [DecidableEq Value] (eval : String → Source → Value)
    (rows : List Source) : ∀ group ∈ groupsOf eval items rows, ∀ r ∈ group, ∀ r' ∈ group,
      eval bucket r = eval bucket r' ∧ eval pivot r = eval pivot r'
  single {Source Value : Type} [DecidableEq Value] (eval : String → Source → Value)
    (rows : List Source) : (∀ item ∈ items, item = bucket ∨ item = pivot) →
      ∀ r ∈ rows,
        let inPair (r' : Source) := eval bucket r' = eval bucket r && eval pivot r' = eval pivot r
        (groupsOf eval items rows).filter (·.any inPair) = [rows.filter inPair]

/-- An expression that is no item of a grouping can have two values in one group. -/
theorem mixed_of_not_mem {items : List String} {expression : String} (h : expression ∉ items) :
    ∃ (eval : String → Bool → Bool) (rows : List Bool), ∃ group ∈ groupsOf eval items rows,
      ∃ r ∈ group, ∃ r' ∈ group, eval expression r ≠ eval expression r' := by
  let eval (item : String) (r : Bool) : Bool := item == expression && r
  have hkey : groupKey eval items false = groupKey eval items true := by
    rw [groupKey_eq_iff]
    intro item hitem
    have hne : (item == expression) = false := beq_eq_false_iff_ne.mpr fun heq => h (heq ▸ hitem)
    simp only [eval, hne, Bool.false_and]
  refine ⟨eval, [true, false], [true, false], ?_, true, by simp, false, by simp, by simp [eval]⟩
  refine List.mem_map.mpr ⟨groupKey eval items true, by simp, ?_⟩
  simp [hkey]

/-- A grouping keeps pairs apart exactly if both halves of the pair are items of it. -/
theorem groupsPairs_iff {items : List String} {bucket pivot : String} :
    GroupsPairs items bucket pivot ↔ bucket ∈ items ∧ pivot ∈ items := by
  constructor
  · intro h
    constructor <;>
      by_contra hmem <;>
      obtain ⟨eval, rows, group, hgroup, r, hr, r', hr', hne⟩ := mixed_of_not_mem hmem
    · exact hne (h.agree eval rows group hgroup r hr r' hr').1
    · exact hne (h.agree eval rows group hgroup r hr r' hr').2
  · rintro ⟨hbucket, hpivot⟩
    constructor
    · intro Source Value _ eval rows group hgroup r hr r' hr'
      exact ⟨agree_of_mem_groupsOf hgroup hr hr' hbucket,
        agree_of_mem_groupsOf hgroup hr hr' hpivot⟩
    · intro Source Value _ eval rows hitems r hr
      refine filter_groupsOf hr fun r' _ => ?_
      rw [groupKey_eq_iff, Bool.and_eq_true, decide_eq_true_iff, decide_eq_true_iff]
      constructor
      · rintro ⟨heqBucket, heqPivot⟩ item hitem
        rcases hitems item hitem with rfl | rfl
        · exact heqBucket
        · exact heqPivot
      · exact fun h => ⟨h bucket hbucket, h pivot hpivot⟩

/-! ## The headline -/

theorem groupBy_mem_tailLines {query : Query} (db : Database) {item : String}
    (hitem : item ∈ query.groupBy) :
    "GROUP BY " ++ ", ".intercalate query.groupBy ∈ query.tailLines db := by
  have hclause : "GROUP BY " ++ ", ".intercalate query.groupBy ∈
      clause "GROUP BY " ", " query.groupBy := by
    rw [clause, if_neg]
    · exact List.mem_singleton_self _
    · rw [List.isEmpty_iff]
      exact List.ne_nil_of_mem hitem
  simp [Query.tailLines, hclause]

section
variable {config : Config} {db : Database} {request : Request} {sql : String}
  (hsql : build config db request = .ok sql) (hshape : Shape.classify request = .axisPivot)
include hsql hshape

/-- A pivot over an axis reads its columns from a dataset that it joins. -/
theorem dataset_of_build :
    ∃ write plan spec axis names pivotName,
      Script.writer? config db = some write ∧ sql = (write plan true).render db ∧
      request.axis = some spec ∧ DatasetNames.resolve request .axisPivot = .ok names ∧
      names.pivot = some pivotName ∧
      plan.column = ColumnTemplate.forDataset db pivotName names.count ∧
      Consumer db request plan .axisPivot (AxisPlan.datasetQuery db request spec.increment names)
        (some (Line.expression axis)) := by
  have hbuilt := build_ok hsql
  rw [hshape] at hbuilt
  obtain ⟨write, spec, plan, hwrite, hspec, hplan, rfl⟩ := Build.axisPivot_ok hbuilt
  obtain ⟨_, axisPlan, pivotName, _, -, haxis, hname, -, rfl⟩ := PivotPlan.ofAxis_ok hplan
  obtain ⟨after, htail⟩ := axisPlan.tail_statement db (Calendar.ofAxis config db spec)
    config.axisAlias [] true
  obtain ⟨spec', axis, names, hspec', haxisSelect, hnames, rfl⟩ := AxisPlan.ofRequest_ok haxis
  obtain rfl : spec = spec' := Option.some.inj (hspec.symm.trans hspec')
  exact ⟨write, _, spec, axis, names, pivotName, hwrite, rfl, hspec, hnames, hname, rfl,
    .dataset hspec haxisSelect hnames htail⟩

/-- **A row of the dataset is a bucket and a pivot value**, if the request groups by its pivot. The
grouping of the dataset is that of the request with the bucket in place of the axis; both the bucket
and the pivot are items of it, so the columns of the outer statement read the counts of pairs. -/
theorem dataset_rows_are_pairs {pivot line : Line} (hpivot : request.pivotSelect? = some pivot)
    (hline : line ∈ request.linesIn .groupBy) (hitem : line.groupsPivot pivot.expression) :
    ∃ write plan consumer axisExpr spec group names pivotName,
      Script.writer? config db = some write ∧ sql = (write plan true).render db ∧
      Consumer db request plan .axisPivot consumer axisExpr ∧
      request.axis = some spec ∧ request.axisGroupBy? = some group ∧
      DatasetNames.resolve request .axisPivot = .ok names ∧ names.pivot = some pivotName ∧
      plan.column = ColumnTemplate.forDataset db pivotName names.count ∧
      db.aliased pivot.expression pivotName ∈ consumer.select ∧
      consumer.groupBy = (request.linesIn .groupBy).map (·.groupItem db spec.increment) ∧
      "GROUP BY " ++ ", ".intercalate consumer.groupBy ∈ consumer.tailLines db ∧
      db.datePart spec.increment group.expression ∈ consumer.groupBy ∧
      line.text ∈ consumer.groupBy ∧
      GroupsPairs consumer.groupBy (db.datePart spec.increment group.expression) line.text := by
  have hchecked := checked_of_build hsql
  obtain ⟨_, axisSelect, _, -, haxisSelect, -⟩ := hchecked.axis (by rw [hshape]; rfl)
  obtain ⟨group, hgroup⟩ := Option.isSome_iff_exists.mp
    (hchecked.valid.grouped (by rw [haxisSelect]; rfl))
  obtain ⟨write, plan, spec, axis, names, pivotName, hwrite, hrender, hspec, hnames, hname, hcolumn,
    hconsumer⟩ := dataset_of_build hsql hshape
  have hselect := text_mem_datasetQuery db spec.increment names
    (pivotSelect?_binned db spec.increment hpivot hname) rfl (by decide)
  have hitems := groupBy_datasetQuery db spec.increment hchecked.valid.placed names
  have hbucket : db.datePart spec.increment group.expression ∈
      (AxisPlan.datasetQuery db request spec.increment names).groupBy := by
    obtain ⟨text, rfl⟩ := line_of_is (find?_is hgroup)
    rw [hitems]
    exact List.mem_map.mpr ⟨_, mem_linesIn_of_find? hgroup, rfl⟩
  have hvalue : line.text ∈ (AxisPlan.datasetQuery db request spec.increment names).groupBy := by
    rw [hitems]
    exact List.mem_map.mpr ⟨line, hline, line.groupItem_pivot hitem db spec.increment⟩
  exact ⟨write, plan, _, _, spec, group, names, pivotName, hwrite, hrender, hconsumer, hspec,
    hgroup, hnames, hname, hcolumn, hselect, hitems, groupBy_mem_tailLines db hbucket, hbucket,
    hvalue, groupsPairs_iff.mpr ⟨hbucket, hvalue⟩⟩

end

/-- The pivot has an alias, and its grouping is a plain line with blanks around it. -/
theorem dataset_rows_are_pairs_plain :
    let request : Request := ⟨[⟨"EventDate", .select, .axis⟩, ⟨"Category AS cat", .select, .pivot⟩,
      ⟨"COUNT(*) AS n", .select, .count⟩, .plain .table "events", ⟨"EventDate", .groupBy, .axis⟩,
      .plain .groupBy " Category "], some ⟨"'2001-01-01'", "'2002-01-01'", .year⟩⟩
    ∃ sql plan consumer axisExpr, build {} .mySql request = .ok sql ∧
      Consumer .mySql request plan .axisPivot consumer axisExpr ∧
      "Category AS \x60cat\x60" ∈ consumer.select ∧
      consumer.groupBy = ["YEAR(EventDate)", " Category "] ∧
      GroupsPairs consumer.groupBy "YEAR(EventDate)" " Category " := by
  intro request
  obtain ⟨sql, hsql⟩ : ∃ sql, build {} .mySql request = .ok sql := ⟨_, rfl⟩
  have hline : Line.plain .groupBy " Category " ∈ request.linesIn .groupBy := by decide
  obtain ⟨_, plan, consumer, axisExpr, spec, group, names, pivotName, -, -, hconsumer, hspec,
    hgroup, hnames, hname, -, hselect, hitems, -, -, -, hpairs⟩ :=
    dataset_rows_are_pairs hsql (by decide) rfl hline (by decide)
  cases hspec
  cases hgroup
  cases hnames
  cases hname
  exact ⟨sql, plan, consumer, axisExpr, hsql, hconsumer, hselect, hitems, hpairs⟩

/-- Without a line for the pivot the request is accepted all the same, and a row of its dataset
counts the rows of all values together. -/
theorem dataset_mixes_values :
    let request : Request := ⟨[⟨"EventDate", .select, .axis⟩, ⟨"Category", .select, .pivot⟩,
      ⟨"COUNT(*) AS n", .select, .count⟩, .plain .table "events", ⟨"EventDate", .groupBy, .axis⟩],
      some ⟨"'2001-01-01'", "'2002-01-01'", .year⟩⟩
    (∀ line ∈ request.linesIn .groupBy, ¬ line.groupsPivot "Category") ∧
    ∀ db, db ≠ .sqlite → ∃ sql plan consumer axisExpr, build {} db request = .ok sql ∧
      Consumer db request plan .axisPivot consumer axisExpr ∧
      consumer.groupBy = [db.datePart .year "EventDate"] ∧
      ¬ GroupsPairs consumer.groupBy (db.datePart .year "EventDate") "Category" := by
  intro request
  refine ⟨by decide, fun db hdb => ?_⟩
  obtain ⟨sql, hsql⟩ : ∃ sql, build {} db request = .ok sql := by
    cases db <;> first | exact ⟨_, rfl⟩ | exact absurd rfl hdb
  obtain ⟨_, plan, spec, axis, names, _, -, -, hspec, -, -, -, hconsumer⟩ :=
    dataset_of_build hsql (by decide)
  cases hspec
  have hitems := groupBy_datasetQuery db .year (checked_of_build hsql).valid.placed names
  have hgroups : (request.linesIn .groupBy).map (·.groupItem db .year) =
      [db.datePart .year "EventDate"] := rfl
  rw [hgroups] at hitems
  refine ⟨sql, plan, _, _, hsql, hconsumer, hitems, ?_⟩
  rw [groupsPairs_iff, hitems]
  cases db <;> decide

end Crosstab
