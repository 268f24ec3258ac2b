import Crosstab.Proofs.ClosedPivot
import Crosstab.Proofs.Untagged

/-!
# The block of a PostgreSQL script

A pivot for PostgreSQL runs in an anonymous block between two tags. The block ends at the first tag
after its opening, wherever that comes from, so a text of the caller that has the tag in it ends the
block early (`block_ends_early`). Short of that the block ends where it should
(`block_ends_at_tag`): every section of the census and of the statement is `Untagged`.
-/

namespace Crosstab

/-! ## What the caller gives -/

/-- Settings and a request whose texts do not have the tag in them. -/
structure Request.UntaggedParts (config : Config) (request : Request) : Prop where
  lines : ∀ line ∈ request.lines, Untagged line.text
  bounds : ∀ spec, request.axis = some spec → Untagged spec.startDate ∧ Untagged spec.endDate
  axisAlias : Untagged config.axisAlias
  pivotView : Untagged config.pivotView

namespace Request.UntaggedParts

variable {config : Config} {request : Request} (h : request.UntaggedParts config)
include h

theorem find? {slot : Slot} {role : Role} {line : Line}
    (hline : request.find? slot role = some line) : Untagged line.text :=
  h.lines line (List.mem_of_find?_eq_some hline)

theorem keptIn (slot : Slot) (p : Line → Bool) :
    ∀ s ∈ ((request.linesIn slot).filter p).map (·.text), Untagged s :=
  List.forall_mem_map.mpr fun line hline =>
    h.lines line (List.mem_of_mem_filter (List.mem_of_mem_filter hline))

theorem textsIn (slot : Slot) : ∀ s ∈ request.textsIn slot, Untagged s :=
  List.forall_mem_map.mpr fun line hline => h.lines line (List.mem_of_mem_filter hline)

end Request.UntaggedParts

theorem untagged_ofLines {lines : List Line} (h : ∀ line ∈ lines, Untagged line.text) :
    (Query.ofLines lines).UntaggedParts := by
  have htexts (slot : Slot) : ∀ s ∈ ((lines.filter fun line =>
      line.role != .topX || line.slot == .orderBy).filter (·.slot == slot)).map (·.text),
      Untagged s :=
    List.forall_mem_map.mpr fun line hline =>
      h line (List.mem_of_mem_filter (List.mem_of_mem_filter hline))
  exact {
    preSelect := htexts .preSelect
    ctes := Or.inl rfl
    select := htexts .select
    tables := htexts .table
    filters := htexts .filter
    groupBy := htexts .groupBy
    having := htexts .having
    orderBy := htexts .orderBy
    trailing := htexts .trailing }

/-! ## Plans -/

/-- The parts of a plan that stand inside of the block. -/
structure PivotPlan.UntaggedParts (plan : PivotPlan) : Prop where
  census : plan.census.UntaggedParts
  opening : Untagged plan.column.opening
  middle : Untagged plan.column.middle
  head : Untagged plan.head
  tail : Untagged plan.tail

theorem untagged_ofFilter {aggregate pivotExpr : String} (haggregate : Untagged aggregate)
    (hpivot : Untagged pivotExpr) :
    Untagged (ColumnTemplate.ofFilter aggregate pivotExpr).opening :=
  ((haggregate.before rfl).fenced rfl hpivot).after rfl

section
variable {config : Config} {request : Request} (h : request.UntaggedParts config)
include h

theorem untagged_census {shape : Shape} {pivotExpr : String} (hpivot : Untagged pivotExpr)
    {axisExpr : Option String} (haxis : ∀ expression, axisExpr = some expression →
      Untagged expression) {cte : Cte}
    (hcte : census .postgres request shape pivotExpr axisExpr = .ok cte) : cte.UntaggedParts := by
  obtain ⟨count, limit, hcount, -, rfl⟩ := census_ok hcte
  have hexpression := (h.find? hcount).expression
  have horder : Untagged (rankOrder request count pivotExpr) := by
    refine untagged_intercalate (fun s hs => ?_) rfl
    split at hs
    · have hdefault : ∀ s ∈ [count.expression ++ " DESC", pivotExpr ++ " ASC"], Untagged s := by
        simp only [List.forall_mem_cons]
        exact ⟨hexpression.after rfl, hpivot.after rfl, by simp⟩
      exact hdefault s hs
    · exact h.keptIn .orderBy _ s hs
  have hquery : (censusQuery .postgres request count limit pivotExpr axisExpr).UntaggedParts := {
    preSelect := by simp [censusQuery]
    ctes := Or.inl rfl
    select := by
      simp only [censusQuery, List.forall_mem_cons]
      exact ⟨hpivot.castToText.after rfl, (horder.before rfl).after rfl, by simp⟩
    tables := h.textsIn .table
    filters := by
      simp only [censusQuery, List.forall_mem_append, List.forall_mem_cons]
      refine ⟨h.keptIn .filter _, hpivot.after rfl, ?_⟩
      cases axisExpr with
      | none => simp
      | some expression =>
          exact List.forall_mem_singleton.mpr ((haxis expression rfl).after rfl)
    groupBy := List.forall_mem_singleton.mpr hpivot
    having := by simp [censusQuery]
    orderBy := by
      cases limit with
      | none => simp [censusQuery]
      | some n => exact List.forall_mem_singleton.mpr horder
    trailing := by simp [censusQuery] }
  exact ⟨.own (w := censusName) rfl, rfl, hquery.render⟩

theorem untagged_rowQuery {header : Line} (hheader : Untagged header.text) (pivotExpr : String) :
    (PivotPlan.rowQuery request header pivotExpr).UntaggedParts where
  preSelect := by simp [PivotPlan.rowQuery]
  ctes := Or.inl rfl
  select := List.forall_mem_singleton.mpr hheader
  tables := h.textsIn .table
  filters := h.textsIn .filter
  groupBy := by
    show ∀ s ∈ PivotPlan.rowGroups request header pivotExpr, Untagged s
    unfold PivotPlan.rowGroups
    dsimp only
    split
    · exact List.forall_mem_singleton.mpr hheader.expression
    · exact h.keptIn .groupBy _
  having := h.textsIn .having
  orderBy := h.keptIn .orderBy _
  trailing := h.keptIn .trailing _

theorem untagged_ofRows {plan : PivotPlan} (hplan : PivotPlan.ofRows .postgres request = .ok plan) :
    plan.UntaggedParts := by
  obtain ⟨pivotSelect, count, header, values, template, hpivot, hcount, hheader, hvalues,
    htemplate, rfl⟩ := PivotPlan.ofRows_ok hplan
  obtain rfl := ColumnTemplate.forRows_filter rfl htemplate
  have hexpression := (h.find? hpivot).expression
  have hquery := untagged_rowQuery h (h.find? hheader) pivotSelect.expression
  exact {
    census := untagged_census h hexpression (by simp) hvalues
    opening := untagged_ofFilter (h.find? hcount).expression hexpression
    middle := .own (w := ") AS ") rfl
    head := hquery.head
    tail := hquery.tail }

/-! ## The axis -/

/-- Names of columns that do not have the tag in them. -/
structure DatasetNames.UntaggedParts (names : DatasetNames) : Prop where
  join : Untagged names.join
  count : Untagged names.count
  pivot : ∀ name, names.pivot = some name → Untagged name

/-- The parts of an axis plan that stand inside of the block. -/
structure AxisPlan.UntaggedParts (plan : AxisPlan) : Prop where
  axisExpr : Untagged plan.axisExpr
  names : plan.names.UntaggedParts
  bucket : Untagged plan.bucket
  dataset : Untagged plan.dataset
  trailing : ∀ s ∈ plan.trailing, Untagged s

theorem untagged_resolve {shape : Shape} {names : DatasetNames}
    (hnames : DatasetNames.resolve request shape = .ok names) : names.UntaggedParts := by
  obtain ⟨⟨axis, haxis, hjoin⟩, ⟨count, hcount, hname⟩, hpivot⟩ :=
    DatasetNames.resolve_ok.mp hnames
  refine ⟨(h.find? haxis).columnName hjoin, (h.find? hcount).columnName hname, ?_⟩
  rintro name heq
  rcases hpivot with ⟨-, hnone⟩ | ⟨line, pivot, hline, hpivot, hsome⟩
  · rw [hnone] at heq
    cases heq
  · obtain rfl : pivot = name := Option.some.inj (hsome.symm.trans heq)
    exact (h.find? hline).columnName hpivot

omit h in
theorem untagged_binLine (increment : Increment) {names : DatasetNames}
    (hnames : names.UntaggedParts) {line : Line} (h : Untagged line.text) :
    Untagged (binLine .postgres increment names line).text := by
  have hexpression := h.expression
  unfold binLine
  split
  · exact (hexpression.datePart increment).aliased hnames.join
  · exact hexpression.datePart increment
  · exact hexpression.aliased hnames.count
  · split
    · rename_i name hname
      exact hexpression.aliased (hnames.pivot name hname)
    · exact h
  · exact h

theorem untagged_axisPlan {shape : Shape} {plan : AxisPlan}
    (hplan : AxisPlan.ofRequest .postgres request shape = .ok plan) : plan.UntaggedParts := by
  obtain ⟨spec, axisSelect, names, -, hselect, hresolve, rfl⟩ := AxisPlan.ofRequest_ok hplan
  have hnames := untagged_resolve h hresolve
  have hdataset : (AxisPlan.datasetQuery .postgres request spec.increment names).UntaggedParts := by
    refine untagged_ofLines fun line hline => ?_
    have hmem := List.mem_of_mem_filter (List.mem_of_mem_filter hline)
    obtain ⟨given, hgiven, rfl⟩ := List.mem_map.mp hmem
    exact untagged_binLine spec.increment hnames (h.lines given hgiven)
  exact {
    axisExpr := (h.find? hselect).expression
    names := hnames
    bucket := (Untagged.own rfl).datePart spec.increment
    dataset := hdataset.render
    trailing := h.keptIn .trailing _ }

omit h in
theorem untagged_calendar {spec : AxisSpec} (hstart : Untagged spec.startDate)
    (hend : Untagged spec.endDate) : (Calendar.postgres spec).cte.UntaggedParts := by
  have hstep : isOwn (Calendar.seriesInterval spec.increment) = true := by
    cases spec.increment <;> rfl
  refine ⟨.own (w := calendarName) rfl, rfl, ?_⟩
  exact ((((hstart.before rfl).fenced rfl hend).after rfl).after hstep).after rfl

theorem untagged_axisQuery {spec : AxisSpec} (hspec : request.axis = some spec) {plan : AxisPlan}
    (hplan : plan.UntaggedParts) :
    (PivotPlan.axisQuery .postgres (Calendar.postgres spec) config.axisAlias
      plan).UntaggedParts := by
  obtain ⟨hstart, hend⟩ := h.bounds spec hspec
  have hjoin : Untagged (plan.joinClause .postgres) :=
    ((hplan.dataset.before rfl).fenced rfl hplan.names.join.quoteIdent).fenced rfl hplan.bucket
  exact {
    preSelect := by simp [PivotPlan.axisQuery]
    ctes := Or.inr ⟨_, rfl, untagged_calendar hstart hend⟩
    select := List.forall_mem_singleton.mpr (hplan.bucket.fenced rfl h.axisAlias)
    tables := by
      simp only [PivotPlan.axisQuery, AxisPlan.statement, List.forall_mem_cons]
      exact ⟨.own rfl, hjoin, by simp⟩
    filters := by simp [PivotPlan.axisQuery, AxisPlan.statement]
    groupBy := List.forall_mem_singleton.mpr hplan.bucket
    having := by simp [PivotPlan.axisQuery, AxisPlan.statement]
    orderBy := List.forall_mem_singleton.mpr hplan.bucket
    trailing := by
      simp only [PivotPlan.axisQuery, AxisPlan.statement, List.forall_mem_append]
      exact ⟨hplan.trailing, by simp [Calendar.postgres]⟩ }

theorem untagged_ofAxis {spec : AxisSpec} (hspec : request.axis = some spec) {plan : PivotPlan}
    (hplan : PivotPlan.ofAxis .postgres (Calendar.postgres spec) config.axisAlias request =
      .ok plan) : plan.UntaggedParts := by
  obtain ⟨pivotSelect, axisPlan, pivotName, values, hpivot, haxis, hname, hvalues, rfl⟩ :=
    PivotPlan.ofAxis_ok hplan
  have hparts := untagged_axisPlan h haxis
  have hquery := untagged_axisQuery h hspec hparts
  have hfiltered : Database.postgres.hasFilteredAggregates = true := rfl
  have hcolumn {name : String} (hname : Untagged name) :
      Untagged ("dataset." ++ Database.postgres.quoteIdent name) := hname.quoteIdent.before rfl
  have hcount := (hcolumn hparts.names.count).before (w := "MAX(") rfl
  refine ⟨untagged_census h (h.find? hpivot).expression ?_ hvalues, ?_, ?_, hquery.head,
    hquery.tail⟩
  · rintro expression heq
    cases heq
    exact hparts.axisExpr
  · show Untagged (ColumnTemplate.forDataset ..).opening
    rw [ColumnTemplate.forDataset_filter hfiltered]
    exact untagged_ofFilter (hcount.after rfl) (hcolumn (hparts.names.pivot pivotName hname))
  · exact .own (w := ") AS ") rfl

end

/-! ## The block -/

namespace Script

/-- The lines of a block between its tags. -/
def blockLines (config : Config) (plan : PivotPlan) : List (List Piece) :=
  let view := Database.postgres.quoteIdent config.pivotView
  let collect := [
    .code "SELECT string_agg(format('%s%L%s%I', ", .carried plan.column.opening,
    .code ", piv, ", .carried plan.column.middle,
    .code ", piv), '' ORDER BY rn) INTO pivot_columns"]
  [[.code "DECLARE"], [.code "pivot_columns TEXT;"], [.code "BEGIN"],
    overCensus .postgres plan collect ++ [.code ";"],
    [.code "EXECUTE ", .carried ("DROP VIEW IF EXISTS " ++ view), .code ";"],
    [.code "EXECUTE ", .carried ("CREATE TEMP VIEW " ++ view ++ " AS\n" ++ plan.head),
      .code " || coalesce(pivot_columns, '') || ", .carried plan.tail, .code ";"],
    [.code "END"]]

/-- What stands between the tags of a block, line breaks included. -/
def blockBody (config : Config) (plan : PivotPlan) : String :=
  String.join ((blockLines config plan).map (renderLine .postgres · ++ "\n"))

theorem postgres_lines (config : Config) (plan : PivotPlan) :
    (postgres config plan).lines =
      codeLines plan.preSelect ++ (([.code "DO $aggsql$"] :: blockLines config plan) ++
        [[.code "$aggsql$;"],
          [.code ("SELECT * FROM " ++ Database.postgres.quoteIdent config.pivotView ++ ";")]]) :=
  rfl

/-- A script opens its block after the statements that have to run before, and only selects from the
view after it. -/
theorem render_postgres (config : Config) (plan : PivotPlan) :
    (postgres config plan).render .postgres =
      String.join (plan.preSelect.map (· ++ "\n")) ++ "DO $aggsql$\n" ++ blockBody config plan ++
        blockTag ++
        (";\nSELECT * FROM " ++ Database.postgres.quoteIdent config.pivotView ++ ";") := by
  have hopen : "DO $aggsql$\n" = "DO $aggsql$" ++ "\n" := by decide
  have hclose : "$aggsql$;" = blockTag ++ ";" := by decide
  have hselect : ";\nSELECT * FROM " = ";" ++ "\n" ++ "SELECT * FROM " := by decide
  have hline (text : String) : renderLine .postgres [.code text] = text := String.append_empty
  rw [render, postgres_lines, List.map_append, List.map_append,
    intercalate_append _ _ (by simp), intercalate_append _ _ (by simp), map_renderLine_codeLines]
  simp only [List.map_cons, List.map_nil, hline, String.join_cons, String.intercalate_cons_cons,
    String.intercalate_singleton, List.map_map, hopen, hclose, hselect, String.append_assoc]
  rfl

/-- A block ends in a line of its own. -/
theorem blockBody_eq (config : Config) (plan : PivotPlan) :
    ∃ lines, blockBody config plan = lines ++ "END\n" := by
  have hlast : blockLines config plan = (blockLines config plan).dropLast ++ [[.code "END"]] := rfl
  have hend : renderLine .postgres [.code "END"] ++ "\n" = "END\n" := by decide
  refine ⟨String.join ((blockLines config plan).dropLast.map (renderLine .postgres · ++ "\n")), ?_⟩
  rw [blockBody, hlast, List.map_append, String.join_append, List.map_singleton, hend,
    List.dropLast_concat, String.join_cons, String.join_nil, String.append_empty]

/-- A literal is fenced off by its own quotes. -/
theorem untagged_renderLine {pieces : List Piece}
    (hcode : ∀ text, .code text ∈ pieces → isOwn text = true)
    (hcarried : ∀ text, .carried text ∈ pieces → Untagged text) :
    Untagged (renderLine .postgres pieces) := by
  induction pieces with
  | nil => exact .own (w := "") rfl
  | cons piece pieces ih =>
      have hrest := ih (fun text hmem => hcode text (List.mem_cons_of_mem _ hmem))
        fun text hmem => hcarried text (List.mem_cons_of_mem _ hmem)
      cases piece with
      | code text => exact hrest.before (hcode text (List.mem_cons_self ..))
      | carried text =>
          have htext := (hcarried text (List.mem_cons_self ..)).escapeLiteral
          exact (htext.before rfl).fenced rfl hrest

theorem untagged_join {texts : List String} (h : ∀ s ∈ texts, Untagged s) :
    Untagged (String.join (texts.map (· ++ "\n"))) := by
  induction texts with
  | nil => exact .own (w := "") rfl
  | cons s texts ih =>
      obtain ⟨hs, htexts⟩ := List.forall_mem_cons.mp h
      rw [List.map_cons, String.join_cons]
      exact hs.fenced rfl (ih htexts)

theorem untagged_blockBody {config : Config} {plan : PivotPlan} (h : plan.UntaggedParts)
    (hview : Untagged config.pivotView) : Untagged (blockBody config plan) := by
  have hname := hview.quoteIdent
  -- The census stands in the block as it is, and everything else of the caller's in a literal.
  have hcollect : Untagged (renderLine .postgres (overCensus .postgres plan [
      .code "SELECT string_agg(format('%s%L%s%I', ", .carried plan.column.opening,
      .code ", piv, ", .carried plan.column.middle,
      .code ", piv), '' ORDER BY rn) INTO pivot_columns"] ++ [.code ";"])) := by
    refine h.census.renderWith.fenced rfl (untagged_renderLine ?_ ?_)
    · simp
      decide
    · simp [h.opening, h.middle]
  have hlines : ∀ line ∈ blockLines config plan, Untagged (renderLine .postgres line) := by
    simp only [blockLines, List.forall_mem_cons]
    refine ⟨.own rfl, .own rfl, .own rfl, hcollect, ?_, ?_, .own rfl, by simp⟩
    · refine untagged_renderLine (by simp; decide) ?_
      simp [hname.before (w := "DROP VIEW IF EXISTS ") rfl]
    · have hcreate := (hname.before (w := "CREATE TEMP VIEW ") rfl).fenced (w := " AS\n") rfl h.head
      refine untagged_renderLine (by simp; decide) ?_
      simp [hcreate, h.tail]
  have hjoin := untagged_join (List.forall_mem_map.mpr hlines)
  rwa [List.map_map] at hjoin

end Script

/-- A tag that begins ahead of a character it does not have ends ahead of it too. -/
theorem infix_or_after {tag s t xs ys : List Char} {c : Char} (hc : c ∉ tag)
    (h : s ++ tag ++ t = xs ++ c :: ys) : tag <:+: xs ∨ ∃ s', s = xs ++ c :: s' := by
  -- Either `xs` holds the tag to its end, or it ends within the tag or ahead of it.
  rcases List.append_eq_append_iff.mp h with ⟨as, hxs, -⟩ | ⟨bs, hleft, hright⟩
  · exact Or.inl ⟨s, as, hxs.symm⟩
  · rcases List.append_eq_append_iff.mp hleft with ⟨as, hxs, htag⟩ | ⟨cs, hs, hbs⟩
    · cases bs with
      | nil =>
          rw [List.append_nil] at hleft
          exact Or.inl ⟨s, [], by rw [List.append_nil, hleft]⟩
      | cons b bs =>
          obtain ⟨rfl, -⟩ := List.cons.inj hright
          exact absurd (htag ▸ List.mem_append_right as (List.mem_cons_self ..)) hc
    · cases cs with
      | nil =>
          cases tag with
          | nil => exact Or.inl List.nil_infix
          | cons d tag =>
              rw [hbs] at hright
              obtain ⟨rfl, -⟩ := List.cons.inj hright
              exact absurd (List.mem_cons_self ..) hc
      | cons d cs =>
          rw [hbs] at hright
          obtain ⟨rfl, -⟩ := List.cons.inj hright
          exact Or.inr ⟨cs, hs⟩

/-- A tag after lines without one is the first. -/
theorem length_le_of_untagged {lines after early rest : String} (h : Untagged (lines ++ "\n"))
    (htag : lines ++ "\n" ++ blockTag ++ after = early ++ blockTag ++ rest) :
    (lines ++ "\n").length ≤ early.length := by
  have hlist : early.toList ++ blockTag.toList ++ rest.toList =
      lines.toList ++ '\n' :: (blockTag.toList ++ after.toList) := by
    simpa using (congrArg String.toList htag).symm
  -- No tag crosses a line break, so it is among the lines or after them.
  rcases infix_or_after (by decide) hlist with hwithin | ⟨more, hmore⟩
  · refine absurd (hwithin.trans ?_) h
    rw [String.toList_append]
    exact List.infix_append_left
  · have hlength := congrArg List.length hmore
    simp only [List.length_append, List.length_cons, String.length_toList] at hlength
    rw [String.length_append]
    have hone : "\n".length = 1 := by decide
    omega

section
variable {config : Config} {request : Request} {sql : String}

/-- A script for PostgreSQL is made from a plan whose parts are the caller's. -/
theorem untagged_of_build (h : request.UntaggedParts config)
    (hsql : build config .postgres request = .ok sql)
    (hpivot : (Shape.classify request).usesPivot = true) :
    ∃ plan : PivotPlan, plan.UntaggedParts ∧
      sql = (Script.postgres config plan).render .postgres := by
  have hshape := build_ok hsql
  cases hclass : Shape.classify request with
  | plain | axis =>
      rw [hclass] at hpivot
      cases hpivot
  | pivot =>
      rw [hclass] at hshape
      obtain ⟨write, plan, hwrite, hplan, rfl⟩ := Build.pivot_ok hshape
      cases hwrite
      exact ⟨plan, untagged_ofRows h hplan, rfl⟩
  | axisPivot =>
      rw [hclass] at hshape
      obtain ⟨write, spec, plan, hwrite, hspec, hplan, rfl⟩ := Build.axisPivot_ok hshape
      cases hwrite
      exact ⟨plan, untagged_ofAxis h hspec hplan, rfl⟩

/-- **The block of a pivot script ends where it was meant to**, unless the tag is part of a text
that was given: read from the line that opens the block, the first tag is the one that ends it. -/
theorem block_ends_at_tag (h : request.UntaggedParts config)
    (hsql : build config .postgres request = .ok sql)
    (hpivot : (Shape.classify request).usesPivot = true) :
    ∃ before lines after, let body := lines ++ "END\n"
      sql = before ++ "DO $aggsql$\n" ++ body ++ blockTag ++ after ∧
      after = ";\nSELECT * FROM " ++ Database.postgres.quoteIdent config.pivotView ++ ";" ∧
      Untagged body ∧
      ∀ early rest, body ++ blockTag ++ after = early ++ blockTag ++ rest →
        body.length ≤ early.length := by
  obtain ⟨plan, hplan, rfl⟩ := untagged_of_build h hsql hpivot
  have hbody := Script.untagged_blockBody hplan h.pivotView
  obtain ⟨lines, hlines⟩ := Script.blockBody_eq config plan
  rw [hlines] at hbody
  have hrender := Script.render_postgres config plan
  rw [hlines] at hrender
  refine ⟨_, lines, _, hrender, rfl, hbody, fun early rest htag => ?_⟩
  have hend : lines ++ "END\n" = lines ++ "END" ++ "\n" := by
    rw [String.append_assoc]
    rfl
  rw [hend] at hbody htag ⊢
  exact length_le_of_untagged hbody htag

end

/-- A condition on groups that has both halves of a tag in it, with a quote between them. -/
theorem block_ends_at_tag_halved :
    let request : Request := ⟨[.plain .select "Region", ⟨"Category", .select, .pivot⟩,
      ⟨"COUNT(*)", .select, .count⟩, .plain .table "events", .plain .groupBy "Region",
      .plain .having "MAX(note) <> '$agg' || 'sql$'"], none⟩
    ∃ sql before lines after, build {} .postgres request = .ok sql ∧
      sql = before ++ "DO $aggsql$\n" ++ (lines ++ "END\n") ++ blockTag ++ after ∧
      Untagged (lines ++ "END\n") := by
  intro request
  have h : request.UntaggedParts {} := by
    refine ⟨by decide +kernel, ?_, by decide +kernel, by decide +kernel⟩
    rintro spec hspec
    cases hspec
  obtain ⟨sql, hsql⟩ : ∃ sql, build {} .postgres request = .ok sql := ⟨_, rfl⟩
  obtain ⟨before, lines, after, hrender, -, hbody, -⟩ := block_ends_at_tag h hsql (by decide)
  exact ⟨sql, before, lines, after, hsql, hrender, hbody⟩

theorem not_untagged (before after : String) : ¬ Untagged (before ++ blockTag ++ after) := by
  refine fun h => h ?_
  rw [String.toList_append, String.toList_append]
  exact List.infix_append ..

/-- A condition on groups that has the tag in a literal: the block ends inside of that literal. -/
theorem block_ends_early :
    ∃ body, build {} .postgres ⟨[.plain .select "Region", ⟨"Category", .select, .pivot⟩,
        ⟨"COUNT(*)", .select, .count⟩, .plain .table "events", .plain .groupBy "Region",
        .plain .having "MAX(note) <> '$aggsql$'"], none⟩ =
      .ok ("DO $aggsql$\n" ++ body ++ blockTag ++ ";\nSELECT * FROM \"aggsql_pivot\";") ∧
      ¬ Untagged body := by
  exact ⟨"DECLARE\npivot_columns TEXT;\nBEGIN\nWITH pivotValues AS (\n" ++
    "SELECT CAST(Category AS TEXT) AS piv, " ++
    "ROW_NUMBER() OVER (ORDER BY COUNT(*) DESC, Category ASC) AS rn\nFROM events\n" ++
    "WHERE Category IS NOT NULL\nGROUP BY Category\n)\n" ++
    "SELECT string_agg(format('%s%L%s%I', ', COUNT(*) FILTER (WHERE Category = ', " ++
    "piv, ') AS ', piv), '' ORDER BY rn) INTO pivot_columns\nFROM pivotValues;\n" ++
    "EXECUTE 'DROP VIEW IF EXISTS \"aggsql_pivot\"';\n" ++
    "EXECUTE 'CREATE TEMP VIEW \"aggsql_pivot\" AS\nSELECT Region' || " ++
    "coalesce(pivot_columns, '') || '\nFROM events\nGROUP BY Region\n" ++
    "HAVING MAX(note) <> ''" ++ blockTag ++ "''';\nEND\n", by decide +kernel, not_untagged _ _⟩

end Crosstab
