import Crosstab.Proofs.Layout
import Crosstab.Proofs.RankingCap

/-!
# The clauses of a pivot

The statement that a pivot runs selects its row header and keeps every clause of the request
(`pivot_keeps_clauses`): the rows of `Layout` say which texts stand after the select list, and in
which order. A TopX line is no part of it, and the grouping is the request's without the pivot
expression, or by the row header if that leaves nothing.

The texts that run first are pasted ahead of everything that reads data. The rest of the script is
the same whatever they are (`SameQuery.ofRows`, `Script.lines_of_writer`), so none of them reaches
the census or the statement.
-/

namespace Crosstab

/-! ## Other texts to run first -/

/-- Two requests that differ at most in the texts that run first. -/
def SameQuery (request other : Request) : Prop := SameKept (·.slot != .preSelect) request other

/-- The request with these texts to run first. -/
def Request.withPreSelect (request : Request) (texts : List String) : Request :=
  { request with
    lines := texts.map (.plain .preSelect) ++ request.lines.filter (·.slot != .preSelect) }

section
variable (request : Request) (texts : List String)

theorem sameQuery_withPreSelect : SameQuery request (request.withPreSelect texts) := by
  have hnone : (texts.map (Line.plain .preSelect)).filter (·.slot != .preSelect) = [] := by
    refine List.filter_eq_nil_iff.mpr (List.forall_mem_map.mpr fun text _ => ?_)
    exact Bool.false_ne_true
  refine ⟨rfl, ?_⟩
  rw [Request.withPreSelect, List.filter_append, hnone, List.nil_append, List.filter_filter]
  simp only [Bool.and_self]

theorem textsIn_withPreSelect : (request.withPreSelect texts).textsIn .preSelect = texts := by
  have hall : (texts.map (Line.plain .preSelect)).filter (·.slot == .preSelect) =
      texts.map (.plain .preSelect) :=
    List.filter_eq_self.mpr (List.forall_mem_map.mpr fun _ _ => rfl)
  have hnone : (request.lines.filter (·.slot != .preSelect)).filter (·.slot == .preSelect) = [] :=
    List.filter_eq_nil_iff.mpr fun line hline => by simpa using (List.mem_filter.mp hline).2
  rw [Request.textsIn, Request.linesIn, Request.withPreSelect, List.filter_append, hall, hnone,
    List.append_nil, List.map_map]
  exact List.map_id texts

theorem placed_withPreSelect (h : request.Placed) : (request.withPreSelect texts).Placed := by
  intro line hline
  rcases List.mem_append.mp hline with hline | hline
  · obtain ⟨text, -, rfl⟩ := List.mem_map.mp hline
    rfl
  · exact h line (List.mem_filter.mp hline).1

end

namespace SameQuery

variable {request other : Request} (h : SameQuery request other)
include h

theorem sought : SameKept Line.isSought request other := by
  refine h.weaken fun line hline => ?_
  obtain ⟨text, slot, role⟩ := line
  cases slot <;> simp [Line.isSought] at hline ⊢

theorem linesIn (slot : Slot) (hslot : slot ≠ .preSelect) :
    request.linesIn slot = other.linesIn slot := by
  refine h.filter fun line hline => ?_
  rw [beq_iff_eq.mp hline]
  exact bne_iff_ne.mpr hslot

theorem textsIn (slot : Slot) (hslot : slot ≠ .preSelect) :
    request.textsIn slot = other.textsIn slot := by
  rw [Request.textsIn, h.linesIn slot hslot, Request.textsIn]

theorem uncappedIn (slot : Slot) (hslot : slot ≠ .preSelect) :
    request.uncappedIn slot = other.uncappedIn slot := by
  rw [Request.uncappedIn, h.linesIn slot hslot, Request.uncappedIn]

theorem topXLines :
    request.lines.filter Request.isTopXLimit = other.lines.filter Request.isTopXLimit := by
  refine h.filter fun line hline => ?_
  obtain ⟨text, slot, role⟩ := line
  cases slot <;> simp [Request.isTopXLimit] at hline ⊢

theorem topXLimit : request.topXLimit = other.topXLimit := by
  have hline : request.topXLine? = other.topXLine? := by
    rw [Request.topXLine?, Request.topXLine?, ← List.head?_filter, ← List.head?_filter,
      h.topXLines]
  rw [Request.topXLimit, Request.topXLimit, hline]

theorem checked (hchecked : Checked request) (hplaced : other.Placed) : Checked other := by
  refine h.sought.checked hchecked hplaced ?_ ?_
  · rw [Request.countLines, ← h.topXLines]
    exact hchecked.valid.topX
  · rw [← h.topXLimit]
    exact hchecked.valid.limit

theorem census (db : Database) (shape : Shape) (pivotExpr : String) (axisExpr : Option String) :
    Crosstab.census db request shape pivotExpr axisExpr =
      Crosstab.census db other shape pivotExpr axisExpr := by
  unfold Crosstab.census censusQuery rankOrder Request.topXOrder
  rw [h.sought.countSelect?, h.topXLimit, h.textsIn .table (by decide),
    h.linesIn .filter (by decide), h.linesIn .orderBy (by decide)]

theorem rowQuery (header : Line) (pivotExpr : String) :
    PivotPlan.rowQuery request header pivotExpr = PivotPlan.rowQuery other header pivotExpr := by
  unfold PivotPlan.rowQuery PivotPlan.rowGroups
  rw [h.textsIn .table (by decide), h.textsIn .filter (by decide), h.textsIn .having (by decide),
    h.linesIn .groupBy (by decide), h.uncappedIn .orderBy (by decide),
    h.uncappedIn .trailing (by decide)]

/-- A plan differs at most in what it runs first. -/
theorem ofRows {db : Database} {plan : PivotPlan} (hplan : PivotPlan.ofRows db request = .ok plan) :
    PivotPlan.ofRows db other = .ok { plan with preSelect := other.textsIn .preSelect } := by
  -- Every lookup that the plan was made from gives the same in the other request.
  obtain ⟨pivot, count, header, values, template, hpivot, hcount, hheader, hvalues, htemplate,
    rfl⟩ := PivotPlan.ofRows_ok hplan
  have hheader' : request.find? .select .ordinary = other.find? .select .ordinary :=
    h.find? fun _ => rfl
  rw [h.sought.pivotSelect?] at hpivot
  rw [h.sought.countSelect?] at hcount
  rw [hheader'] at hheader
  rw [h.census] at hvalues
  unfold PivotPlan.ofRows
  rw [hpivot, hcount, hheader]
  simp only [Shape.require, ok_bind, hvalues, htemplate, h.rowQuery]

end SameQuery

/-! ## Scripts around the texts that run first -/

namespace Script

/-- A script with the texts that run first in one place: they follow what the target has to say
before, and the census and the statement follow them, which are the same for any texts. -/
structure RunsFirst (config : Config) (db : Database) (request : Request) (plan : PivotPlan)
    (sql : String) (rest : List String) : Prop where
  sql_eq : sql = "\n".intercalate
    ((opening config db).map (renderLine db) ++ request.textsIn .preSelect ++ rest)
  census : ∃ line ∈ rest, ∃ before after, line = before ++ plan.censusOpening db ++ after
  replaced : ∀ texts,
    PivotPlan.ofRows db (request.withPreSelect texts) = .ok { plan with preSelect := texts } ∧
    build config db (request.withPreSelect texts) =
      .ok ("\n".intercalate ((opening config db).map (renderLine db) ++ texts ++ rest))

theorem runsFirst {config : Config} {db : Database} {request : Request} {plan : PivotPlan}
    {write : PivotPlan → Bool → Script} (hchecked : Checked request)
    (hpivot : Shape.classify request = .pivot) (hwrite : writer? config db = some write)
    (hplan : PivotPlan.ofRows db request = .ok plan) :
    ∃ rest, RunsFirst config db request plan ((write plan false).render db) rest := by
  obtain ⟨rest, hlines, line, hline, hmem⟩ := lines_of_writer hwrite plan false
  have hrender (texts : List String) :
      (write { plan with preSelect := texts } false).render db = "\n".intercalate
        ((opening config db).map (renderLine db) ++ texts ++ rest.map (renderLine db)) := by
    rw [render, hlines, List.map_append, List.map_append, map_renderLine_codeLines]
  have hpre : plan.preSelect = request.textsIn .preSelect := by
    obtain ⟨_, _, _, _, _, -, -, -, -, -, rfl⟩ := PivotPlan.ofRows_ok hplan
    rfl
  refine ⟨rest.map (renderLine db), ?_, ?_, fun texts => ?_⟩
  · rw [← hpre]
    exact hrender plan.preSelect
  · obtain ⟨before, after, hpieces⟩ := List.append_of_mem hmem
    refine ⟨_, List.mem_map_of_mem hline, renderLine db before, renderLine db after, ?_⟩
    rw [hpieces, renderLine_append, String.append_assoc]
    rfl
  · have hsame := sameQuery_withPreSelect request texts
    have hother := hsame.ofRows hplan
    rw [textsIn_withPreSelect] at hother
    refine ⟨hother, ?_⟩
    have hplaced := placed_withPreSelect request texts hchecked.valid.placed
    have hchecked' := hsame.checked hchecked hplaced
    rw [build_of_checked hchecked', ← hsame.sought.classify, hpivot]
    show Build.pivot config db _ = _
    rw [Build.pivot, Build.scriptWriter_ok.mpr hwrite, ok_bind, hother, ok_bind, hrender]

end Script

/-! ## The clauses of the statement -/

def Request.groupsBeside (request : Request) (pivotExpr : String) : List Line :=
  (request.linesIn .groupBy).filter fun line =>
    line.role != .pivot && trimText line.text != pivotExpr

namespace PivotPlan

/-- The texts of the statement of a pivot after its select list. -/
def rowTexts (request : Request) (groups : List String) : Slot → List String
  | .table => request.textsIn .table
  | .filter => conjoined (request.textsIn .filter)
  | .groupBy => groups
  | .having => conjoined (request.textsIn .having)
  | .orderBy => (request.uncappedIn .orderBy).map (·.text)
  | .trailing => (request.uncappedIn .trailing).map (·.text)
  | .preSelect | .select => []

/-- The statement of a pivot around its columns: the row header, and after them the clauses of the
request, each text once and in order with nothing but keywords and separators between. -/
structure KeepsClauses (plan : PivotPlan) (request : Request) (header : Line) (pivotExpr : String)
    (groups : List String) : Prop where
  head : plan.head = "SELECT " ++ header.text
  grouped : groups ≠ []
  groups_eq : groups = if (request.groupsBeside pivotExpr).isEmpty then [header.expression]
    else (request.groupsBeside pivotExpr).map (·.text)
  tail : plan.tail = indentLines (
    clause "FROM " "\n" (request.textsIn .table) ++
    predicateClause "WHERE " (request.textsIn .filter) ++
    ["GROUP BY " ++ ", ".intercalate groups] ++
    predicateClause "HAVING " (request.textsIn .having) ++
    clause "ORDER BY " ", " ((request.uncappedIn .orderBy).map (·.text)) ++
    (request.uncappedIn .trailing).map (·.text))
  cut : ∃ rows, plan.tail = indentLines (rows.map Row.text) ∧
    Cut rows (Slot.afterSelect.flatMap fun slot => (rowTexts request groups slot).map (slot, ·))
      (Slot.afterSelect.filter fun slot =>
        slot != .trailing && !(rowTexts request groups slot).isEmpty)
      []

section
variable (db : Database) (request : Request) (header : Line) (pivotExpr : String)

theorem rowGroups_eq :
    rowGroups request header pivotExpr =
      if (request.groupsBeside pivotExpr).isEmpty then [header.expression]
      else (request.groupsBeside pivotExpr).map (·.text) := by
  unfold rowGroups Request.groupsBeside
  cases (request.linesIn .groupBy).filter fun line =>
    line.role != .pivot && trimText line.text != pivotExpr <;> rfl

theorem rowGroups_ne_nil : rowGroups request header pivotExpr ≠ [] := by
  rw [rowGroups_eq]
  split
  · exact List.cons_ne_nil _ _
  · next h => simpa using h

theorem head_rowQuery :
    (rowQuery request header pivotExpr).head db = "SELECT " ++ header.text := by
  simp [Query.head, Query.headLines, Query.selectClause, Query.selectKeyword, rowQuery]

theorem tail_rowQuery :
    (rowQuery request header pivotExpr).tail db = indentLines (
      clause "FROM " "\n" (request.textsIn .table) ++
      predicateClause "WHERE " (request.textsIn .filter) ++
      ["GROUP BY " ++ ", ".intercalate (rowGroups request header pivotExpr)] ++
      predicateClause "HAVING " (request.textsIn .having) ++
      clause "ORDER BY " ", " ((request.uncappedIn .orderBy).map (·.text)) ++
      (request.uncappedIn .trailing).map (·.text)) := by
  have hgroup : clause "GROUP BY " ", " (rowGroups request header pivotExpr) =
      ["GROUP BY " ++ ", ".intercalate (rowGroups request header pivotExpr)] := by
    rw [clause, if_neg]
    simpa using rowGroups_ne_nil request header pivotExpr
  have hlimit : (rowQuery request header pivotExpr).trailingLimit db = [] := rfl
  rw [Query.tail, Query.tailLines, hlimit, ← hgroup, List.append_nil]
  rfl

theorem cut_rowQuery :
    let groups := rowGroups request header pivotExpr
    Cut (Slot.afterSelect.flatMap ((rowQuery request header pivotExpr).rowsIn db))
      (Slot.afterSelect.flatMap fun slot => (rowTexts request groups slot).map (slot, ·))
      (Slot.afterSelect.filter fun slot =>
        slot != .trailing && !(rowTexts request groups slot).isEmpty)
      [] :=
  -- None of these slots is the select list, and none has a limit.
  (rowQuery request header pivotExpr).cut_rowsIn db Slot.afterSelect (by decide)

end

theorem keepsClauses {db : Database} {request : Request} {plan : PivotPlan}
    (hplan : ofRows db request = .ok plan) :
    ∃ header pivot, request.find? .select .ordinary = some header ∧
      request.pivotSelect? = some pivot ∧
      plan.KeepsClauses request header pivot.expression
        (rowGroups request header pivot.expression) := by
  obtain ⟨pivot, _, header, _, _, hpivot, -, hheader, -, -, rfl⟩ := ofRows_ok hplan
  exact ⟨header, pivot, hheader, hpivot, {
    head := head_rowQuery db request header pivot.expression
    grouped := rowGroups_ne_nil request header pivot.expression
    groups_eq := rowGroups_eq request header pivot.expression
    tail := tail_rowQuery db request header pivot.expression
    cut := ⟨_, Query.tail_rows db _, cut_rowQuery db request header pivot.expression⟩ }⟩

end PivotPlan

/-! ## The headline -/

section
variable {config : Config} {db : Database} {request : Request} {sql : String}
  (hsql : build config db request = .ok sql) (hpivot : Shape.classify request = .pivot)
include hsql hpivot

/-- **A pivot keeps the clauses of its request.** The statement selects the row header and the
columns, and goes on with the request's clauses in order, grouped in any case. What has to run first
stands once in the script, ahead of the census, and is no part of the statement. -/
theorem pivot_keeps_clauses :
    ∃ write plan header pivot groups rest,
      Script.writer? config db = some write ∧ PivotPlan.ofRows db request = .ok plan ∧
      sql = (write plan false).render db ∧
      request.find? .select .ordinary = some header ∧ request.pivotSelect? = some pivot ∧
      plan.KeepsClauses request header pivot.expression groups ∧
      Script.RunsFirst config db request plan sql rest := by
  have hshape := build_ok hsql
  rw [hpivot] at hshape
  obtain ⟨write, plan, hwrite, hplan, rfl⟩ := Build.pivot_ok hshape
  obtain ⟨header, pivot, hheader, hselect, hclauses⟩ := PivotPlan.keepsClauses hplan
  obtain ⟨rest, hfirst⟩ := Script.runsFirst (checked_of_build hsql) hpivot hwrite hplan
  exact ⟨write, plan, header, pivot, _, rest, hwrite, hplan, rfl, hheader, hselect, hclauses,
    hfirst⟩

end

/-- A pivot that is grouped by its pivot expression alone, on the target that has a setting of its
own to run first. -/
theorem pivot_keeps_clauses_grouped :
    let request : Request := ⟨[.plain .having "COUNT(*) > 1", .plain .preSelect "SET a = 1;",
      .plain .select "r AS k", ⟨"p", .select, .pivot⟩, ⟨"COUNT(*)", .select, .count⟩,
      .plain .groupBy " p ", .plain .filter "x OR y", .plain .table "t", .plain .filter "(z)",
      ⟨"SUM(v)", .orderBy, .topX⟩, .rowCap 2], none⟩
    ∃ sql plan,
      build {} .mySql request = .ok sql ∧ PivotPlan.ofRows .mySql request = .ok plan ∧
      plan.head = "SELECT r AS k" ∧
      plan.tail = "\nFROM t\nWHERE (x OR y) AND (z)\nGROUP BY r\nHAVING COUNT(*) > 1" ∧
      ∃ rest, sql = "\n".intercalate
          (["SET SESSION group_concat_max_len = 1000000;", "SET a = 1;"] ++ rest) ∧
        ∀ texts, build {} .mySql (request.withPreSelect texts) = .ok ("\n".intercalate
          (["SET SESSION group_concat_max_len = 1000000;"] ++ texts ++ rest)) := by
  intro request
  obtain ⟨sql, hsql⟩ : ∃ sql, build {} .mySql request = .ok sql := ⟨_, rfl⟩
  have hshape : Shape.classify request = .pivot := by decide
  obtain ⟨_, plan, header, pivot, groups, rest, -, hplan, -, hheader, hpivot, hclauses, hfirst⟩ :=
    pivot_keeps_clauses hsql hshape
  cases hheader
  cases hpivot
  refine ⟨sql, plan, hsql, hplan, hclauses.head, ?_, rest, hfirst.sql_eq, fun texts =>
    (hfirst.replaced texts).2⟩
  rw [hclauses.tail, hclauses.groups_eq]
  rfl

end Crosstab
