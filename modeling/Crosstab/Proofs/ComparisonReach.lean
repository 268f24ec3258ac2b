import Crosstab.Proofs.PivotedRows
import Crosstab.Proofs.PredicateGroups

/-!
# How far a comparison reaches

A pivot writes operators behind expressions that it was given: the census asks whether they are
null, and a column compares the pivot expression with its value. `OR` binds weaker than any
comparison, so an operator is applied to what stands behind the last `OR` outside of parentheses and
quotes (`reach`), and to the whole expression exactly if there is none.

The expressions are pasted as they are (`compares_of_build`). So `comparisons_reach_back` says both
what is right about this, for expressions without such an `OR` and for those that were given as a
group, and what is not: `or_escapes_comparison` is a pivot that counts the rows of its first
alternative in every column.
-/

namespace Crosstab

/-! ## The last `OR` -/

/-- A character that continues a word. -/
def isWordChar (c : Char) : Bool :=
  isLetter c || isNumeral c || c == '_' || c == '$' || c == '#' || c == '@'

/-- Whether the marked text begins with the word `OR` at the top level, and one character before it
that is not part of a word. -/
def startsOr : List (Char × Bool) → Bool
  | (b, _) :: (o, true) :: (r, true) :: rest =>
    !isWordChar b && (o == 'o' || o == 'O') && (r == 'r' || r == 'R') &&
      !rest.head?.any fun p => isWordChar p.1
  | _ => false

/-- The word `OR` stands at the top level of the text. -/
def HasTopOr (s : String) : Prop := splitLast startsOr (marks (' ' :: s.toList)) ≠ none

/-- What an operator behind the text is applied to. -/
def reach (s : String) : String :=
  match splitLast startsOr (marks (' ' :: s.toList)) with
  | none => s
  | some (_, tail) => String.ofList ((tail.map Prod.fst).drop 3)

/-- The word itself, in any letter case. -/
def IsOrWord (word : String) : Prop :=
  ∃ o r, word = String.ofList [o, r] ∧ (o = 'o' ∨ o = 'O') ∧ (r = 'r' ∨ r = 'R')

theorem startsOr_iff {tail : List (Char × Bool)} : startsOr tail = true ↔
    ∃ b m o r rest, tail = (b, m) :: (o, true) :: (r, true) :: rest ∧ isWordChar b = false ∧
      (o = 'o' ∨ o = 'O') ∧ (r = 'r' ∨ r = 'R') ∧
      ∀ p, rest.head? = some p → isWordChar p.1 = false := by
  constructor
  · intro h
    unfold startsOr at h
    split at h
    · rename_i b m o r rest
      simp only [Bool.and_eq_true, Bool.or_eq_true, Bool.not_eq_true', beq_iff_eq] at h
      obtain ⟨⟨⟨hb, ho⟩, hr⟩, hrest⟩ := h
      refine ⟨b, m, o, r, rest, rfl, hb, ho, hr, fun p hp => ?_⟩
      simpa [hp] using hrest
    · cases h
  · rintro ⟨b, m, o, r, rest, rfl, hb, ho, hr, hrest⟩
    have hend : rest.head?.any (fun p => isWordChar p.1) = false := by
      cases hhead : rest.head? with
      | none => rfl
      | some p => exact hrest p hhead
    simp [startsOr, hb, ho, hr, hend]

/-- A blank ends a word like the end of the text does. -/
theorem startsOr_append_blank {as : List (Char × Bool)} (hne : as ≠ []) (m : Bool)
    (bs : List (Char × Bool)) :
    startsOr (as ++ (' ', m) :: bs) = true ↔ startsOr as = true := by
  rw [startsOr_iff, startsOr_iff]
  match as, hne with
  | [_], _ | [_, _], _ =>
      simp only [List.cons_append, List.nil_append, List.cons.injEq, Prod.mk.injEq]
      constructor
      · rintro ⟨_, _, _, _, _, heq, -, ho, hr, -⟩
        rcases ho with rfl | rfl <;> rcases hr with rfl | rfl <;> simp_all
      · rintro ⟨_, _, _, _, _, heq, -⟩
        simp_all
  | [_, _, _], _ =>
      constructor
      · rintro ⟨b, mb, o, r, rest, heq, hb, ho, hr, -⟩
        simp only [List.cons_append, List.nil_append, List.cons.injEq] at heq
        obtain ⟨rfl, rfl, rfl, -⟩ := heq
        exact ⟨b, mb, o, r, [], rfl, hb, ho, hr, fun _ h => nomatch h⟩
      · rintro ⟨b, mb, o, r, rest, heq, hb, ho, hr, -⟩
        cases heq
        refine ⟨b, mb, o, r, _, rfl, hb, ho, hr, ?_⟩
        rintro p hp
        cases hp
        rfl
  | _ :: _ :: _ :: c :: rest, _ =>
      constructor
      · rintro ⟨b, mb, o, r, _, heq, hb, ho, hr, hrest⟩
        simp only [List.cons_append, List.cons.injEq] at heq
        obtain ⟨rfl, rfl, rfl, rfl⟩ := heq
        exact ⟨b, mb, o, r, _, rfl, hb, ho, hr, hrest⟩
      · rintro ⟨b, mb, o, r, _, heq, hb, ho, hr, hrest⟩
        cases heq
        exact ⟨b, mb, o, r, _, rfl, hb, ho, hr, hrest⟩

/-- Behind a blank without an `OR` nothing changes about the last one. -/
theorem splitLast_startsOr_append {m : Bool} {bs : List (Char × Bool)}
    (hbs : splitLast startsOr ((' ', m) :: bs) = none) (as : List (Char × Bool)) :
    splitLast startsOr (as ++ (' ', m) :: bs) =
      (splitLast startsOr as).map fun found => (found.1, found.2 ++ (' ', m) :: bs) := by
  induction as with
  | nil => exact hbs
  | cons a as ih =>
      rw [List.cons_append, splitLast, ih, splitLast]
      cases splitLast startsOr as with
      | some found => rfl
      | none =>
          simp only [Option.map_none, ← List.cons_append,
            startsOr_append_blank (List.cons_ne_nil a as)]
          split <;> rfl

/-- Where no `O` stands at the top level there is no `OR`. -/
theorem splitLast_startsOr_none {ms : List (Char × Bool)}
    (h : ∀ p ∈ ms, p.2 = true → p.1 ≠ 'o' ∧ p.1 ≠ 'O') : splitLast startsOr ms = none := by
  induction ms with
  | nil => rfl
  | cons p ms ih =>
      obtain ⟨-, hms⟩ := List.forall_mem_cons.mp h
      rw [splitLast_cons_none (ih hms), if_neg]
      intro hor
      obtain ⟨_, _, o, _, _, heq, -, ho, -⟩ := startsOr_iff.mp hor
      cases heq
      obtain ⟨hsmall, hlarge⟩ := hms (o, true) (List.mem_cons_self ..) rfl
      exact ho.elim hsmall hlarge

/-! ## Operators -/

/-- An operator that is written behind a pasted expression. -/
def IsComparison (db : Database) (operator : String) : Prop :=
  operator = " IS NOT NULL" ∨ ∃ value, operator = " = " ++ db.quoteLiteral value

theorem marks_quoteLiteral (db : Database) (text : String) :
    marks (db.quoteLiteral text).toList = (db.quoteLiteral text).toList.map (·, false) := by
  have hlist : (db.quoteLiteral text).toList =
      '\'' :: double db.doublesInLiteral text.toList ++ ['\''] := by
    simp [Database.quoteLiteral, Database.escapeLiteral]
  rw [hlist]
  exact (Cursor.quoted_run (p := db.doublesInLiteral) rfl rfl 0 text.toList).2.2

/-- A comparison begins with a blank and holds no `OR` outside of its literal. -/
theorem IsComparison.blank {db : Database} {operator : String} (h : IsComparison db operator) :
    ∃ rest, operator.toList = ' ' :: rest ∧
      splitLast startsOr ((' ', true) :: marks rest) = none := by
  rcases h with rfl | ⟨value, rfl⟩
  · exact ⟨"IS NOT NULL".toList, by decide, by rfl⟩
  · refine ⟨'=' :: ' ' :: (db.quoteLiteral value).toList, by simp, ?_⟩
    have hmarks : marks ('=' :: ' ' :: (db.quoteLiteral value).toList) =
        ('=', true) :: (' ', true) :: (db.quoteLiteral value).toList.map (·, false) := by
      have hinert : ∀ c ∈ ['=', ' '], isInert c = true := List.all_eq_true.mp (by decide)
      rw [← marks_quoteLiteral]
      exact marks_inert_append hinert _
    refine splitLast_startsOr_none fun p hp htop => ?_
    rw [hmarks] at hp
    simp only [List.mem_cons, List.mem_map] at hp
    rcases hp with rfl | rfl | rfl | ⟨c, -, rfl⟩
    · decide
    · decide
    · decide
    · cases htop

/-! ## Reaching back -/

theorem marks_append_blank {s : String} (hs : Closed s) (rest : List Char) :
    marks (' ' :: (s.toList ++ ' ' :: rest)) =
      marks (' ' :: s.toList) ++ (' ', true) :: marks rest := by
  have hclosed : isClosed (' ' :: s.toList) = true := by
    rwa [isClosed_cons_inert rfl]
  rw [← List.cons_append, marks, Cursor.marks_append, ← marks,
    Cursor.marks_inert (Cursor.legal_start.run _) (isClosed_iff.mp hclosed).2 rfl]

/-- A comparison behind a closed text is applied to what an operator behind it reaches. -/
theorem reach_append {db : Database} {s operator : String} (hs : Closed s)
    (h : IsComparison db operator) : reach (s ++ operator) = reach s ++ operator := by
  obtain ⟨rest, hrest, hnone⟩ := h.blank
  have hlast := splitLast_startsOr_append hnone (marks (' ' :: s.toList))
  rw [← marks_append_blank hs, ← hrest, ← String.toList_append] at hlast
  unfold reach
  rw [hlast]
  cases hfound : splitLast startsOr (marks (' ' :: s.toList)) with
  | none => rfl
  | some found =>
      obtain ⟨before, tail⟩ := found
      obtain ⟨b, m, o, r, after, rfl, -⟩ := startsOr_iff.mp (splitLast_some hfound).2
      rw [← String.toList_inj]
      simp [marks, hrest]

theorem reach_of_not_hasTopOr {s : String} (h : ¬ HasTopOr s) : reach s = s := by
  rw [HasTopOr, not_not] at h
  rw [reach, h]

/-- What is reached is what stands behind an `OR`. -/
theorem HasTopOr.cut {s : String} (h : HasTopOr s) :
    ∃ before word, s = before ++ word ++ reach s ∧ IsOrWord word := by
  obtain ⟨⟨before, tail⟩, hfound⟩ := Option.ne_none_iff_exists'.mp h
  obtain ⟨hsplit, hor⟩ := splitLast_some hfound
  obtain ⟨b, m, o, r, after, rfl, -, ho, hr, -⟩ := startsOr_iff.mp hor
  have hcs : ' ' :: s.toList = before.map Prod.fst ++ b :: o :: r :: after.map Prod.fst := by
    simpa [marks] using congrArg (List.map Prod.fst) hsplit
  -- The blank that was put in front is the first character of what stands before the word.
  have hlist : s.toList =
      (before.map Prod.fst ++ [b]).tail ++ ([o, r] ++ after.map Prod.fst) := by
    rw [← List.tail_append_of_ne_nil (List.concat_ne_nil _ _)]
    simpa using congrArg List.tail hcs
  refine ⟨String.ofList (before.map Prod.fst ++ [b]).tail, String.ofList [o, r], ?_, o, r, rfl, ho,
    hr⟩
  rw [← String.toList_inj, reach, hfound]
  simp [hlist]

/-- A group shows no `OR`, whatever it holds. -/
theorem IsGroup.not_hasTopOr {s : String} (h : IsGroup s) : ¬ HasTopOr s := by
  obtain ⟨inner, hinner, rfl⟩ := h
  have hkeeps := (isClosed_iff.mp hinner).1
  have hlist : ("(" ++ inner ++ ")").toList = '(' :: (inner.toList ++ [')']) := by simp
  have hopen : Cursor.start.step '(' = Cursor.start.raise 1 := rfl
  have hmarks : marks (' ' :: ("(" ++ inner ++ ")").toList) =
      (' ', true) :: ('(', false) :: (inner.toList.map (·, false) ++ [(')', false)]) := by
    rw [hlist]
    show (' ', true) :: ('(', false) :: (Cursor.start.step '(').marks _ = _
    rw [hopen, Cursor.marks_append, Cursor.marks_raise hkeeps]
    simp [Cursor.marks, Cursor.isTop]
  rw [HasTopOr, not_not, hmarks]
  refine splitLast_startsOr_none fun p hp htop => ?_
  simp only [List.mem_cons, List.mem_append, List.mem_map, List.not_mem_nil, or_false] at hp
  rcases hp with rfl | rfl | ⟨c, -, rfl⟩ | rfl
  · decide
  · cases htop
  · cases htop
  · cases htop

/-! ## Where a pivot compares -/

/-- The words that a column puts around a condition. -/
def IsFrame (before after : String) : Prop :=
  ((∃ s, before = s ++ "FILTER (WHERE ") ∧ ∃ s, after = ")" ++ s) ∨
    ((∃ s, before = s ++ "CASE WHEN ") ∧ ∃ s, after = " THEN " ++ s)

/-- The expressions that a census guards against nulls. -/
def Request.guarded (request : Request) (pivot : Line) : List String :=
  pivot.expression :: if (Shape.classify request).usesAxis then
    (request.axisSelect?.map Line.expression).toList else []

/-- The plan compares expressions as they were given: as conditions of the census, and in its
columns where no dataset has the values ready. -/
structure PivotPlan.Compares (plan : PivotPlan) (db : Database) (request : Request)
    (pivot : Line) : Prop where
  guards : ∃ before conditions after,
    plan.census.body = before ++ "\nWHERE " ++ conjunction conditions ++ after ∧
      ∀ subject ∈ request.guarded pivot, subject ++ " IS NOT NULL" ∈ conditions
  columns : Shape.classify request = .pivot → ∀ value, ∃ before after,
    plan.column.column db value =
      before ++ (pivot.expression ++ (" = " ++ db.quoteLiteral value)) ++ after ∧
      IsFrame before after

theorem conditions_render (db : Database) (query : Query) (h : query.filters ≠ []) :
    ∃ before after,
      query.render db = before ++ "\nWHERE " ++ conjunction query.filters ++ after := by
  have hline : "WHERE " ++ conjunction query.filters ∈ query.tailLines db :=
    (mem_tailLines db h).1 rfl
  obtain ⟨first, last, hlines⟩ := List.append_of_mem hline
  have hbreak : "\nWHERE " = "\n" ++ "WHERE " := by decide
  refine ⟨query.head db ++ indentLines first, indentLines last, ?_⟩
  rw [Query.render, Query.tail, hlines, indentLines_append, hbreak]
  simp only [indentLines, List.foldr_cons, String.append_assoc]

theorem ColumnTemplate.compares_forRows {db : Database} {pivotExpr : String} {count : Line}
    {template : ColumnTemplate} (h : forRows db pivotExpr count = .ok template) (value : String) :
    ∃ before after, template.column db value =
      before ++ (pivotExpr ++ (" = " ++ db.quoteLiteral value)) ++ after ∧
      IsFrame before after := by
  cases hdb : db.hasFilteredAggregates with
  | true =>
      obtain rfl := forRows_filter hdb h
      have hopen : " FILTER (WHERE " = " " ++ "FILTER (WHERE " := by decide
      have hclose : ") AS " = ")" ++ " AS " := by decide
      refine ⟨", " ++ count.expression ++ " FILTER (WHERE ", ") AS " ++ db.quoteIdent value, ?_,
        Or.inl ⟨⟨", " ++ count.expression ++ " ", ?_⟩, " AS " ++ db.quoteIdent value, ?_⟩⟩
      · simp only [column, ofFilter, String.append_assoc]
      · rw [hopen, String.append_assoc, String.append_assoc, String.append_assoc]
      · rw [hclose, String.append_assoc]
  | false =>
      obtain ⟨function, _, keyword, operand, -, -, -, rfl⟩ := forRows_condition hdb h
      refine ⟨", " ++ function ++ "(" ++ keyword ++ "CASE WHEN ",
        " THEN " ++ (operand ++ " ELSE NULL END) AS " ++ db.quoteIdent value), ?_,
        Or.inr ⟨⟨_, rfl⟩, _, rfl⟩⟩
      simp only [column, ofCondition, String.append_assoc]

section
variable {config : Config} {db : Database} {request : Request} {sql : String}
  (hsql : build config db request = .ok sql) (hpivot : (Shape.classify request).usesPivot = true)
include hsql hpivot

theorem compares_of_build :
    ∃ write plan statement pivot, Script.writer? config db = some write ∧
      Planned config db request (Shape.classify request) plan statement ∧
      sql = (write plan (Shape.classify request).usesAxis).render db ∧
      request.pivotSelect? = some pivot ∧ plan.Compares db request pivot := by
  have hshape := build_ok hsql
  cases hclass : Shape.classify request with
  | plain | axis =>
      rw [hclass] at hpivot
      cases hpivot
  | pivot =>
      rw [hclass] at hshape
      obtain ⟨write, plan, hwrite, hplan, rfl⟩ := Build.pivot_ok hshape
      obtain ⟨pivot, _, header, _, _, hselect, -, hheader, hvalues, htemplate, rfl⟩ :=
        PivotPlan.ofRows_ok hplan
      obtain ⟨count, limit, -, -, rfl⟩ := census_ok hvalues
      obtain ⟨before, after, hbody⟩ := conditions_render db
        (censusQuery db request count limit pivot.expression none) (by simp [censusQuery])
      refine ⟨write, _, _, pivot, hwrite, .rows hplan hselect hheader, rfl, hselect,
        ⟨before, _, after, hbody, ?_⟩, fun _ value =>
          ColumnTemplate.compares_forRows htemplate value⟩
      simp [Request.guarded, hclass, Shape.usesAxis, censusQuery]
  | axisPivot =>
      rw [hclass] at hshape
      obtain ⟨write, spec, plan, hwrite, hspec, hplan, rfl⟩ := Build.axisPivot_ok hshape
      obtain ⟨pivot, axisPlan, _, _, hselect, haxis, -, hvalues, rfl⟩ := PivotPlan.ofAxis_ok hplan
      obtain ⟨count, limit, -, -, rfl⟩ := census_ok hvalues
      obtain ⟨before, after, hbody⟩ := conditions_render db
        (censusQuery db request count limit pivot.expression (some axisPlan.axisExpr))
        (by simp [censusQuery])
      obtain ⟨_, axis, _, -, haxisSelect, -, hexpr⟩ := AxisPlan.ofRequest_ok haxis
      refine ⟨write, _, _, pivot, hwrite, .axis hspec hplan haxis, rfl, hselect,
        ⟨before, _, after, hbody, ?_⟩, fun hrows => ?_⟩
      · simp [Request.guarded, hclass, Shape.usesAxis, censusQuery, haxisSelect, hexpr]
      · rw [hclass] at hrows
        cases hrows

/-- **A comparison reaches back to the last `OR`.** The guards and the columns of a pivot compare
the expressions as they were given. Behind a closed expression that shows no `OR` a comparison is
applied to all of it, which is so for every expression that was given as a group; behind one that
does, it is applied to the last alternative only. -/
theorem comparisons_reach_back :
    ∃ write plan statement pivot, Script.writer? config db = some write ∧
      Planned config db request (Shape.classify request) plan statement ∧
      sql = (write plan (Shape.classify request).usesAxis).render db ∧
      request.pivotSelect? = some pivot ∧ plan.Compares db request pivot ∧
      ∀ subject ∈ request.guarded pivot,
        (IsGroup subject → ¬ HasTopOr subject) ∧
        (Closed subject → ∀ operator, IsComparison db operator →
          (¬ HasTopOr subject → reach (subject ++ operator) = subject ++ operator) ∧
          (HasTopOr subject → ∃ before word last, subject = before ++ word ++ last ∧
            IsOrWord word ∧ reach (subject ++ operator) = last ++ operator)) := by
  obtain ⟨write, plan, statement, pivot, hwrite, hplanned, hrender, hselect, hcompares⟩ :=
    compares_of_build hsql hpivot
  refine ⟨write, plan, statement, pivot, hwrite, hplanned, hrender, hselect, hcompares,
    fun subject _ => ⟨IsGroup.not_hasTopOr, fun hclosed operator hoperator => ⟨fun hor => ?_,
      fun hor => ?_⟩⟩⟩
  · rw [reach_append hclosed hoperator, reach_of_not_hasTopOr hor]
  · obtain ⟨before, word, hcut, hword⟩ := hor.cut
    exact ⟨before, word, reach subject, hcut, hword, reach_append hclosed hoperator⟩

end

/-- A pivot that was given as a group, over an axis that was not. -/
theorem comparisons_reach_back_grouped :
    let request : Request := ⟨[⟨"a or b AS day", .select, .axis⟩,
      ⟨"(p OR q) AS kind", .select, .pivot⟩, ⟨"COUNT(*) AS n", .select, .count⟩,
      .plain .table "t", ⟨"a or b", .groupBy, .axis⟩], some ⟨"'2020-01-01'", "'2020-02-01'", .day⟩⟩
    ∃ sql pivot, build {} .mySql request = .ok sql ∧ request.pivotSelect? = some pivot ∧
      request.guarded pivot = ["(p OR q)", "a or b"] ∧
      reach "(p OR q) IS NOT NULL" = "(p OR q) IS NOT NULL" ∧
      ∃ before word last, "a or b" = before ++ word ++ last ∧ IsOrWord word ∧
        reach "a or b IS NOT NULL" = last ++ " IS NOT NULL" := by
  intro request
  obtain ⟨sql, hsql⟩ : ∃ sql, build {} .mySql request = .ok sql := ⟨_, rfl⟩
  obtain ⟨_, _, _, pivot, -, -, -, hselect, -, hreach⟩ := comparisons_reach_back hsql (by decide)
  cases hselect
  refine ⟨sql, _, hsql, rfl, by decide, ?_, ?_⟩
  · obtain ⟨hgroup, hwhole⟩ := hreach "(p OR q)" (by decide)
    have hpivot : IsGroup "(p OR q)" := ⟨"p OR q", by decide, by decide⟩
    exact (hwhole (by decide) " IS NOT NULL" (Or.inl rfl)).1 (hgroup hpivot)
  · obtain ⟨-, hlast⟩ := hreach "a or b" (by decide)
    exact (hlast (by decide) " IS NOT NULL" (Or.inl rfl)).2 (by unfold HasTopOr; decide +kernel)

/-- The columns of this pivot count the rows with `a`, whatever their value, and its census keeps
the rows where `b` is null. -/
theorem or_escapes_comparison :
    let request : Request := ⟨[.plain .select "Region", ⟨"a OR b", .select, .pivot⟩,
      ⟨"COUNT(*)", .select, .count⟩, .plain .table "events"], none⟩
    Closed "a OR b" ∧ HasTopOr "a OR b" ∧ Shape.classify request = .pivot ∧
    (∃ sql, build {} .mySql request = .ok sql) ∧
    ∃ plan, PivotPlan.ofRows .mySql request = .ok plan ∧
      plan.census.body = "SELECT CAST(a OR b AS CHAR) AS piv, " ++
        "ROW_NUMBER() OVER (ORDER BY COUNT(*) DESC, a OR b ASC) AS rn\nFROM events" ++
        "\nWHERE a OR b IS NOT NULL\nGROUP BY a OR b" ∧
      plan.column.column .mySql "x" =
        ", COUNT(CASE WHEN a OR b = 'x' THEN 1 ELSE NULL END) AS `x`" ∧
      ¬ "(a OR b) IS NOT NULL".toList <:+: plan.census.body.toList ∧
      ¬ "(a OR b) = ".toList <:+: (plan.column.column .mySql "x").toList ∧
      reach "a OR b IS NOT NULL" = " b IS NOT NULL" ∧ reach "a OR b = 'x'" = " b = 'x'" := by
  intro request
  refine ⟨by decide, by unfold HasTopOr; decide +kernel, by decide, ⟨_, rfl⟩, _, rfl, ?_, ?_, ?_,
    ?_, ?_, ?_⟩
  all_goals decide +kernel

end Crosstab
