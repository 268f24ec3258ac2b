import Crosstab.Statement
import Crosstab.Proofs.Clauses

/-!
# Rendering closed sections

A statement is closed when its sections are (`Query.ClosedParts.render`). Each part of the rendering
has one lemma, stated for any given texts; what is pasted around them is read by evaluation.

Two equations say where things stand in a rendering: `Query.head_with` finds the parenthesis of a
common table expression, and `Query.head_columns` adds columns behind the select list.
-/

namespace Crosstab

/-- Every text of a list is closed. -/
def AllClosed (texts : List String) : Prop := ∀ s ∈ texts, Closed s

namespace AllClosed

theorem nil : AllClosed [] := fun _ h => nomatch h

theorem cons {s : String} {texts : List String} (hs : Closed s) (h : AllClosed texts) :
    AllClosed (s :: texts) := List.forall_mem_cons.mpr ⟨hs, h⟩

theorem append {as bs : List String} (ha : AllClosed as) (hb : AllClosed bs) :
    AllClosed (as ++ bs) := List.forall_mem_append.mpr ⟨ha, hb⟩

theorem map {α : Type} {f : α → String} {as : List α} (h : ∀ a ∈ as, Closed (f a)) :
    AllClosed (as.map f) := List.forall_mem_map.mpr h

end AllClosed

/-! ## Lists of texts -/

theorem closed_empty : Closed "" := rfl

/-- Closed texts around a separator that does not continue the text before it. -/
theorem closed_intercalate {separator : String} {texts : List String}
    (hsep : Reads ⟨0, false⟩ separator ⟨0, true⟩) (h : AllClosed texts) :
    Closed (separator.intercalate texts) := by
  induction texts with
  | nil => exact closed_empty
  | cons s texts ih =>
      obtain ⟨hs, htexts⟩ := List.forall_mem_cons.mp h
      cases texts with
      | nil =>
          rw [String.intercalate_singleton]
          exact hs
      | cons t texts =>
          rw [String.intercalate_cons_cons]
          exact closed_of_reads (.trans (.trans (.given hs) hsep) (.given (ih htexts)))

/-- The text before some of the items of a list, if these are not the last. -/
theorem intercalate_append (separator : String) (as : List String) {bs : List String}
    (h : bs ≠ []) : separator.intercalate (as ++ bs) =
      String.join (as.map (· ++ separator)) ++ separator.intercalate bs := by
  induction as with
  | nil => simp
  | cons a as ih =>
      have hne : as ++ bs ≠ [] := List.append_ne_nil_of_right_ne_nil as h
      rw [List.cons_append, String.intercalate_cons_of_ne_nil hne, ih, List.map_cons,
        String.join_cons]
      simp only [String.append_assoc]

/-- More items at the end of a list each bring a separator. -/
theorem intercalate_append_join (separator : String) {as : List String} (h : as ≠ [])
    (bs : List String) :
    separator.intercalate as ++ String.join (bs.map (separator ++ ·)) =
      separator.intercalate (as ++ bs) := by
  induction bs generalizing as with
  | nil => simp
  | cons b bs ih =>
      rw [List.append_cons, ← ih (List.concat_ne_nil b as),
        String.intercalate_append_of_ne_nil h (List.cons_ne_nil b [])]
      simp [String.append_assoc]

/-- A separator that a reading does not see. -/
theorem filterMap_intercalate {α β : Type} {f : α → Option β} {a : α} (h : f a = none)
    (parts : List (List α)) :
    ([a].intercalate parts).filterMap f = parts.flatMap (·.filterMap f) := by
  induction parts with
  | nil => rfl
  | cons part parts ih =>
      cases parts with
      | nil => simp
      | cons next parts =>
          rw [List.intercalate_cons_cons, List.filterMap_append, List.filterMap_append, ih,
            List.flatMap_cons]
          simp [h]

/-- Text after the last of some lines belongs to that line. -/
theorem intercalate_concat_append (separator : String) (lines : List String) (last more : String) :
    separator.intercalate (lines ++ [last]) ++ more =
      separator.intercalate (lines ++ [last ++ more]) := by
  rw [intercalate_append _ _ (List.cons_ne_nil _ _), intercalate_append _ _ (List.cons_ne_nil _ _),
    String.intercalate_singleton, String.intercalate_singleton, String.append_assoc]

/-- A text on lines of its own. -/
theorem closed_lines {s : String} (h : Closed s) : Closed ("\n" ++ s ++ "\n") :=
  closed_of_reads (.paste (.own rfl) h (.own rfl))

theorem indentLines_eq (lines : List String) :
    indentLines lines = String.join (lines.map ("\n" ++ ·)) := by
  induction lines with
  | nil => rfl
  | cons line lines ih =>
      rw [List.map_cons, String.join_cons, ← ih]
      rfl

theorem indentLines_append (as bs : List String) :
    indentLines (as ++ bs) = indentLines as ++ indentLines bs := by
  simp only [indentLines_eq, List.map_append, String.join_append]

theorem reads_indentLines {lines : List String} (h : AllClosed lines) :
    Reads ⟨0, false⟩ (indentLines lines) ⟨0, false⟩ := by
  induction lines with
  | nil => exact .own rfl
  | cons line lines ih =>
      obtain ⟨hline, hlines⟩ := List.forall_mem_cons.mp h
      exact .trans (.trans (.own rfl) (.given hline)) (ih hlines)

/-! ## Clauses -/

theorem closed_groupPredicate {predicate : String} (h : Closed predicate) :
    Closed (groupPredicate predicate) := by
  have htrim := closed_trimText h
  unfold groupPredicate
  split
  · exact htrim
  · exact closed_of_reads (.paste (.own rfl) htrim (.own rfl))

theorem closed_conjunction {predicates : List String} (h : AllClosed predicates) :
    Closed (conjunction predicates) := by
  unfold conjunction
  split
  · exact closed_empty
  · exact h _ (List.mem_singleton_self _)
  · exact closed_intercalate (.own rfl)
      (.map fun predicate hp => closed_groupPredicate (h predicate hp))

theorem closed_clause {keyword separator : String} {items : List String}
    (hkeyword : Reads ⟨0, true⟩ keyword ⟨0, true⟩) (hsep : Reads ⟨0, false⟩ separator ⟨0, true⟩)
    (h : AllClosed items) : AllClosed (clause keyword separator items) := by
  unfold clause
  split
  · exact .nil
  · exact .cons (closed_of_reads (.trans hkeyword (.given (closed_intercalate hsep h)))) .nil

theorem closed_predicateClause {keyword : String} {predicates : List String}
    (hkeyword : Reads ⟨0, true⟩ keyword ⟨0, true⟩) (h : AllClosed predicates) :
    AllClosed (predicateClause keyword predicates) := by
  unfold predicateClause
  split
  · exact .nil
  · exact .cons (closed_of_reads (.trans hkeyword (.given (closed_conjunction h)))) .nil

/-! ## Common table expressions -/

/-- A common table expression of closed texts. -/
structure Cte.ClosedParts (cte : Cte) : Prop where
  name : Closed cte.name
  columns : AllClosed cte.columns
  body : Closed cte.body

/-- What a common table expression says before the parenthesis of its body. -/
def Cte.opening (cte : Cte) : String :=
  cte.name ++ (if cte.columns.isEmpty then "" else " (" ++ ", ".intercalate cte.columns ++ ")") ++
    " AS "

theorem Cte.render_eq (cte : Cte) :
    cte.render = cte.opening ++ "(" ++ ("\n" ++ cte.body ++ "\n") ++ ")" := by
  have hopen : " AS (\n" = " AS " ++ "(" ++ "\n" := by decide
  have hclose : "\n)" = "\n" ++ ")" := by decide
  simp only [Cte.render, Cte.opening, hopen, hclose, String.append_assoc]

theorem Cte.ClosedParts.render {cte : Cte} (h : cte.ClosedParts) : Closed cte.render := by
  have hcolumns : Reads ⟨0, false⟩
      (if cte.columns.isEmpty then "" else " (" ++ ", ".intercalate cte.columns ++ ")")
      ⟨0, false⟩ := by
    split
    · exact .own rfl
    · have hlist : Closed (", ".intercalate cte.columns) := closed_intercalate (.own rfl) h.columns
      exact .unsettle (.paste (.own rfl) hlist (.own rfl))
  have hbody := closed_lines h.body
  have hopening : Reads ⟨0, true⟩ cte.opening ⟨0, true⟩ :=
    .trans (.trans (.given h.name) hcolumns) (.own rfl)
  rw [cte.render_eq]
  exact closed_of_reads (.paste (.trans hopening (.own rfl)) hbody (.own rfl))

theorem renderWith_singleton (db : Database) (cte : Cte) :
    renderWith db [cte] = withKeyword db [cte] ++ cte.render := by
  rw [renderWith, List.map_singleton, String.intercalate_singleton]

theorem closed_renderWith {db : Database} {ctes : List Cte} (h : ∀ cte ∈ ctes, cte.ClosedParts) :
    Closed (renderWith db ctes) := by
  have hkeyword : Reads ⟨0, true⟩ (withKeyword db ctes) ⟨0, true⟩ := by
    unfold withKeyword
    split <;> exact .own rfl
  have hlist : Closed (",\n".intercalate (ctes.map Cte.render)) :=
    closed_intercalate (.own rfl) (.map fun cte hcte => (h cte hcte).render)
  exact closed_of_reads (.trans hkeyword (.given hlist))

/-! ## Queries -/

/-- A query of closed texts. -/
structure Query.ClosedParts (query : Query) : Prop where
  preSelect : AllClosed query.preSelect
  ctes : ∀ cte ∈ query.ctes, cte.ClosedParts
  select : AllClosed query.select
  tables : AllClosed query.tables
  filters : AllClosed query.filters
  groupBy : AllClosed query.groupBy
  having : AllClosed query.having
  orderBy : AllClosed query.orderBy
  trailing : AllClosed query.trailing

namespace Query

theorem reads_selectKeyword (db : Database) (query : Query) :
    Reads ⟨0, true⟩ (query.selectKeyword db) ⟨0, true⟩ := by
  unfold selectKeyword
  split
  · rename_i top htop
    obtain ⟨n, -, hn⟩ := Option.map_eq_some_iff.mp htop
    have htop := db.closed_limitClause n top (Or.inl hn)
    exact .paste (.own rfl) htop (.own rfl)
  · exact .own rfl

theorem closed_trailingLimit (db : Database) (query : Query) :
    AllClosed (query.trailingLimit db) := by
  unfold trailingLimit
  split
  · rename_i text htext
    obtain ⟨n, -, hn⟩ := Option.map_eq_some_iff.mp htext
    exact .cons (db.closed_limitClause n text (Or.inr hn)) .nil
  · exact .nil

namespace ClosedParts

variable {query : Query} (h : query.ClosedParts) (db : Database)
include h

theorem selectClause : Closed (query.selectClause db) :=
  closed_of_reads (.trans (query.reads_selectKeyword db)
    (.given (closed_intercalate (.own rfl) h.select)))

theorem head : Closed (query.head db) := by
  refine closed_intercalate (.own rfl) (.append (.append h.preSelect ?_) (.cons ?_ .nil))
  · split
    · exact .nil
    · exact .cons (closed_renderWith h.ctes) .nil
  · exact h.selectClause db

/-- The lines after the select list start with a line break, so they can follow any closed text. -/
theorem tail : Reads ⟨0, false⟩ (query.tail db) ⟨0, false⟩ := by
  refine reads_indentLines (.append (.append (.append (.append (.append (.append ?_ ?_) ?_) ?_) ?_)
    ?_) h.trailing)
  · exact closed_clause (.own rfl) (.own rfl) h.tables
  · exact closed_predicateClause (.own rfl) h.filters
  · exact closed_clause (.own rfl) (.own rfl) h.groupBy
  · exact closed_predicateClause (.own rfl) h.having
  · exact closed_clause (.own rfl) (.own rfl) h.orderBy
  · exact query.closed_trailingLimit db

/-- A query of closed texts is a closed text. -/
theorem render : Closed (query.render db) :=
  closed_of_reads (.trans (.given (h.head db)) (h.tail db))

end ClosedParts

/-- A query with nothing ahead of it begins with its select list. -/
theorem head_eq (db : Database) {query : Query} (hpre : query.preSelect = [])
    (hctes : query.ctes = []) : query.head db = query.selectClause db := by
  rw [head, headLines, hpre, hctes]
  rw [show [] ++ (if ([] : List Cte).isEmpty then [] else [renderWith db []]) ++
      [query.selectClause db] = [query.selectClause db] from rfl, String.intercalate_singleton]

theorem render_eq (db : Database) {query : Query} (hpre : query.preSelect = [])
    (hctes : query.ctes = []) :
    query.render db =
      query.selectKeyword db ++ ", ".intercalate query.select ++ query.tail db := by
  rw [render, head_eq db hpre hctes, selectClause]

/-- A limit that is not written after `SELECT` is the last line. -/
theorem tail_limit (db : Database) {query : Query} (htrailing : query.trailing = []) :
    query.tail db =
      { query with limit := none }.tail db ++ indentLines (query.trailingLimit db) := by
  have hnone : { query with limit := none }.trailingLimit db = [] := rfl
  simp only [tail, tailLines, hnone]
  simp only [htrailing, List.append_nil, indentLines_append]

/-- The parenthesis of a common table expression in the head of a statement. -/
theorem head_with (db : Database) {query : Query} {cte : Cte} (hctes : query.ctes = [cte]) :
    query.head db =
      String.join (query.preSelect.map (· ++ "\n")) ++ withKeyword db [cte] ++ cte.opening ++ "(" ++
        ("\n" ++ cte.body ++ "\n") ++ ")" ++ ("\n" ++ query.selectClause db) := by
  have hlines : query.headLines db =
      query.preSelect ++ [renderWith db [cte], query.selectClause db] := by
    rw [headLines, hctes, List.append_assoc]
    rfl
  rw [head, hlines, intercalate_append _ _ (List.cons_ne_nil _ _), String.intercalate_cons_cons,
    String.intercalate_singleton, renderWith_singleton, cte.render_eq]
  simp only [String.append_assoc]

/-- Columns written after the head of a statement join its select list. -/
theorem head_columns (db : Database) (query : Query) (h : query.select ≠ []) (items : List String) :
    query.head db ++ String.join (items.map (", " ++ ·)) =
      { query with select := query.select ++ items }.head db := by
  simp only [head, headLines, intercalate_concat_append]
  simp only [selectClause, String.append_assoc, intercalate_append_join _ h]
  rfl

end Query

end Crosstab
