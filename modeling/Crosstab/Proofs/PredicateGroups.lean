import Mathlib.Data.List.Forall2
import Crosstab.Proofs.Calls
import Crosstab.Proofs.Rendering

/-!
# Predicates in a conjunction

Several predicates of one clause are put side by side, each as a group: a text that is one pair of
parentheses around a closed text. A predicate that is wrapped already is taken for a group as it
is, so everything rests on that test, and `isWrapped_iff` says that it finds the groups and nothing
else.

`Cursor.outside` is what stands outside every parenthesis of a text. A group shows nothing there but
its own two parentheses and leaves the reader as it found it, so what is to be seen of a conjunction
is `() AND () AND ()`, however the predicates are written. An `OR` between them would be seen too.
-/

namespace Crosstab

/-! ## The surface of a text -/

namespace Cursor

/-- The characters outside every parenthesis, and the parentheses around the others. -/
def outside (k : Cursor) : List Char → List Char
  | [] => []
  | c :: cs =>
    if k.depth = 0 ∨ (k.step c).depth = 0 then c :: outside (k.step c) cs
    else outside (k.step c) cs

theorem outside_append (k : Cursor) (as bs : List Char) :
    k.outside (as ++ bs) = k.outside as ++ (k.run as).outside bs := by
  induction as generalizing k with
  | nil => rfl
  | cons c as ih =>
      rw [List.cons_append, outside, outside, ih, run_cons]
      split <;> rfl

/-- Within a parenthesis nothing is outside. -/
theorem outside_raise {k : Cursor} {cs : List Char} (h : k.keeps cs = true) :
    (k.raise 1).outside cs = [] := by
  induction cs generalizing k with
  | nil => rfl
  | cons c cs ih =>
      rw [keeps, Bool.and_eq_true, Bool.not_eq_true'] at h
      obtain ⟨hc, hcs⟩ := h
      rw [outside, step_raise 1 hc, if_neg (by simp [raise]), ih hcs]

end Cursor

/-- What stands outside every parenthesis of a text. -/
def outside (s : String) : String := String.ofList (Cursor.start.outside s.toList)

/-! ## Groups -/

/-- One pair of parentheses around a closed text. -/
def IsGroup (s : String) : Prop := ∃ inner, Closed inner ∧ s = "(" ++ inner ++ ")"

theorem trimmed_parens (inner : String) : Trimmed ("(" ++ inner ++ ")").toList := by
  have hblank : isBlank '(' = false ∧ isBlank ')' = false := by decide
  constructor
  · intro c hc
    simp only [String.toList_append] at hc
    cases hc
    exact hblank.1
  · intro c hc
    simp only [String.toList_append, List.getLast?_append] at hc
    cases hc
    exact hblank.2

theorem isWrapped_iff {s : String} : isWrapped s.toList = true ↔ IsGroup (trimText s) := by
  have hlist {inner : List Char} : trim s.toList = '(' :: (inner ++ [')']) ↔
      trimText s = "(" ++ String.ofList inner ++ ")" := by
    rw [← String.toList_inj, trimText, String.toList_ofList]
    simp
  rw [isWrapped]
  constructor
  · intro h
    split at h
    · rename_i rest hrest
      split at h
      · rename_i inner hinner
        obtain ⟨hclosed, rfl⟩ := enclosed?_some hinner
        refine ⟨String.ofList inner, ?_, hlist.mp hrest⟩
        rwa [Closed, String.toList_ofList]
      · cases h
    · cases h
  · rintro ⟨inner, hinner, htrim⟩
    rw [← String.ofList_toList (s := inner), ← hlist] at htrim
    rw [htrim]
    simp only [enclosed?_closed hinner]

namespace IsGroup

variable {s : String} (h : IsGroup s)
include h

theorem closed : Closed s := by
  obtain ⟨inner, hinner, rfl⟩ := h
  exact closed_of_reads (.paste (.own rfl) hinner (.own rfl))

theorem wrapped : isWrapped s.toList = true := by
  rw [isWrapped_iff, trimText]
  obtain ⟨inner, hinner, rfl⟩ := h
  rw [(trimmed_parens inner).trim, String.ofList_toList]
  exact ⟨inner, hinner, rfl⟩

/-- A group shows its two parentheses and leaves a reader where it was. -/
theorem surface : Cursor.start.run s.toList = Cursor.start ∧
    Cursor.start.outside s.toList = ['(', ')'] := by
  obtain ⟨inner, hinner, rfl⟩ := h
  have hkeeps := (isClosed_iff.mp hinner).1
  have hraise := (Cursor.keeps_raise 1 hkeeps).2
  have hshut := step_shut hinner
  have hopen : Cursor.start.step '(' = Cursor.start.raise 1 := rfl
  have hlist : ("(" ++ inner ++ ")").toList = '(' :: (inner.toList ++ [')']) := by simp
  constructor
  · rw [hlist, Cursor.run_cons, hopen, Cursor.run_append, hraise, Cursor.run_cons, hshut]
    rfl
  · have hfirst : Cursor.start.depth = 0 := rfl
    rw [hlist, Cursor.outside, if_pos (Or.inl hfirst), hopen, Cursor.outside_append, hraise,
      Cursor.outside_raise hkeeps, Cursor.outside, hshut, if_pos (Or.inr hfirst)]
    rfl

end IsGroup

theorem isGroup_groupPredicate {predicate : String} (h : Closed predicate) :
    IsGroup (groupPredicate predicate) := by
  unfold groupPredicate
  split
  · exact isWrapped_iff.mp ‹_›
  · exact ⟨_, closed_trimText h, rfl⟩

theorem groupPredicate_cases (predicate : String) :
    groupPredicate predicate = trimText predicate ∨
      groupPredicate predicate = "(" ++ trimText predicate ++ ")" := by
  unfold groupPredicate
  split
  · exact Or.inl rfl
  · exact Or.inr rfl

/-- The surface of groups joined by `AND`. -/
theorem outside_groups {groups : List String} (h : ∀ g ∈ groups, IsGroup g) :
    Cursor.start.outside (" AND ".intercalate groups).toList =
      (" AND ".intercalate (groups.map fun _ => "()")).toList := by
  induction groups with
  | nil => rfl
  | cons g groups ih =>
      obtain ⟨hg, hgroups⟩ := List.forall_mem_cons.mp h
      obtain ⟨hrun, houtside⟩ := hg.surface
      cases groups with
      | nil =>
          rw [String.intercalate_singleton, houtside, List.map_singleton,
            String.intercalate_singleton]
          rfl
      | cons g' groups =>
          have hand : Cursor.start.run " AND ".toList = Cursor.start ∧
              Cursor.start.outside " AND ".toList = " AND ".toList := ⟨rfl, rfl⟩
          rw [String.intercalate_cons_cons, String.toList_append, String.toList_append,
            Cursor.outside_append, Cursor.outside_append, Cursor.run_append, houtside, hrun,
            hand.1, hand.2, ih hgroups]
          simp [String.intercalate_cons_cons]

theorem conjunction_eq {predicates : List String} (h : 2 ≤ predicates.length) :
    conjunction predicates = " AND ".intercalate (predicates.map groupPredicate) := by
  unfold conjunction
  split
  · cases h
  · exact absurd h (by simp)
  · rfl

/-- A clause of predicates is the line that it is written as. -/
theorem mem_tailLines (db : Database) {query : Query} {predicates : List String}
    (h : predicates ≠ []) :
    (query.filters = predicates → "WHERE " ++ conjunction predicates ∈ query.tailLines db) ∧
      (query.having = predicates → "HAVING " ++ conjunction predicates ∈ query.tailLines db) := by
  have hclause (keyword : String) : keyword ++ conjunction predicates ∈
      predicateClause keyword predicates := by
    rw [predicateClause, if_neg (by simpa using h)]
    exact List.mem_singleton_self _
  constructor
  · rintro rfl
    simp [Query.tailLines, hclause "WHERE "]
  · rintro rfl
    simp [Query.tailLines, hclause "HAVING "]

/-- **A predicate cannot capture its neighbours.** The clause of several closed predicates is one
group for each of them, in order and joined by `AND`. A group is the trimmed predicate, in
parentheses that were added unless its first parenthesis is matched by its last one, and no other
character of the clause stands outside all parentheses than those of the joiners. -/
theorem predicates_stay_apart {predicates : List String} (hclosed : AllClosed predicates)
    (hseveral : 2 ≤ predicates.length) :
    ∃ groups, conjunction predicates = " AND ".intercalate groups ∧
      List.Forall₂ (fun predicate group =>
        (group = trimText predicate ∨ group = "(" ++ trimText predicate ++ ")") ∧
          Closed group ∧ isWrapped group.toList = true) predicates groups ∧
      outside (conjunction predicates) = " AND ".intercalate (predicates.map fun _ => "()") ∧
      ∀ (db : Database) (query : Query),
        (query.filters = predicates →
          "WHERE " ++ conjunction predicates ∈ query.tailLines db) ∧
        (query.having = predicates →
          "HAVING " ++ conjunction predicates ∈ query.tailLines db) := by
  have hgroups : ∀ g ∈ predicates.map groupPredicate, IsGroup g :=
    List.forall_mem_map.mpr fun p hp => isGroup_groupPredicate (hclosed p hp)
  have hne : predicates ≠ [] := by
    rintro rfl
    cases hseveral
  refine ⟨predicates.map groupPredicate, conjunction_eq hseveral, ?_, ?_,
    fun db query => mem_tailLines db hne⟩
  · rw [List.forall₂_map_right_iff, List.forall₂_same]
    intro p hp
    have hgroup := isGroup_groupPredicate (hclosed p hp)
    exact ⟨groupPredicate_cases p, hgroup.closed, hgroup.wrapped⟩
  · rw [outside, conjunction_eq hseveral, outside_groups hgroups, List.map_map,
      String.ofList_toList]
    rfl

/-- An `OR` between parentheses, one behind a quoted parenthesis, and one in parentheses of its own
with blanks around them. -/
theorem predicates_stay_apart_quoted :
    let predicates := ["(a) OR (b)", "c = ')''' OR d", " (e OR [f)]) "]
    (AllClosed predicates ∧ 2 ≤ predicates.length) ∧
      conjunction predicates = "((a) OR (b)) AND (c = ')''' OR d) AND (e OR [f)])" ∧
      outside (conjunction predicates) = "() AND () AND ()" := by
  intro predicates
  have hclosed : AllClosed predicates := by
    simp only [AllClosed, predicates, List.forall_mem_cons]
    exact ⟨by decide, by decide, by decide, fun _ h => nomatch h⟩
  have hseveral : 2 ≤ predicates.length := by decide
  refine ⟨⟨hclosed, hseveral⟩, by decide +kernel, ?_⟩
  obtain ⟨-, -, -, houtside, -⟩ := predicates_stay_apart hclosed hseveral
  rw [houtside]
  rfl

end Crosstab
