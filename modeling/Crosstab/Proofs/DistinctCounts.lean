import Crosstab.Proofs.ClosedPivot

/-!
# Distinct counts

The count of a pivot value is the call of the count with a condition inside of it, and a leading
`DISTINCT` has to stay in front of that condition. The keyword is recognised by its eight letters in
any letter case and one space (`stripDistinct_iff`). Then it is written outside and what is behind
it is trimmed; in front of anything else the argument is counted whole (`restricts_forRows`), which
is right for a word that only begins like the keyword.

It is not right where another blank or a parenthesis ends the keyword: `distinct_inside` is such a
count, and its keyword ends up behind `THEN`.
-/

namespace Crosstab

/-! ## The keyword -/

/-- The keyword `DISTINCT`, in any letter case, begins the text and leaves `behind`. -/
def LeadsDistinct (cs behind : List Char) : Prop :=
  ∃ word, cs = word ++ behind ∧ word.map Char.toUpper = "DISTINCT".toList

/-- The text begins with the keyword and not with a longer word: a blank or a parenthesis is
next. -/
def SaysDistinct (cs behind : List Char) : Prop :=
  LeadsDistinct cs behind ∧ ∃ c, behind.head? = some c ∧ (isBlank c = true ∨ c = '(')

theorem LeadsDistinct.behind_eq {cs behind : List Char} (h : LeadsDistinct cs behind) :
    behind = cs.drop 8 := by
  obtain ⟨word, rfl, hword⟩ := h
  have hlength : word.length = 8 := by
    rw [← List.length_map (f := Char.toUpper), hword]
    rfl
  rw [← hlength, List.drop_left]

theorem LeadsDistinct.unique {cs behind behind' : List Char} (h : LeadsDistinct cs behind)
    (h' : LeadsDistinct cs behind') : behind = behind' :=
  h.behind_eq.trans h'.behind_eq.symm

theorem eq_space_of_toUpper {c : Char} (h : c.toUpper = ' ') : c = ' ' := by
  unfold Char.toUpper at h
  split at h
  · -- A small letter becomes a capital one, and both stand behind the space.
    rename_i hletter
    have hval := congrArg UInt32.toNat (congrArg Char.val h)
    simp only [UInt32.le_iff_toNat_le, UInt32.toNat_add] at hletter hval
    have hsmall : 'a'.val.toNat = 97 ∧ 'z'.val.toNat = 122 := ⟨rfl, rfl⟩
    have hshift : ('A'.val - 'a'.val).toNat = 2 ^ 32 - 32 ∧ ' '.val.toNat = 32 := ⟨rfl, rfl⟩
    omega
  · exact h

/-- What is stripped off an argument is the keyword and the blanks behind it, of which the first has
to be a space. -/
theorem stripDistinct_iff {cs inner : List Char} :
    stripDistinct cs = some inner ↔
      ∃ behind, LeadsDistinct cs behind ∧ behind.head? = some ' ' ∧ inner = trimStart behind := by
  have hsplit : "DISTINCT ".toList = "DISTINCT".toList ++ [' '] := rfl
  rw [stripDistinct]
  constructor
  · intro h
    split at h
    · rename_i hword
      cases h
      rw [hsplit, List.map_eq_append_iff] at hword
      obtain ⟨word, blank, htake, hword, hblank⟩ := hword
      obtain ⟨c, rfl, hc⟩ := List.map_eq_singleton_iff.mp hblank
      obtain rfl := eq_space_of_toUpper hc
      refine ⟨' ' :: cs.drop 9, ⟨word, ?_, hword⟩, rfl, ?_⟩
      · rw [← List.singleton_append, ← List.append_assoc, ← htake, List.take_append_drop]
      · rfl
    · cases h
  · rintro ⟨behind, ⟨word, rfl, hword⟩, hhead, rfl⟩
    obtain ⟨rest, rfl⟩ := List.head?_eq_some_iff.mp hhead
    have hlength : (word ++ [' ']).length = 9 := by
      rw [List.length_append, ← List.length_map (f := Char.toUpper), hword]
      rfl
    have hcut : word ++ ' ' :: rest = (word ++ [' ']) ++ rest := by simp
    rw [hcut, ← hlength, List.take_left, List.drop_left, if_pos]
    · rfl
    · rw [List.map_append, hword]
      rfl

/-- Behind the keyword there is no blank left to trim at the end of an argument. -/
theorem trim_behind {cs behind : List Char} (hcs : Trimmed cs) (h : LeadsDistinct cs behind) :
    trim behind = trimStart behind := by
  obtain ⟨word, rfl, -⟩ := h
  refine dropTailWhile_eq_self fun c hc => hcs.2 c ?_
  have hsuffix : trimStart behind <:+ word ++ behind :=
    (List.dropWhile_suffix _).trans (List.suffix_append _ _)
  exact getLast?_of_isSuffix hsuffix hc

/-! ## The template -/

/-- What a restricted count counts: a constant stands for `*`. -/
def operandOf (argument : String) : String := if argument == "*" then "1" else argument

/-- The template counts the argument of a call where an expression has a value, and keeps a keyword
with a space behind it in front of the condition. -/
structure Restricts (template : ColumnTemplate) (function argument pivotExpr : String) :
    Prop where
  outside : ∀ behind, LeadsDistinct argument.toList behind → behind.head? = some ' ' →
    template = .ofCondition function "DISTINCT " pivotExpr
      (operandOf (String.ofList (trim behind)))
  whole : (∀ behind, LeadsDistinct argument.toList behind → behind.head? ≠ some ' ') →
    template = .ofCondition function "" pivotExpr (operandOf argument)

namespace ColumnTemplate

section
variable {db : Database} (hdb : db.hasFilteredAggregates = false) {count : Line}
  {function argument : String} (hcall : count.call? = some (function, argument))
include hdb hcall

theorem restricts_forRows {pivotExpr : String} {template : ColumnTemplate}
    (h : forRows db pivotExpr count = .ok template) :
    Restricts template function argument pivotExpr := by
  have htrimmed : Trimmed argument.toList := by
    obtain ⟨-, -, _, inner, -, -, -, hargument⟩ := splitCall_some (call?_iff.mp hcall)
    rw [hargument]
    exact trimmed_trim inner
  unfold forRows at h
  rw [hdb, if_neg Bool.false_ne_true, hcall] at h
  constructor
  · intro behind hleads hspace
    have hstrip : stripDistinct argument.toList = some (trim behind) :=
      stripDistinct_iff.mpr ⟨behind, hleads, hspace, trim_behind htrimmed hleads⟩
    simp only [hstrip] at h
    cases h
    rfl
  · intro hspace
    have hstrip : stripDistinct argument.toList = none := by
      rw [Option.eq_none_iff_forall_ne_some]
      intro inner hinner
      obtain ⟨behind, hleads, hhead, -⟩ := stripDistinct_iff.mp hinner
      exact hspace behind hleads hhead
    simp only [hstrip] at h
    cases h
    rfl

end

end ColumnTemplate

/-! ## What is counted -/

/-- A text that is too short for the keyword does not begin with it. -/
theorem not_saysDistinct_short {cs : List Char} (h : cs.length ≤ 8) (behind : List Char) :
    ¬ SaysDistinct cs behind := by
  rintro ⟨hleads, c, hc, -⟩
  rw [hleads.behind_eq, List.drop_eq_nil_of_le h] at hc
  cases hc

theorem saysDistinct_operandOf {argument : String} {behind : List Char} :
    SaysDistinct (operandOf argument).toList behind ↔ SaysDistinct argument.toList behind := by
  unfold operandOf
  split
  · rename_i hstar
    obtain rfl := beq_iff_eq.mp hstar
    exact iff_of_false (not_saysDistinct_short (by decide) _) (not_saysDistinct_short (by decide) _)
  · exact Iff.rfl

/-- What is counted begins with the keyword only where the argument had it twice, or had something
else than a space behind it. -/
theorem Restricts.operand {template : ColumnTemplate} {function argument pivotExpr : String}
    (h : Restricts template function argument pivotExpr) :
    ∃ keyword operand, template = .ofCondition function keyword pivotExpr operand ∧
      ∀ after, SaysDistinct operand.toList after ↔
        (SaysDistinct argument.toList after ∧ after.head? ≠ some ' ') ∨
          ∃ behind, LeadsDistinct argument.toList behind ∧ behind.head? = some ' ' ∧
            SaysDistinct (trim behind) after := by
  by_cases hspace : ∃ behind, LeadsDistinct argument.toList behind ∧ behind.head? = some ' '
  · obtain ⟨behind, hleads, hhead⟩ := hspace
    refine ⟨_, _, h.outside behind hleads hhead, fun after => ?_⟩
    rw [saysDistinct_operandOf, String.toList_ofList]
    constructor
    · exact fun hkey => Or.inr ⟨behind, hleads, hhead, hkey⟩
    · rintro (⟨⟨hleads', -⟩, hhead'⟩ | ⟨behind', hleads', -, hkey⟩)
      · exact absurd hhead (hleads.unique hleads' ▸ hhead')
      · rwa [hleads.unique hleads']
  · refine ⟨_, _, h.whole fun behind hleads hhead => hspace ⟨behind, hleads, hhead⟩,
      fun after => ?_⟩
    rw [saysDistinct_operandOf]
    constructor
    · exact fun hkey => Or.inl ⟨hkey, fun hhead => hspace ⟨after, hkey.1, hhead⟩⟩
    · rintro (⟨hkey, -⟩ | ⟨behind, hleads, hhead, -⟩)
      · exact hkey
      · exact absurd ⟨behind, hleads, hhead⟩ hspace

/-! ## The headline -/

/-- **A keyword with a space behind it stays outside of the condition**, in whatever letter case,
and what is behind it is counted; every other argument is counted whole, one that begins with a
longer word too. So what is counted begins with the keyword just where the argument had it twice, or
had another blank or a parenthesis behind it. -/
theorem distinct_stays_outside {config : Config} {db : Database} {request : Request} {sql : String}
    (hdb : db.hasFilteredAggregates = false) (hsql : build config db request = .ok sql)
    (hshape : Shape.classify request = .pivot) :
    ∃ write plan pivot count function argument,
      Script.writer? config db = some write ∧ PivotPlan.ofRows db request = .ok plan ∧
      sql = (write plan false).render db ∧
      request.pivotSelect? = some pivot ∧ request.countSelect? = some count ∧
      count.call? = some (function, argument) ∧
      Restricts plan.column function argument pivot.expression ∧
      (∀ c behind, LeadsDistinct argument.toList (c :: behind) → isBlank c = false →
        plan.column = .ofCondition function "" pivot.expression (operandOf argument)) ∧
      ∃ keyword operand, plan.column = .ofCondition function keyword pivot.expression operand ∧
        ∀ after, SaysDistinct operand.toList after ↔
          (SaysDistinct argument.toList after ∧ after.head? ≠ some ' ') ∨
            ∃ behind, LeadsDistinct argument.toList behind ∧ behind.head? = some ' ' ∧
              SaysDistinct (trim behind) after := by
  have hbuilt := build_ok hsql
  rw [hshape] at hbuilt
  obtain ⟨write, plan, hwrite, hplan, rfl⟩ := Build.pivot_ok hbuilt
  obtain ⟨pivot, count, _, _, template, hpivot, hcount, -, -, htemplate, rfl⟩ :=
    PivotPlan.ofRows_ok hplan
  obtain ⟨function, argument, _, _, hcall, -⟩ := ColumnTemplate.forRows_condition hdb htemplate
  have hrestricts := ColumnTemplate.restricts_forRows hdb hcall htemplate
  refine ⟨write, _, pivot, count, function, argument, hwrite, hplan, rfl, hpivot, hcount, hcall,
    hrestricts, fun c behind hleads hblank => ?_, hrestricts.operand⟩
  refine hrestricts.whole fun other hother hspace => ?_
  rw [← hleads.unique hother, List.head?_cons, Option.some.injEq] at hspace
  rw [hspace] at hblank
  cases hblank

/-- A distinct count of everything, with the keyword in mixed letters, and a count of a name that
begins like the keyword. -/
theorem distinct_stays_outside_star :
    let request (count : String) : Request := ⟨[.plain .select "k", ⟨"p", .select, .pivot⟩,
      ⟨count, .select, .count⟩, .plain .table "t"], none⟩
    (∃ sql plan, build {} .oracle (request "Count( Distinct  * )") = .ok sql ∧
      PivotPlan.ofRows .oracle (request "Count( Distinct  * )") = .ok plan ∧
      plan.column = ⟨", Count(DISTINCT CASE WHEN p = ", " THEN 1 ELSE NULL END) AS "⟩) ∧
    ∃ sql plan, build {} .oracle (request "Count(distinctid)") = .ok sql ∧
      PivotPlan.ofRows .oracle (request "Count(distinctid)") = .ok plan ∧
      plan.column = ⟨", Count(CASE WHEN p = ", " THEN distinctid ELSE NULL END) AS "⟩ := by
  intro request
  constructor
  · obtain ⟨sql, hsql⟩ : ∃ sql, build {} .oracle (request "Count( Distinct  * )") = .ok sql :=
      ⟨_, rfl⟩
    obtain ⟨_, plan, _, _, function, argument, -, hplan, -, hpivot, hcount, hcall, hrestricts, -⟩ :=
      distinct_stays_outside rfl hsql (by decide)
    cases hpivot
    cases hcount
    obtain ⟨rfl, rfl⟩ : function = "Count" ∧ argument = "Distinct  *" := by
      have hcall' : (Line.mk "Count( Distinct  * )" .select .count).call? =
          some ("Count", "Distinct  *") := by decide +kernel
      simpa using hcall.symm.trans hcall'
    have hleads : LeadsDistinct "Distinct  *".toList "  *".toList :=
      ⟨"Distinct".toList, by decide, by decide⟩
    exact ⟨sql, plan, hsql, hplan, (hrestricts.outside _ hleads (by decide)).trans (by decide)⟩
  · obtain ⟨sql, hsql⟩ : ∃ sql, build {} .oracle (request "Count(distinctid)") = .ok sql :=
      ⟨_, rfl⟩
    obtain ⟨_, plan, _, _, function, argument, -, hplan, -, hpivot, hcount, hcall, -, hlonger, -⟩ :=
      distinct_stays_outside rfl hsql (by decide)
    cases hpivot
    cases hcount
    obtain ⟨rfl, rfl⟩ : function = "Count" ∧ argument = "distinctid" := by
      have hcall' : (Line.mk "Count(distinctid)" .select .count).call? =
          some ("Count", "distinctid") := by decide +kernel
      simpa using hcall.symm.trans hcall'
    have hleads : LeadsDistinct "distinctid".toList ('i' :: ['d']) :=
      ⟨"distinct".toList, by decide, by decide⟩
    exact ⟨sql, plan, hsql, hplan, (hlonger _ _ hleads (by decide)).trans (by decide)⟩

/-- A keyword that a parenthesis ends goes into the condition, on every target that has one. -/
theorem distinct_inside :
    let request : Request := ⟨[.plain .select "Region", ⟨"Category", .select, .pivot⟩,
      ⟨"COUNT(DISTINCT(CustomerId))", .select, .count⟩, .plain .table "events"], none⟩
    SaysDistinct "DISTINCT(CustomerId)".toList "(CustomerId)".toList ∧
    Shape.classify request = .pivot ∧
    ∀ db, db = .sqlServer ∨ db = .mySql ∨ db = .oracle →
      (∃ sql, build {} db request = .ok sql) ∧
      ∃ plan count, PivotPlan.ofRows db request = .ok plan ∧ request.countSelect? = some count ∧
        count.call? = some ("COUNT", "DISTINCT(CustomerId)") ∧
        plan.column = ⟨", COUNT(CASE WHEN Category = ",
          " THEN DISTINCT(CustomerId) ELSE NULL END) AS "⟩ ∧
        plan.column ≠ .ofCondition "COUNT" "DISTINCT " "Category" "(CustomerId)" := by
  intro request
  refine ⟨⟨⟨"DISTINCT".toList, by decide, by decide⟩, '(', by decide, Or.inr rfl⟩, by decide, ?_⟩
  rintro db (rfl | rfl | rfl) <;>
    exact ⟨⟨_, rfl⟩, _, _, rfl, rfl, by decide +kernel, by decide +kernel, by decide +kernel⟩

end Crosstab
