import Crosstab.Proofs.Acceptance

/-!
# Targets accept the same requests

Two of the conditions for building a request know its target. SQLite runs no scripts, and a target
without `FILTER` restricts the count of a pivot by a condition inside of a call, so there the count
has to be a single call. The four targets that run scripts therefore agree on every request whose
count is one, and report the same failure when they refuse it (`targets_agree`).

With `FILTER` the condition is not made, although a filter behind an expression reaches only the
last call of it. `filter_behind_quotient` is such a request: three targets refuse it, and the fourth
filters the denominator of a quotient and not its numerator.
-/

namespace Crosstab

/-- The count is a single call where it has to be restricted to the rows of a pivot value. -/
def Request.Restrictable (request : Request) : Prop :=
  Shape.classify request = .pivot → ∀ count, request.countSelect? = some count →
    count.call?.isSome = true

section
variable {db db' : Database} {request : Request}

/-- Among the targets that run scripts, those without `FILTER` need a call. -/
theorem needsCall_iff (hdb : db ≠ .sqlite) :
    (db = .sqlServer ∨ db = .mySql ∨ db = .oracle) ↔ db.hasFilteredAggregates = false := by
  cases db with
  | sqlite => exact absurd rfl hdb
  | postgres => decide
  | sqlServer | mySql | oracle => decide

theorem callFault?_of_restrictable (h : request.Restrictable) (db : Database) :
    (Shape.classify request).callFault? db request = none :=
  callFault?_eq_none.mpr fun hshape _ => h hshape

theorem callFault?_congr (hdb : db ≠ .sqlite) (hdb' : db' ≠ .sqlite)
    (h : db.hasFilteredAggregates = db'.hasFilteredAggregates) (shape : Shape) :
    shape.callFault? db request = shape.callFault? db' request := by
  unfold Shape.callFault?
  simp only [needsCall_iff hdb, needsCall_iff hdb', h]

theorem firstFault?_congr (hdb : db ≠ .sqlite) (hdb' : db' ≠ .sqlite)
    (h : request.Restrictable ∨ db.hasFilteredAggregates = db'.hasFilteredAggregates) :
    firstFault? db request = firstFault? db' request := by
  have hcall : (Shape.classify request).callFault? db request =
      (Shape.classify request).callFault? db' request := by
    rcases h with h | h
    · rw [callFault?_of_restrictable h, callFault?_of_restrictable h]
    · exact callFault?_congr hdb hdb' h _
  simp only [firstFault?, hcall, runFault?_eq_none.mpr fun _ => hdb,
    runFault?_eq_none.mpr fun _ => hdb']

/-- Where a condition goes inside of a call, a count that is no call is the last thing to be found
wrong with a pivot. -/
theorem firstFault?_uncallable (hdb : db ≠ .sqlite) (hfilter : db.hasFilteredAggregates = false)
    (h : ¬ request.Restrictable) :
    ∃ count, request.countSelect? = some count ∧
      firstFault? db request = (fault? request.validate).or
        ((fault? ((Shape.classify request).checkRequirements request)).or
          (some (.invalidRequest (.notOneCall count.text)))) := by
  simp only [Request.Restrictable, Classical.not_imp, Classical.not_forall] at h
  obtain ⟨hshape, count, hcount, hcall⟩ := h
  have huncallable : Shape.pivot.callFault? db request =
      some (.invalidRequest (.notOneCall count.text)) := by
    rw [Shape.callFault?, if_pos ⟨rfl, (needsCall_iff hdb).mpr hfilter⟩, hcount, Option.bind_some,
      Line.uncallable?, if_neg hcall]
  have hname : Shape.pivot.nameFault? request = none := rfl
  refine ⟨count, hcount, ?_⟩
  simp only [firstFault?, hshape, runFault?_eq_none.mpr fun _ => hdb, hname, huncallable,
    Option.none_or]

end

/-- **Which requests are built does not depend on the target**, among the targets that run scripts
and for a count that can be restricted in each of them. Where the restriction goes inside of a call,
a pivot of any other count is refused, and for that reason if nothing else is wrong. -/
theorem targets_agree (request : Request) :
    (∀ config config' db db', db ≠ .sqlite → db' ≠ .sqlite →
      request.Restrictable ∨ db.hasFilteredAggregates = db'.hasFilteredAggregates →
      ((∃ sql, build config db request = .ok sql) ↔ ∃ sql, build config' db' request = .ok sql) ∧
      ∀ failure, build config db request = .error failure ↔
        build config' db' request = .error failure) ∧
    (¬ request.Restrictable → ∀ config db, db ≠ .sqlite → db.hasFilteredAggregates = false →
      (∀ sql, build config db request ≠ .ok sql) ∧
      (request.validate = .ok () → (Shape.classify request).checkRequirements request = .ok () →
        ∃ count, request.countSelect? = some count ∧
          build config db request = .error (.invalidRequest (.notOneCall count.text)))) := by
  constructor
  · intro config config' db db' hdb hdb' h
    have hfault : fault? (build config db request) = fault? (build config' db' request) := by
      rw [fault?_build, fault?_build, firstFault?_congr hdb hdb' h]
    refine ⟨?_, fun failure => ?_⟩
    · rw [← fault?_eq_none, ← fault?_eq_none, hfault]
    · rw [← fault?_eq_some, ← fault?_eq_some, hfault]
  · intro h config db hdb hfilter
    obtain ⟨count, hcount, hfirst⟩ := firstFault?_uncallable hdb hfilter h
    refine ⟨fun sql hsql => ?_, fun hvalid hcomplete => ⟨count, hcount, ?_⟩⟩
    · have hnone : firstFault? db request = none := by
        rw [← fault?_build config, hsql, fault?_ok]
      rw [hfirst, Option.or_eq_none_iff, Option.or_eq_none_iff] at hnone
      cases hnone.2.2
    · rw [← fault?_eq_some, fault?_build, hfirst, hvalid, hcomplete]
      rfl

/-- A sum over a quoted name, on two targets that restrict it in different ways, and a count with
one added to it. -/
theorem targets_agree_sum :
    let call : Request := ⟨[.plain .select "k", ⟨"p", .select, .pivot⟩,
      ⟨"SUM(\"a)\") AS total", .select, .count⟩, .plain .table "t"], none⟩
    let added : Request := ⟨[.plain .select "k", ⟨"p", .select, .pivot⟩,
      ⟨"COUNT(*) + 1", .select, .count⟩, .plain .table "t"], none⟩
    ((∃ sql, build {} .postgres call = .ok sql) ↔ ∃ sql, build {} .oracle call = .ok sql) ∧
      build {} .mySql added = .error (.invalidRequest (.notOneCall "COUNT(*) + 1")) := by
  intro call added
  have hcall : call.Restrictable := by
    rintro - count hcount
    cases hcount
    decide +kernel
  have hadded : ¬ added.Restrictable := by
    intro h
    have hsome := h (by decide) _ rfl
    revert hsome
    decide +kernel
  refine ⟨((targets_agree call).1 {} {} .postgres .oracle (by decide) (by decide)
    (Or.inl hcall)).1, ?_⟩
  obtain ⟨count, hcount, hbuild⟩ :=
    ((targets_agree added).2 hadded {} .mySql (by decide) rfl).2 rfl rfl
  cases hcount
  exact hbuild

/-- A mean that is written as a quotient: three targets refuse to pivot it, and the one with
`FILTER` restricts its denominator alone. -/
theorem filter_behind_quotient :
    let request : Request := ⟨[.plain .select "Region", ⟨"Category", .select, .pivot⟩,
      ⟨"SUM(a) / COUNT(*)", .select, .count⟩, .plain .table "events"], none⟩
    (∃ sql, build {} .postgres request = .ok sql) ∧
      (∀ db, db = .sqlServer ∨ db = .mySql ∨ db = .oracle →
        build {} db request = .error (.invalidRequest (.notOneCall "SUM(a) / COUNT(*)"))) ∧
      ∃ plan, PivotPlan.ofRows .postgres request = .ok plan ∧
        plan.column.opening = ", SUM(a) / COUNT(*) FILTER (WHERE Category = " := by
  refine ⟨⟨_, rfl⟩, ?_, _, rfl, by decide +kernel⟩
  rintro db (rfl | rfl | rfl) <;> rfl

end Crosstab
