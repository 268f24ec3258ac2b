import Crosstab.Proofs.Acceptance
import Crosstab.Proofs.Layout
import Crosstab.Proofs.SlotOrder

/-!
# A plain statement is its lines in slot order

A plain request is written as one statement that holds the text of each line, sorted by slot, and
between these texts only what the renderer adds. Lines sorted by slot are determined by the lines of
each slot (`SameSlots.eq_of_sorted`), so the slots of the rendered query, put one after the other,
are the stable sort of the request. The rows of `Layout` do the rest.

The target is visible in the row limit and nowhere else.
-/

namespace Crosstab

/-- A row limit with the slot where it stands. -/
def LimitClause.placed : LimitClause → Slot × String
  | afterSelect top => (.select, top ++ " ")
  | trailing text => (.orderBy, text)

/-! ## Lines sorted by slot -/

theorem Slot.rank_injective {slot other : Slot} (h : slot.rank = other.rank) : slot = other := by
  cases slot <;> cases other <;> first | rfl | cases h

namespace Line

def notAfter (line other : Line) : Bool := decide (line.slot.rank ≤ other.slot.rank)

/-- Whether a plain statement writes the line. Outside `ORDER BY`, a TopX line is only a count. -/
def isWritten (line : Line) : Bool := line.role != .topX || line.slot == .orderBy

/-- The text of a line in a statement of these lines: a predicate is trimmed unless it is alone. -/
def textAmong (lines : List Line) (line : Line) : String :=
  if line.slot.conjoins && decide (2 ≤ (lines.filter (·.slot == line.slot)).length) then
    trimText line.text
  else line.text

theorem notAfter_trans (a b c : Line) (hab : notAfter a b = true) (hbc : notAfter b c = true) :
    notAfter a c = true := by
  simp only [notAfter, decide_eq_true_eq] at *
  omega

theorem notAfter_total (a b : Line) : (notAfter a b || notAfter b a) = true := by
  simp only [notAfter, Bool.or_eq_true, decide_eq_true_eq]
  omega

end Line

/-- The lines of a request that a plain statement writes, sorted by slot. The sort is stable. -/
def Request.sortedLines (request : Request) : List Line :=
  (request.lines.mergeSort Line.notAfter).filter Line.isWritten

def SlotSorted (lines : List Line) : Prop :=
  lines.Pairwise fun line other => line.slot.rank ≤ other.slot.rank

theorem slot_of_mem_filter {lines : List Line} {slot : Slot} {line : Line}
    (h : line ∈ lines.filter (·.slot == slot)) : line.slot = slot :=
  beq_iff_eq.mp (List.mem_filter.mp h).2

theorem slotSorted_filter (lines : List Line) (slot : Slot) :
    SlotSorted (lines.filter (·.slot == slot)) :=
  List.pairwise_of_forall_mem_list fun line hline other hother => by
    rw [slot_of_mem_filter hline, slot_of_mem_filter hother]

theorem slotSorted_mergeSort (lines : List Line) : SlotSorted (lines.mergeSort Line.notAfter) :=
  (List.pairwise_mergeSort Line.notAfter_trans Line.notAfter_total lines).imp of_decide_eq_true

namespace SameSlots

/-- The sort is stable: lines of one slot are in order already, so they keep it. -/
theorem mergeSort (lines : List Line) : SameSlots (lines.mergeSort Line.notAfter) lines := by
  intro slot
  have hsub := List.sublist_mergeSort Line.notAfter_trans Line.notAfter_total
    ((slotSorted_filter lines slot).imp decide_eq_true) List.filter_sublist
  have hkept := hsub.filter (·.slot == slot)
  simp only [List.filter_filter, Bool.and_self] at hkept
  exact (hkept.eq_of_length (((List.mergeSort_perm lines _).filter _).length_eq).symm).symm

theorem symm {as bs : List Line} (h : SameSlots as bs) : SameSlots bs as :=
  fun slot => (h slot).symm

theorem trans {as bs cs : List Line} (h : SameSlots as bs) (h' : SameSlots bs cs) :
    SameSlots as cs := fun slot => (h slot).trans (h' slot)

/-- The lines of every slot, one slot after the other. -/
theorem flatMap (lines : List Line) :
    SameSlots (Slot.all.flatMap fun slot => lines.filter (·.slot == slot)) lines := by
  intro slot
  have hpart (part : Slot) :
      (lines.filter (·.slot == part)).filter (·.slot == slot) =
        if part = slot then lines.filter (·.slot == slot) else [] := by
    rw [List.filter_filter]
    split
    · next hpart => simp [hpart]
    · next hpart =>
        refine List.filter_eq_nil_iff.mpr fun line _ hline => hpart ?_
        simp only [Bool.and_eq_true, beq_iff_eq] at hline
        exact hline.2.symm.trans hline.1
  rw [List.filter_flatMap, List.flatMap_congr fun part _ => hpart part]
  cases slot <;> simp [Slot.all]

theorem head_notAfter {a b : Line} {as bs : List Line} (h : SameSlots (a :: as) (b :: bs))
    (hb : SlotSorted (b :: bs)) : b.slot.rank ≤ a.slot.rank := by
  have hmem : a ∈ b :: bs := h.perm.subset (List.mem_cons_self ..)
  rcases List.mem_cons.mp hmem with rfl | hmem
  · exact le_rfl
  · exact (List.pairwise_cons.mp hb).1 a hmem

/-- There is one way to sort lines that keeps the order in every slot. -/
theorem eq_of_sorted {as bs : List Line} (h : SameSlots as bs) (ha : SlotSorted as)
    (hb : SlotSorted bs) : as = bs := by
  induction as generalizing bs with
  | nil => exact h.perm.nil_eq
  | cons a as ih =>
      cases bs with
      | nil => exact h.perm.eq_nil
      | cons b bs =>
          -- Both heads have the least rank, so they stand in one slot, and they are its first lines.
          have hrank := Nat.le_antisymm (head_notAfter h hb) (head_notAfter h.symm ha)
          have hslot : b.slot = a.slot := Slot.rank_injective hrank
          have hhead := h a.slot
          rw [List.filter_cons_of_pos (by simp), List.filter_cons_of_pos (by simp [hslot])] at hhead
          obtain ⟨rfl, -⟩ := List.cons.inj hhead
          have htail : SameSlots as bs := by
            intro slot
            have hcons := h slot
            rw [List.filter_cons, List.filter_cons] at hcons
            split at hcons
            · exact (List.cons.inj hcons).2
            · exact hcons
          rw [ih htail (List.pairwise_cons.mp ha).2 (List.pairwise_cons.mp hb).2]

theorem textAmong {as bs : List Line} (h : SameSlots as bs) (line : Line) :
    line.textAmong as = line.textAmong bs := by
  rw [Line.textAmong, Line.textAmong, h line.slot]

end SameSlots

namespace Request

theorem sameSlots_sortedLines (request : Request) :
    SameSlots request.sortedLines (request.lines.filter Line.isWritten) :=
  (SameSlots.mergeSort request.lines).filter Line.isWritten

theorem sortedLines_eq (request : Request) :
    request.sortedLines = Slot.all.flatMap fun slot =>
      (request.lines.filter Line.isWritten).filter (·.slot == slot) := by
  have hsorted : SlotSorted request.sortedLines := (slotSorted_mergeSort request.lines).filter _
  have hall : Slot.all.Pairwise fun slot other => slot.rank ≤ other.rank := by decide
  refine (request.sameSlots_sortedLines.trans (SameSlots.flatMap _).symm).eq_of_sorted hsorted ?_
  refine List.pairwise_flatMap.mpr ⟨fun slot _ => slotSorted_filter _ slot, ?_⟩
  refine hall.imp fun hrank line hline other hother => ?_
  rw [slot_of_mem_filter hline, slot_of_mem_filter hother]
  exact hrank

end Request

/-! ## The query of some lines -/

namespace Query

variable (lines : List Line)

theorem written_ofLines (slot : Slot) :
    (ofLines lines).written slot = ((lines.filter Line.isWritten).filter (·.slot == slot)).map
      (·.textAmong (lines.filter Line.isWritten)) := by
  generalize hkept : (lines.filter Line.isWritten).filter (·.slot == slot) = kept
  have htext : ∀ line ∈ kept, line.textAmong (lines.filter Line.isWritten) =
      if slot.conjoins && decide (2 ≤ kept.length) then trimText line.text else line.text := by
    intro line hline
    rw [← hkept] at hline ⊢
    rw [Line.textAmong, slot_of_mem_filter hline]
  have hwritten : (ofLines lines).written slot =
      if slot.conjoins then conjoined (kept.map (·.text)) else kept.map (·.text) := by
    rw [← hkept]
    cases slot <;> rfl
  rw [List.map_congr_left htext, hwritten]
  cases slot.conjoins with
  | false => rfl
  | true =>
      show conjoined (kept.map (·.text)) = _
      by_cases hseveral : 2 ≤ kept.length
      · simp [conjoined, hseveral]
      · simp [conjoined, hseveral]

end Query

namespace Request

variable (request : Request) (limit : Option Nat)

def plainQuery : Query := { Query.ofLines request.lines with limit := limit }

theorem written_plainQuery (slot : Slot) :
    ((request.plainQuery limit).written slot).map (slot, ·) =
      (request.sortedLines.filter (·.slot == slot)).map fun line =>
        (line.slot, line.textAmong request.sortedLines) := by
  have hslots := request.sameSlots_sortedLines
  have hwritten : (request.plainQuery limit).written slot =
      (Query.ofLines request.lines).written slot := by
    cases slot <;> rfl
  rw [hwritten, Query.written_ofLines, List.map_map, hslots slot]
  refine List.map_congr_left fun line hline => ?_
  rw [hslots.textAmong, slot_of_mem_filter hline]
  rfl

theorem given_plainQuery :
    (Slot.all.flatMap fun slot => ((request.plainQuery limit).written slot).map (slot, ·)) =
      request.sortedLines.map fun line => (line.slot, line.textAmong request.sortedLines) := by
  rw [List.flatMap_congr fun slot _ => request.written_plainQuery limit slot, ← List.map_flatMap]
  congr 1
  rw [List.flatMap_congr fun slot _ => request.sameSlots_sortedLines slot, ← sortedLines_eq]

theorem opens_plainQuery :
    Slot.all.filter (request.plainQuery limit).opens = Slot.clauses.filter fun slot =>
      slot == .select || request.sortedLines.any (·.slot == slot) := by
  have hany (slot : Slot) : (!((request.plainQuery limit).written slot).isEmpty) =
      request.sortedLines.any (·.slot == slot) := by
    have hempty := congrArg List.isEmpty (request.written_plainQuery limit slot)
    rw [List.isEmpty_map, List.isEmpty_map] at hempty
    rw [hempty, Bool.eq_iff_iff]
    simp
  -- Both sides go through the slots in order, so it is enough to compare what they ask of each.
  have hclauses : Slot.clauses = Slot.all.filter Slot.clauses.contains := by decide
  rw [hclauses, List.filter_filter]
  refine congrArg (Slot.all.filter ·) (funext fun slot => ?_)
  rw [Query.opens, hany, Bool.and_comm]

end Request

namespace Query

theorem limitIn_all (db : Database) (query : Query) :
    (Slot.all.flatMap fun slot => (query.limitIn db slot).map (slot, ·)) =
      query.limit.toList.map fun n => (db.limitClause n).placed := by
  have hslots : (Slot.all.flatMap fun slot => (query.limitIn db slot).map (slot, ·)) =
      (query.leadingLimit db).toList.map (.select, ·) ++
        (query.trailingLimit db).map (.orderBy, ·) := by
    simp [Slot.all, limitIn]
  rw [hslots, leadingLimit, trailingLimit]
  cases query.limit with
  | none => rfl
  | some n => cases hlimit : db.limitClause n <;> simp [hlimit, LimitClause.placed]

theorem render_unlimited (query : Query) (hctes : query.ctes = []) (hlimit : query.limit = none)
    (db db' : Database) : query.render db = query.render db' := by
  simp only [render, head, headLines, hctes, selectClause, selectKeyword, tail, tailLines,
    trailingLimit, hlimit]
  rfl

end Query

/-! ## The headline -/

section
variable {config : Config} {db : Database} {request : Request} {sql : String}
  (hsql : build config db request = .ok sql) (hplain : Shape.classify request = .plain)
include hsql hplain

/-- **A plain request is written as its lines in slot order.** The statement is cut into rows, and
the rows into the texts of the sorted lines and what the renderer adds: `SELECT` and a keyword for
each other clause that has a line, line breaks and separators, parentheses around predicates, and
the row limit exactly if the request has one. Without it, every target gets the same text. -/
theorem plain_in_slot_order :
    ∃ limit rows, request.topXLimit = .ok limit ∧
      sql = "\n".intercalate (rows.map Row.text) ∧
      Cut rows
        (request.sortedLines.map fun line => (line.slot, line.textAmong request.sortedLines))
        (Slot.clauses.filter fun slot =>
          slot == .select || request.sortedLines.any (·.slot == slot))
        (limit.toList.map fun n => (db.limitClause n).placed) ∧
      (limit = none → ∀ config' db', build config' db' request = .ok sql) := by
  have hchecked := checked_of_build hsql
  have hshape := build_ok hsql
  rw [hplain] at hshape
  obtain ⟨limit, hlimit, hrender⟩ := Build.plain_ok hshape
  have hcut := (request.plainQuery limit).cut_rowsIn db Slot.all (by decide)
  rw [request.given_plainQuery, request.opens_plainQuery, Query.limitIn_all] at hcut
  refine ⟨limit, _, hlimit, ?_, hcut, ?_⟩
  · rw [hrender]
    exact (request.plainQuery limit).render_rows db rfl
  · rintro rfl config' db'
    rw [build_of_checked hchecked, hplain]
    show Build.plain db' request = _
    rw [Build.plain, hlimit, hrender]
    exact congrArg Except.ok ((request.plainQuery none).render_unlimited rfl rfl db' db)

end

/-- Lines out of order on the target that writes the limit after `SELECT`. -/
theorem plain_in_slot_order_top :
    let request : Request := ⟨[.plain .orderBy "a", .plain .filter " x > 1 ", .plain .table "t",
      .rowCap 5, .plain .select "a", .plain .filter "(y OR z)", .plain .table "JOIN u"], none⟩
    let sql := "SELECT TOP 5 a\nFROM t\nJOIN u\nWHERE (x > 1) AND (y OR z)\nORDER BY a"
    build {} .sqlServer request = .ok sql ∧
      ∃ rows, sql = "\n".intercalate (rows.map Row.text) ∧
        Cut rows
          [(.select, "a"), (.table, "t"), (.table, "JOIN u"), (.filter, "x > 1"),
            (.filter, "(y OR z)"), (.orderBy, "a")]
          [.select, .table, .filter, .orderBy] [(.select, "TOP 5 ")] := by
  intro request sql
  have hsql : build {} .sqlServer request = .ok sql := by rfl
  have hshape : Shape.classify request = .plain := by decide
  obtain ⟨limit, rows, hlimit, hrows, hcut, -⟩ := plain_in_slot_order hsql hshape
  cases hlimit
  rw [request.sortedLines_eq] at hcut
  exact ⟨hsql, rows, hrows, hcut⟩

end Crosstab
