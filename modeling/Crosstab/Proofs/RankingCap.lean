import Crosstab.Proofs.Acceptance
import Crosstab.Proofs.ClosedPivot

/-!
# What the TopX lines reach

A TopX line is a row count or an ordering. It decides which pivot values the census keeps, and
nothing else: a dense axis is built as if it were not there, and so is everything about a pivot but
the body of its census (`topX_only_ranks`).

Both are statements about two requests with the same lines apart from some (`SameKept`). Every
lookup for a kind of line that is among the kept ones answers alike for the two; that a TopX line
stands in no other slot than it should is what makes the slots that are read as a whole alike too.
-/

namespace Crosstab

/-! ## Requests with the same lines of a kind -/

/-- Two requests over one axis that differ at most in lines which are not kept. -/
structure SameKept (keep : Line → Bool) (request other : Request) : Prop where
  axis : request.axis = other.axis
  lines : request.lines.filter keep = other.lines.filter keep

/-- Lines of every request have a slot that suits their role. -/
def Request.Placed (request : Request) : Prop :=
  ∀ line ∈ request.lines, Request.isPlaced line = true

/-- The slots in which a TopX line has a meaning. -/
def Slot.allowsTopX (slot : Slot) : Bool :=
  slot == .select || slot == .orderBy || slot == .trailing

/-- A line that the classification and the checks of a shape may look for. -/
def Line.isSought (line : Line) : Bool :=
  line.role != .topX && (line.slot == .select || line.slot == .groupBy)

/-- A line that a statement over a dense axis may depend on. -/
def Line.isDense (line : Line) : Bool := line.role != .topX && line.slot != .orderBy

section
variable {keep : Line → Bool} {request other : Request}

theorem sameKept_withoutRole (request : Request) (role : Role) :
    SameKept (·.role != role) request (request.withoutRole role) := by
  refine ⟨rfl, ?_⟩
  rw [Request.withoutRole, List.filter_filter]
  simp only [Bool.and_self]

/-- No TopX line stands in a slot of content. -/
theorem Request.Placed.linesIn (h : request.Placed) {slot : Slot}
    (hslot : slot.allowsTopX = false) : request.linesIn slot = request.uncappedIn slot := by
  refine (List.filter_eq_self.mpr fun line hline => ?_).symm
  obtain ⟨hmem, heq⟩ := List.mem_filter.mp hline
  obtain rfl : line.slot = slot := beq_iff_eq.mp heq
  have hplaced := h line hmem
  rw [bne_iff_ne]
  intro hrole
  rw [Request.isPlaced, hrole] at hplaced
  exact Bool.false_ne_true (hslot.symm.trans hplaced)

namespace SameKept

variable (h : SameKept keep request other)
include h

theorem filter {p : Line → Bool} (hp : ∀ line, p line = true → keep line = true) :
    request.lines.filter p = other.lines.filter p := by
  have hthrough (lines : List Line) : (lines.filter keep).filter p = lines.filter p := by
    rw [List.filter_filter]
    refine List.filter_congr fun line _ => ?_
    cases hline : p line with
    | false => rfl
    | true => rw [hp line hline, Bool.and_self]
  rw [← hthrough request.lines, h.lines, hthrough]

theorem weaken {fewer : Line → Bool} (hfewer : ∀ line, fewer line = true → keep line = true) :
    SameKept fewer request other :=
  ⟨h.axis, h.filter hfewer⟩

theorem find? {slot : Slot} {role : Role} (hkept : ∀ text, keep ⟨text, slot, role⟩ = true) :
    request.find? slot role = other.find? slot role := by
  rw [Request.find?, Request.find?, ← List.head?_filter, ← List.head?_filter, h.filter]
  intro line hline
  obtain ⟨text, rfl⟩ := line_of_is hline
  exact hkept text

theorem countLines (slot : Slot) (role : Role)
    (hkept : ∀ text, keep ⟨text, slot, role⟩ = true) :
    request.countLines (·.is slot role) = other.countLines (·.is slot role) := by
  rw [Request.countLines, Request.countLines, h.filter]
  intro line hline
  obtain ⟨text, rfl⟩ := line_of_is hline
  exact hkept text

theorem uncappedIn {slot : Slot}
    (hkept : ∀ text role, role ≠ .topX → keep ⟨text, slot, role⟩ = true) :
    request.uncappedIn slot = other.uncappedIn slot := by
  simp only [Request.uncappedIn, Request.linesIn, List.filter_filter]
  refine h.filter fun line hline => ?_
  obtain ⟨text, slot', role⟩ := line
  simp only [Bool.and_eq_true, bne_iff_ne, beq_iff_eq] at hline
  obtain ⟨hrole, rfl⟩ := hline
  exact hkept text role hrole

/-- A slot of content holds no TopX line, so it is the same as a whole. -/
theorem linesIn (hplaced : request.Placed) (hother : other.Placed) {slot : Slot}
    (hslot : slot.allowsTopX = false)
    (hkept : ∀ text role, role ≠ .topX → keep ⟨text, slot, role⟩ = true) :
    request.linesIn slot = other.linesIn slot := by
  rw [hplaced.linesIn hslot, hother.linesIn hslot, h.uncappedIn hkept]

theorem textsIn (hplaced : request.Placed) (hother : other.Placed) {slot : Slot}
    (hslot : slot.allowsTopX = false)
    (hkept : ∀ text role, role ≠ .topX → keep ⟨text, slot, role⟩ = true) :
    request.textsIn slot = other.textsIn slot := by
  rw [Request.textsIn, h.linesIn hplaced hother hslot hkept, Request.textsIn]

end SameKept

end

/-! ## Requests that are alike to the checks -/

section
variable {request other : Request} (h : SameKept Line.isSought request other)
include h

theorem SameKept.axisSelect? : request.axisSelect? = other.axisSelect? := h.find? fun _ => rfl

theorem SameKept.axisGroupBy? : request.axisGroupBy? = other.axisGroupBy? := h.find? fun _ => rfl

theorem SameKept.pivotSelect? : request.pivotSelect? = other.pivotSelect? := h.find? fun _ => rfl

theorem SameKept.countSelect? : request.countSelect? = other.countSelect? := h.find? fun _ => rfl

theorem SameKept.classify : Shape.classify request = Shape.classify other := by
  rw [Shape.classify, h.axisSelect?, h.pivotSelect?, Shape.classify]

/-- What is checked beside the TopX lines and the slots is the same. -/
theorem SameKept.checked (hchecked : Checked request) (hplaced : other.Placed)
    (htopX : other.countLines Request.isTopXLimit ≤ 1)
    (hlimit : ∃ limit, other.topXLimit = .ok limit) : Checked other := by
  obtain ⟨hvalid, hcomplete⟩ := hchecked
  rw [h.classify] at hcomplete
  constructor
  · exact {
      axisSelect := h.countLines .select .axis (fun _ => rfl) ▸ hvalid.axisSelect
      axisGroupBy := h.countLines .groupBy .axis (fun _ => rfl) ▸ hvalid.axisGroupBy
      pivotSelect := h.countLines .select .pivot (fun _ => rfl) ▸ hvalid.pivotSelect
      countSelect := h.countLines .select .count (fun _ => rfl) ▸ hvalid.countSelect
      topX := htopX
      placed := hplaced
      axis := by rw [← h.axis, ← h.axisSelect?, hvalid.axis]
      grouped := by rw [← h.axisSelect?, ← h.axisGroupBy?]; exact hvalid.grouped
      limit := hlimit }
  · exact {
      axis := by rw [← h.axis, ← h.axisSelect?]; exact hcomplete.axis
      pivot := by rw [← h.pivotSelect?]; exact hcomplete.pivot
      count := by rw [← h.countSelect?]; exact hcomplete.count
      header := by rw [← h.countLines .select .ordinary fun _ => rfl]; exact hcomplete.header }

end

/-! ## Requests that are alike to a dense axis -/

section
variable {request other : Request} (h : SameKept Line.isDense request other)
include h

theorem SameKept.sought : SameKept Line.isSought request other := by
  refine h.weaken fun line hline => ?_
  obtain ⟨text, slot, role⟩ := line
  cases slot <;> simp [Line.isSought, Line.isDense] at hline ⊢ <;> exact hline

theorem SameKept.resolve (shape : Shape) :
    DatasetNames.resolve request shape = DatasetNames.resolve other shape := by
  unfold DatasetNames.resolve
  rw [h.sought.axisSelect?, h.sought.countSelect?, h.sought.pivotSelect?]

/-- The dataset ends before the final ordering and has no TopX line. -/
theorem SameKept.datasetQuery (db : Database) (increment : Increment) (names : DatasetNames) :
    AxisPlan.datasetQuery db request increment names =
      AxisPlan.datasetQuery db other increment names := by
  -- Binning keeps the slot and the role of a line, so the lines may as well be dropped before it.
  have hdataset (lines : List Line) : ((lines.map (binLine db increment names)).filter
      fun line => Slot.select.rank ≤ line.slot.rank && line.slot.rank ≤ Slot.having.rank).filter
        (·.role != .topX) = (lines.filter fun line => line.role != .topX &&
          (Slot.select.rank ≤ line.slot.rank && line.slot.rank ≤ Slot.having.rank)).map
            (binLine db increment names) := by
    rw [List.filter_filter, List.filter_map]
    congr 2
    funext line
    obtain ⟨hslot, hrole⟩ := binLine_kind db increment names line
    simp only [Function.comp_apply, hslot, hrole]
  unfold AxisPlan.datasetQuery Request.binned Request.linesBetween Request.mapLines
  rw [hdataset, hdataset, h.filter]
  intro line hline
  obtain ⟨text, slot, role⟩ := line
  cases slot <;> simp [Line.isDense, Slot.rank] at hline ⊢ <;> exact hline

theorem SameKept.ofRequest (hplaced : request.Placed) (hother : other.Placed) (db : Database)
    (shape : Shape) : AxisPlan.ofRequest db request shape = AxisPlan.ofRequest db other shape := by
  have hpre : request.textsIn .preSelect = other.textsIn .preSelect :=
    h.textsIn hplaced hother rfl fun _ role hrole => by simp [Line.isDense, hrole]
  have htrailing : request.uncappedIn .trailing = other.uncappedIn .trailing :=
    h.uncappedIn fun _ role hrole => by simp [Line.isDense, hrole]
  unfold AxisPlan.ofRequest
  simp only [h.axis, h.sought.axisSelect?, h.resolve, h.datasetQuery, hpre, htrailing]

end

/-! ## Requests that differ in their TopX lines -/

/-- A plan with another text for its census. -/
def PivotPlan.withCensusBody (plan : PivotPlan) (body : String) : PivotPlan :=
  { plan with census := { plan.census with body := body } }

theorem map_bind_congr {α β γ : Type} {x : Outcome α} {f g : α → Outcome β} {e : β → γ}
    (h : ∀ a, x = .ok a → (f a).map e = (g a).map e) : (x >>= f).map e = (x >>= g).map e := by
  cases x with
  | error failure => rfl
  | ok a => exact h a rfl

/-- A census of a request whose count and cap are known. -/
theorem census_eq {request : Request} {count : Line} {limit : Option Nat}
    (hcount : request.countSelect? = some count) (hlimit : request.topXLimit = .ok limit)
    (db : Database) (shape : Shape) (pivotExpr : String) (axisExpr : Option String) :
    census db request shape pivotExpr axisExpr = .ok {
      name := censusName
      columns := []
      body := (censusQuery db request count limit pivotExpr axisExpr).render db
      recursive := false } := by
  unfold census
  rw [hcount, hlimit]
  rfl

section
variable {request other : Request} (h : SameKept (·.role != .topX) request other)
include h

theorem SameKept.dense : SameKept Line.isDense request other :=
  h.weaken fun _ hline => (Bool.and_eq_true_iff.mp hline).1

section
variable (hplaced : request.Placed) (hother : other.Placed)
include hplaced hother

theorem SameKept.rowQuery (header : Line) (pivotExpr : String) :
    PivotPlan.rowQuery request header pivotExpr = PivotPlan.rowQuery other header pivotExpr := by
  have hkept (slot : Slot) (text : String) (role : Role) (hrole : role ≠ .topX) :
      ((Line.mk text slot role).role != .topX) = true := bne_iff_ne.mpr hrole
  have htexts (slot : Slot) (hslot : slot.allowsTopX = false) :
      request.textsIn slot = other.textsIn slot := h.textsIn hplaced hother hslot (hkept slot)
  unfold PivotPlan.rowQuery PivotPlan.rowGroups
  rw [htexts .table rfl, htexts .filter rfl, htexts .having rfl, h.uncappedIn (hkept .orderBy),
    h.uncappedIn (hkept .trailing), h.linesIn hplaced hother rfl (hkept .groupBy)]

variable {limit limit' : Option Nat} (hlimit : request.topXLimit = .ok limit)
variable (hlimit' : other.topXLimit = .ok limit')
include hlimit hlimit'

theorem SameKept.ofRows (db : Database) :
    (PivotPlan.ofRows db request).map (·.withCensusBody "") =
      (PivotPlan.ofRows db other).map (·.withCensusBody "") := by
  have hheader : request.find? .select .ordinary = other.find? .select .ordinary :=
    h.find? fun _ => rfl
  have hpre : request.textsIn .preSelect = other.textsIn .preSelect :=
    h.textsIn hplaced hother rfl fun _ _ hrole => bne_iff_ne.mpr hrole
  unfold PivotPlan.ofRows
  rw [h.dense.sought.pivotSelect?, h.dense.sought.countSelect?, hheader, hpre]
  refine map_bind_congr fun pivot _ => map_bind_congr fun count hcount => ?_
  rw [Shape.require_ok] at hcount
  cases other.find? .select .ordinary with
  | none => rfl
  | some header =>
      dsimp only
      rw [h.rowQuery hplaced hother, census_eq (h.dense.sought.countSelect?.trans hcount) hlimit,
        census_eq hcount hlimit']
      -- The bodies are what may differ, and neither is looked at.
      generalize (censusQuery db request count limit _ _).render db = body
      generalize (censusQuery db other count limit' _ _).render db = body'
      rw [ok_bind, ok_bind]
      exact map_bind_congr fun template _ => rfl

theorem SameKept.ofAxis (db : Database) (calendar : Calendar) (axisAlias : String) :
    (PivotPlan.ofAxis db calendar axisAlias request).map (·.withCensusBody "") =
      (PivotPlan.ofAxis db calendar axisAlias other).map (·.withCensusBody "") := by
  unfold PivotPlan.ofAxis
  rw [h.dense.sought.pivotSelect?, h.dense.ofRequest hplaced hother]
  refine map_bind_congr fun pivot _ => map_bind_congr fun plan hplan => ?_
  refine map_bind_congr fun name _ => ?_
  obtain ⟨_, _, names, -, -, hnames, -⟩ := AxisPlan.ofRequest_ok hplan
  obtain ⟨-, ⟨count, hcount, -⟩, -⟩ := DatasetNames.resolve_ok.mp hnames
  rw [census_eq (h.dense.sought.countSelect?.trans hcount) hlimit, census_eq hcount hlimit']
  generalize (censusQuery db request count limit _ _).render db = body
  generalize (censusQuery db other count limit' _ _).render db = body'
  rfl

end

end

/-! ## Where the cap stands -/

/-- A text around a window in which the row limit of the target stands outside of the window: on SQL
Server directly after the leading `SELECT`, and elsewhere as the last line. -/
def LimitOutside (db : Database) (n : Nat) (text before window after : String) : Prop :=
  ∃ select rest, text = select ++ before ++ "(" ++ window ++ ")" ++ rest ∧
    (Closed window → Encloses text (select ++ before) window rest) ∧
    ((db = .sqlServer ∧ ∃ top, db.limitClause n = .afterSelect top ∧
        select = "SELECT " ++ top ++ " " ∧ rest = after) ∨
      (db ≠ .sqlServer ∧ ∃ last, db.limitClause n = .trailing last ∧
        select = "SELECT " ∧ rest = after ++ "\n" ++ last))

/-- The body of a census with a cap of `n` values: but for the limit clause it is that of the same
query without a limit, and the clause stands outside of the window that ranks the values. -/
def CappedOutside (db : Database) (request : Request) (axisExpr : Option String) (n : Nat)
    (body : String) : Prop :=
  ∃ pivot count after,
    request.pivotSelect? = some pivot ∧ request.countSelect? = some count ∧
    let before := db.castToText pivot.expression ++ " AS piv, ROW_NUMBER() OVER "
    let window := "ORDER BY " ++ rankOrder request count pivot.expression
    let query := censusQuery db request count (some n) pivot.expression axisExpr
    { query with limit := none }.render db =
      "SELECT " ++ before ++ "(" ++ window ++ ")" ++ after ∧
    LimitOutside db n body before window after

theorem limitOutside_census (db : Database) (request : Request) (count : Line) (n : Nat)
    (pivotExpr : String) (axisExpr : Option String) :
    let query := censusQuery db request count (some n) pivotExpr axisExpr
    LimitOutside db n (query.render db)
      (db.castToText pivotExpr ++ " AS piv, ROW_NUMBER() OVER ")
      ("ORDER BY " ++ rankOrder request count pivotExpr)
      (" AS rn" ++ { query with limit := none }.tail db) := by
  intro query
  have hrender : query.render db = query.selectKeyword db ++
      (db.castToText pivotExpr ++ " AS piv, ROW_NUMBER() OVER ") ++ "(" ++
      ("ORDER BY " ++ rankOrder request count pivotExpr) ++ ")" ++ (" AS rn" ++ query.tail db) := by
    have hwindow := render_censusQuery db request count (some n) pivotExpr axisExpr
    simpa only [String.append_assoc] using hwindow
  refine ⟨_, _, hrender, fun hwindow => encloses_of_closed hwindow hrender, ?_⟩
  have htail : query.tail db =
      { query with limit := none }.tail db ++ indentLines (query.trailingLimit db) :=
    query.tail_limit db rfl
  have hclause : query.limit.map db.limitClause = some (db.limitClause n) := rfl
  -- One case for each of the two places that a limit can have.
  cases hlimit : db.limitClause n with
  | afterSelect top =>
      rw [hlimit] at hclause
      refine Or.inl ⟨?_, top, rfl, ?_, ?_⟩
      · cases db <;> first | rfl | cases hlimit
      · rw [Query.selectKeyword, hclause]
      · rw [htail, Query.trailingLimit, hclause]
        exact congrArg (" AS rn" ++ ·) String.append_empty
  | trailing last =>
      rw [hlimit] at hclause
      have hline : indentLines [last] = "\n" ++ last := String.append_empty
      refine Or.inr ⟨?_, last, rfl, ?_, ?_⟩
      · rintro rfl
        cases hlimit
      · rw [Query.selectKeyword, hclause]
      · rw [htail, Query.trailingLimit, hclause]
        simp only [hline, String.append_assoc]

theorem cappedOutside_census {db : Database} {request : Request} {shape : Shape} {pivot : Line}
    (hpivot : request.pivotSelect? = some pivot) {axisExpr : Option String} {n : Nat}
    (hlimit : request.topXLimit = .ok (some n)) {cte : Cte}
    (hcte : census db request shape pivot.expression axisExpr = .ok cte) :
    CappedOutside db request axisExpr n cte.body := by
  obtain ⟨count, limit, hcount, hlimit', rfl⟩ := census_ok hcte
  obtain rfl : some n = limit := Except.ok.inj (hlimit.symm.trans hlimit')
  refine ⟨pivot, count, _, hpivot, hcount, ?_, limitOutside_census ..⟩
  have hselect := select_censusQuery db request count (some n) pivot.expression axisExpr
  rw [Query.render_eq db rfl rfl, hselect]
  simp only [String.append_assoc]
  rfl

/-! ## Requests that pass their checks together -/

theorem noTopXLimit_withoutRole (request : Request) :
    (request.withoutRole .topX).lines.filter Request.isTopXLimit = [] := by
  refine List.filter_eq_nil_iff.mpr fun line hline hlimit => ?_
  have hrole := (List.mem_filter.mp hline).2
  rw [Request.isTopXLimit, Bool.and_eq_true] at hlimit
  rw [bne, hlimit.1] at hrole
  cases hrole

theorem topXLimit_withoutRole (request : Request) :
    (request.withoutRole .topX).topXLimit = .ok none := by
  have hnone : (request.withoutRole .topX).topXLine? = none := by
    rw [Request.topXLine?, ← List.head?_filter, noTopXLimit_withoutRole, List.head?_nil]
  rw [Request.topXLimit, hnone]

section
variable {request : Request} (h : Checked request)
include h

theorem Checked.withoutTopX : Checked (request.withoutRole .topX) := by
  refine (sameKept_withoutRole request .topX).dense.sought.checked h ?_ ?_
    ⟨none, topXLimit_withoutRole request⟩
  · intro line hline
    exact h.valid.placed line (List.mem_filter.mp hline).1
  · rw [Request.countLines, noTopXLimit_withoutRole]
    exact Nat.zero_le 1

omit h in
theorem SameKept.dense_of_reordered {other : Request}
    (hkept : SameKept (fun line => !line.is .orderBy .ordinary) request other) :
    SameKept Line.isDense request other := by
  refine hkept.weaken fun line hline => ?_
  have hslot := (Bool.and_eq_true_iff.mp hline).2
  rw [bne, Bool.not_eq_true'] at hslot
  rw [Line.is, hslot]
  rfl

/-- Ordering lines without a role may come and go. -/
theorem Checked.reordered {other : Request}
    (hkept : SameKept (fun line => !line.is .orderBy .ordinary) request other) :
    Checked other := by
  have hkeep {line : Line} (hlimit : Request.isTopXLimit line = true) :
      (!line.is .orderBy .ordinary) = true := by
    obtain ⟨text, slot, role⟩ := line
    rw [Request.isTopXLimit, Bool.and_eq_true, beq_iff_eq] at hlimit
    obtain ⟨rfl, -⟩ := hlimit
    exact congrArg (!·) (Bool.and_false _)
  have hlimits := hkept.filter fun _ => hkeep
  refine hkept.dense_of_reordered.sought.checked h ?_ ?_ ?_
  · intro line hline
    -- A line of the other request is an ordering that is free to come, or it was there before.
    cases hline' : line.is .orderBy .ordinary with
    | true =>
        obtain ⟨text, rfl⟩ := line_of_is hline'
        rfl
    | false =>
        have hmem : line ∈ other.lines.filter fun line => !line.is .orderBy .ordinary := by
          rw [List.mem_filter, hline']
          exact ⟨hline, rfl⟩
        rw [← hkept.lines] at hmem
        exact h.valid.placed line (List.mem_filter.mp hmem).1
  · rw [Request.countLines, ← hlimits]
    exact h.valid.topX
  · have hline : other.topXLine? = request.topXLine? := by
      rw [Request.topXLine?, Request.topXLine?, ← List.head?_filter, ← List.head?_filter, hlimits]
    rw [Request.topXLimit, hline]
    exact h.valid.limit

theorem build_dense (haxis : Shape.classify request = .axis) {other : Request}
    (hother : Checked other) (hkept : SameKept Line.isDense request other) (config : Config)
    (db : Database) : build config db request = build config db other := by
  rw [build_of_checked h, build_of_checked hother, ← hkept.sought.classify, haxis]
  show Build.axis config db request = Build.axis config db other
  unfold Build.axis
  rw [hkept.axis, hkept.ofRequest h.valid.placed hother.valid.placed]

end

/-! ## The headline -/

/-- Two ways to plan a pivot that differ at most in the body of the census, where a cap of the first
stands outside of the ranking. -/
structure RanksOnly (db : Database) (request : Request) (axisExpr : Option String)
    (planned bare : Outcome PivotPlan) : Prop where
  alike : planned.map (·.withCensusBody "") = bare.map (·.withCensusBody "")
  capped : ∀ plan n, planned = .ok plan → request.topXLimit = .ok (some n) →
    CappedOutside db request axisExpr n plan.census.body

/-- What the TopX lines of a request may still decide in each shape. A dense axis does not depend on
them, nor on the ordering that a query would end with; of a pivot they reach only the census. -/
def TopXConfined (db : Database) (request bare : Request) : Shape → Prop
  | .plain => True
  | .axis => ∀ config, build config db request = build config db bare ∧
      ∀ other, SameKept (fun line => !line.is .orderBy .ordinary) request other →
        build config db request = build config db other
  | .pivot =>
      RanksOnly db request none (PivotPlan.ofRows db request) (PivotPlan.ofRows db bare)
  | .axisPivot => ∀ calendar axisAlias,
      RanksOnly db request (request.axisSelect?.map Line.expression)
        (PivotPlan.ofAxis db calendar axisAlias request)
        (PivotPlan.ofAxis db calendar axisAlias bare)

/-- No row limit is part of the statement that a script runs. -/
theorem Planned.unlimited {config : Config} {db : Database} {request : Request} {shape : Shape}
    {plan : PivotPlan} {query : Query} (h : Planned config db request shape plan query) :
    query.limit = none := by
  cases h <;> rfl

section
variable {request : Request} (h : Checked request) (db : Database)
include h

theorem ranksOnly_ofRows : RanksOnly db request none (PivotPlan.ofRows db request)
    (PivotPlan.ofRows db (request.withoutRole .topX)) := by
  obtain ⟨limit, hlimit⟩ := h.valid.limit
  constructor
  · exact (sameKept_withoutRole request .topX).ofRows h.valid.placed h.withoutTopX.valid.placed
      hlimit (topXLimit_withoutRole request) db
  · intro plan n hplan hcap
    obtain ⟨pivot, _, _, _, _, hpivot, -, -, hcensus, -, rfl⟩ := PivotPlan.ofRows_ok hplan
    exact cappedOutside_census hpivot hcap hcensus

theorem ranksOnly_ofAxis (calendar : Calendar) (axisAlias : String) :
    RanksOnly db request (request.axisSelect?.map Line.expression)
      (PivotPlan.ofAxis db calendar axisAlias request)
      (PivotPlan.ofAxis db calendar axisAlias (request.withoutRole .topX)) := by
  obtain ⟨limit, hlimit⟩ := h.valid.limit
  constructor
  · exact (sameKept_withoutRole request .topX).ofAxis h.valid.placed h.withoutTopX.valid.placed
      hlimit (topXLimit_withoutRole request) db calendar axisAlias
  · intro plan n hplan hcap
    obtain ⟨pivot, axisPlan, _, _, hpivot, haxis, -, hcensus, rfl⟩ := PivotPlan.ofAxis_ok hplan
    obtain ⟨_, axisSelect, _, -, hselect, -, rfl⟩ := AxisPlan.ofRequest_ok haxis
    rw [hselect]
    exact cappedOutside_census hpivot hcap hcensus

end

/-- **TopX lines reach nothing but the ranking they cap.** Without them a request that passes its
checks still passes them in the same shape. A dense axis is built the same way, and a pivot is
planned the same way but for the body of its census. -/
theorem topX_only_ranks {request : Request} (hvalid : request.validate = .ok ())
    (hcomplete : (Shape.classify request).checkRequirements request = .ok ()) (db : Database) :
    let bare := request.withoutRole .topX
    (bare.validate = .ok () ∧ Shape.classify bare = Shape.classify request ∧
      (Shape.classify bare).checkRequirements bare = .ok () ∧ bare.topXLimit = .ok none) ∧
    TopXConfined db request bare (Shape.classify request) ∧
    ∀ config shape plan query, Planned config db request shape plan query →
      query.limit = none ∧ plan.head = query.head db ∧ plan.tail = query.tail db := by
  intro bare
  have h : Checked request := ⟨validate_ok.mp hvalid, checkRequirements_ok.mp hcomplete⟩
  have hdense := (sameKept_withoutRole request .topX).dense
  have hbare := h.withoutTopX
  refine ⟨⟨validate_ok.mpr hbare.valid, hdense.sought.classify.symm,
    checkRequirements_ok.mpr hbare.complete, topXLimit_withoutRole request⟩, ?_, ?_⟩
  · cases hshape : Shape.classify request with
    | plain => trivial
    | axis =>
        intro config
        refine ⟨build_dense h hshape hbare hdense config db, fun other hkept => ?_⟩
        exact build_dense h hshape (h.reordered hkept) hkept.dense_of_reordered config db
    | pivot => exact ranksOnly_ofRows h db
    | axisPivot => exact ranksOnly_ofAxis h db
  · intro config shape plan query hplanned
    obtain ⟨-, -, hhead, htail, -⟩ := hplanned.spliced
    exact ⟨hplanned.unlimited, hhead, htail⟩

/-- A cap and its ordering, on the target that writes the cap after `SELECT`. -/
theorem topX_only_ranks_top :
    let request : Request := ⟨[.plain .select "k", ⟨"p", .select, .pivot⟩,
      ⟨"COUNT(*)", .select, .count⟩, .plain .table "t", ⟨"SUM(v) DESC", .orderBy, .topX⟩,
      .rowCap 2], none⟩
    RanksOnly .sqlServer request none (PivotPlan.ofRows .sqlServer request)
        (PivotPlan.ofRows .sqlServer (request.withoutRole .topX)) ∧
      ∃ plan, PivotPlan.ofRows .sqlServer request = .ok plan ∧
        CappedOutside .sqlServer request none 2 plan.census.body ∧
        plan.census.body = "SELECT TOP 2 CONVERT(NVARCHAR(MAX), p) AS piv, " ++
          "ROW_NUMBER() OVER (ORDER BY SUM(v) DESC) AS rn\nFROM t\nWHERE p IS NOT NULL" ++
          "\nGROUP BY p\nORDER BY SUM(v) DESC" := by
  intro request
  have hvalid : request.validate = .ok () := by rfl
  have hcomplete : (Shape.classify request).checkRequirements request = .ok () := by rfl
  have hlimit : request.topXLimit = .ok (some 2) := by rfl
  have hshape : Shape.classify request = .pivot := by decide
  have hranks := (topX_only_ranks hvalid hcomplete .sqlServer).2.1
  rw [hshape] at hranks
  obtain ⟨plan, hplan⟩ : ∃ plan, PivotPlan.ofRows .sqlServer request = .ok plan := ⟨_, rfl⟩
  refine ⟨hranks, plan, hplan, hranks.capped plan 2 hplan hlimit, ?_⟩
  cases hplan
  decide +kernel

end Crosstab
