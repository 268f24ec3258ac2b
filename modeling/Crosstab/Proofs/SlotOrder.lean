import Crosstab.Proofs.DatasetNames

/-!
# Only the order inside a slot matters

The lines of a request may be interleaved in any way, as long as the lines of each slot keep their
order. Every lookup goes by slot, so it gives the same answer for any interleaving (`Alike.find?`,
`Alike.linesIn`). The one lookup that does not is the line of the TopX limit, which may stand in
either of two slots; validation has made sure by then that there is one such line at most. What
remains visible is which line is reported first when several are misplaced, and `Agree` allows for
that.
-/

namespace Crosstab

/-! ## Interleavings of lines -/

/-- Two lists of lines that hold the same lines in the same order in every slot. -/
def SameSlots (as bs : List Line) : Prop :=
  ∀ slot : Slot, as.filter (·.slot == slot) = bs.filter (·.slot == slot)

namespace SameSlots

variable {as bs : List Line} (h : SameSlots as bs)
include h

theorem filter (p : Line → Bool) : SameSlots (as.filter p) (bs.filter p) := by
  intro slot
  have hswap (lines : List Line) : (lines.filter p).filter (·.slot == slot) =
      (lines.filter (·.slot == slot)).filter p := by
    rw [List.filter_filter, List.filter_filter]
    exact congrArg (lines.filter ·) (funext fun line => Bool.and_comm ..)
  rw [hswap, hswap, h slot]

/-- Changing lines one by one keeps an interleaving, if no line changes its slot. -/
theorem map {f : Line → Line} (hf : ∀ line, (f line).slot = line.slot) :
    SameSlots (as.map f) (bs.map f) := by
  intro slot
  have hslot : ((fun line : Line => line.slot == slot) ∘ f) = fun line => line.slot == slot := by
    funext line
    exact congrArg (· == slot) (hf line)
  rw [List.filter_map, List.filter_map, hslot, h slot]

theorem find? (slot : Slot) (role : Role) :
    as.find? (·.is slot role) = bs.find? (·.is slot role) := by
  have hslot (lines : List Line) : lines.find? (·.is slot role) =
      (lines.filter (·.slot == slot)).find? (·.role == role) := by
    rw [List.find?_filter]
    congr 1
    funext line
    rw [Line.is, Bool.decide_and, Bool.decide_eq_true, Bool.decide_eq_true]
  rw [hslot, hslot, h slot]

/-- An interleaving is a permutation: a line is counted in its own slot. -/
theorem perm : as.Perm bs := by
  rw [List.perm_iff_count]
  intro line
  have hcount := congrArg (List.count line) (h line.slot)
  rwa [List.count_filter (by simp), List.count_filter (by simp)] at hcount

theorem countLines (p : Line → Bool) : (as.filter p).length = (bs.filter p).length :=
  (h.perm.filter p).length_eq

/-- A line that is the only one of its kind is found in every interleaving. -/
theorem find?_of_sole {p : Line → Bool} (hsole : (as.filter p).length ≤ 1) :
    as.find? p = bs.find? p := by
  have hperm := h.perm.filter p
  rw [← List.head?_filter, ← List.head?_filter]
  cases hlist : as.filter p with
  | nil =>
      rw [hlist] at hperm
      rw [hperm.nil_eq]
  | cons line rest =>
      rw [hlist, List.length_cons] at hsole
      obtain rfl : rest = [] := List.length_eq_zero_iff.mp (by omega)
      rw [hlist] at hperm
      rw [hperm.singleton_eq]

theorem ofLines : Query.ofLines as = Query.ofLines bs := by
  have hkept := h.filter fun line => line.role != .topX || line.slot == .orderBy
  unfold Query.ofLines
  simp only [hkept _]

end SameSlots

/-! ## Requests that read alike -/

/-- Two requests over one axis whose lines are interleaved in two ways. -/
structure Interleaved (request other : Request) : Prop where
  axis : request.axis = other.axis
  slots : SameSlots request.lines other.lines

/-- What validation leaves of two interleavings: they also have the same TopX line. -/
structure Alike (request other : Request) : Prop extends Interleaved request other where
  topX : request.topXLine? = other.topXLine?

section
variable {request other : Request}

theorem Interleaved.find? (h : Interleaved request other) (slot : Slot) (role : Role) :
    request.find? slot role = other.find? slot role :=
  h.slots.find? slot role

theorem Interleaved.countLines (h : Interleaved request other) (p : Line → Bool) :
    request.countLines p = other.countLines p :=
  h.slots.countLines p

namespace Alike

variable (h : Alike request other)
include h

theorem axisSelect? : request.axisSelect? = other.axisSelect? := h.find? .select .axis

theorem pivotSelect? : request.pivotSelect? = other.pivotSelect? := h.find? .select .pivot

theorem countSelect? : request.countSelect? = other.countSelect? := h.find? .select .count

theorem linesIn (slot : Slot) : request.linesIn slot = other.linesIn slot := h.slots slot

theorem textsIn (slot : Slot) : request.textsIn slot = other.textsIn slot := by
  rw [Request.textsIn, h.linesIn, Request.textsIn]

theorem uncappedIn (slot : Slot) : request.uncappedIn slot = other.uncappedIn slot := by
  rw [Request.uncappedIn, h.linesIn, Request.uncappedIn]

theorem topXLimit : request.topXLimit = other.topXLimit := by
  unfold Request.topXLimit
  rw [h.topX]

/-! ## The axis of alike requests -/

theorem resolve (shape : Shape) :
    DatasetNames.resolve request shape = DatasetNames.resolve other shape := by
  unfold DatasetNames.resolve
  rw [h.axisSelect?, h.countSelect?, h.pivotSelect?]

theorem datasetQuery (db : Database) (increment : Increment) (names : DatasetNames) :
    AxisPlan.datasetQuery db request increment names =
      AxisPlan.datasetQuery db other increment names := by
  have hbinned := h.slots.map (f := binLine db increment names) fun line =>
    (binLine_kind db increment names line).1
  exact SameSlots.ofLines ((hbinned.filter _).filter _)

theorem ofRequest (db : Database) (shape : Shape) :
    AxisPlan.ofRequest db request shape = AxisPlan.ofRequest db other shape := by
  unfold AxisPlan.ofRequest
  simp only [h.axis, h.axisSelect?, h.resolve, h.datasetQuery, h.textsIn, h.uncappedIn]

/-! ## The pivot of alike requests -/

theorem rankOrder (count : Line) (pivotExpr : String) :
    Crosstab.rankOrder request count pivotExpr = Crosstab.rankOrder other count pivotExpr := by
  unfold Crosstab.rankOrder Request.topXOrder
  rw [h.linesIn]

theorem censusQuery (db : Database) (count : Line) (limit : Option Nat) (pivotExpr : String)
    (axisExpr : Option String) :
    Crosstab.censusQuery db request count limit pivotExpr axisExpr =
      Crosstab.censusQuery db other count limit pivotExpr axisExpr := by
  unfold Crosstab.censusQuery
  simp only [h.rankOrder, h.textsIn, h.linesIn]

theorem census (db : Database) (shape : Shape) (pivotExpr : String) (axisExpr : Option String) :
    Crosstab.census db request shape pivotExpr axisExpr =
      Crosstab.census db other shape pivotExpr axisExpr := by
  unfold Crosstab.census
  simp only [h.countSelect?, h.topXLimit, h.censusQuery]

theorem rowQuery (header : Line) (pivotExpr : String) :
    PivotPlan.rowQuery request header pivotExpr = PivotPlan.rowQuery other header pivotExpr := by
  unfold PivotPlan.rowQuery PivotPlan.rowGroups
  simp only [h.textsIn, h.linesIn, h.uncappedIn]

theorem ofRows (db : Database) : PivotPlan.ofRows db request = PivotPlan.ofRows db other := by
  unfold PivotPlan.ofRows
  simp only [h.pivotSelect?, h.countSelect?, h.find?, h.rowQuery, h.census, h.textsIn]

theorem ofAxis (db : Database) (calendar : Calendar) (axisAlias : String) :
    PivotPlan.ofAxis db calendar axisAlias request =
      PivotPlan.ofAxis db calendar axisAlias other := by
  unfold PivotPlan.ofAxis
  simp only [h.pivotSelect?, h.ofRequest, h.census]

/-! ## Building alike requests -/

theorem classify : Shape.classify request = Shape.classify other := by
  unfold Shape.classify
  rw [h.axisSelect?, h.pivotSelect?]

theorem checkRequirements (shape : Shape) :
    shape.checkRequirements request = shape.checkRequirements other := by
  unfold Shape.checkRequirements
  rw [h.axis, h.axisSelect?, h.pivotSelect?, h.countSelect?, h.countLines]

theorem inShape (config : Config) (db : Database) (shape : Shape) :
    Build.inShape config db shape request = Build.inShape config db shape other := by
  cases shape with
  | plain =>
      show Build.plain db request = Build.plain db other
      unfold Build.plain
      rw [h.topXLimit, h.slots.ofLines]
  | axis =>
      show Build.axis config db request = Build.axis config db other
      unfold Build.axis
      simp only [h.axis, h.ofRequest]
  | pivot =>
      show Build.pivot config db request = Build.pivot config db other
      unfold Build.pivot
      simp only [h.ofRows]
  | axisPivot =>
      show Build.axisPivot config db request = Build.axisPivot config db other
      unfold Build.axisPivot
      simp only [h.axis, h.ofAxis]

end Alike

/-! ## Validating two interleavings -/

/-- Two outcomes that are the same, or that both refuse a line for its slot, though not the same
one. -/
def Agree {α : Type} (x y : Outcome α) : Prop :=
  x = y ∨ ∃ line line', x = .error (.invalidRequest (.misplaced line)) ∧
    y = .error (.invalidRequest (.misplaced line'))

theorem Agree.refl {α : Type} (x : Outcome α) : Agree x x := Or.inl rfl

/-- What comes next may rely on what the first step has checked. -/
theorem Agree.bind {α β : Type} {x y : Outcome α} {f g : α → Outcome β} (h : Agree x y)
    (hfg : ∀ a, x = .ok a → Agree (f a) (g a)) : Agree (x >>= f) (y >>= g) := by
  rcases h with rfl | ⟨line, line', rfl, rfl⟩
  · cases x with
    | error failure => exact Agree.refl _
    | ok a => exact hfg a rfl
  · exact Or.inr ⟨line, line', rfl, rfl⟩

namespace Interleaved

variable (h : Interleaved request other)
include h

/-- At most one line carries the TopX limit, so both requests have the same one. -/
theorem alike {what : SoleLine} {u : Unit}
    (hsole : request.checkSole what Request.isTopXLimit = .ok u) : Alike request other :=
  ⟨h, h.slots.find?_of_sole (checkSole_ok.mp hsole)⟩

theorem checkSole (what : SoleLine) (p : Line → Bool) :
    Agree (request.checkSole what p) (other.checkSole what p) := by
  left
  unfold Request.checkSole
  rw [h.countLines]

theorem checkPlaced : Agree request.checkPlaced other.checkPlaced := by
  unfold Request.checkPlaced
  cases hline : request.lines.find? (fun line => !Request.isPlaced line) with
  | some line =>
      cases hother : other.lines.find? (fun line => !Request.isPlaced line) with
      | some line' => exact Or.inr ⟨line, line', rfl, rfl⟩
      | none =>
          have hmem := h.slots.perm.mem_iff.mp (List.mem_of_find?_eq_some hline)
          exact absurd (List.find?_some hline) (List.find?_eq_none.mp hother line hmem)
  | none =>
      cases hother : other.lines.find? (fun line => !Request.isPlaced line) with
      | some line' =>
          have hmem := h.slots.perm.mem_iff.mpr (List.mem_of_find?_eq_some hother)
          exact absurd (List.find?_some hother) (List.find?_eq_none.mp hline line' hmem)
      | none => exact Agree.refl _

theorem checkAxis : Agree request.checkAxis other.checkAxis := by
  left
  unfold Request.checkAxis Request.axisSelect? Request.axisGroupBy?
  rw [h.axis, h.find?, h.find?]

theorem validate : Agree request.validate other.validate := by
  refine (h.checkSole ..).bind fun _ _ => ?_
  refine (h.checkSole ..).bind fun _ _ => ?_
  refine (h.checkSole ..).bind fun _ _ => ?_
  refine (h.checkSole ..).bind fun _ _ => ?_
  refine (h.checkSole ..).bind fun _ hsole => ?_
  refine h.checkPlaced.bind fun _ _ => ?_
  refine h.checkAxis.bind fun _ _ => ?_
  -- The limit is read last, when it is known to stand on one line.
  rw [(h.alike hsole).topXLimit]
  exact Agree.refl _

end Interleaved

theorem alike_of_validate (h : Interleaved request other) {u : Unit}
    (hvalid : request.validate = .ok u) : Alike request other := by
  simp only [Request.validate, bind_eq_ok] at hvalid
  obtain ⟨-, -, -, -, -, -, -, -, u, hsole, -⟩ := hvalid
  exact h.alike hsole

/-- **Only the order inside a slot matters.** However the lines of different slots are interleaved,
the same SQL is built or the same failure is reported, up to which misplaced line is named. -/
theorem build_interleaved (config : Config) (db : Database) (haxis : request.axis = other.axis)
    (hslots : ∀ slot, request.linesIn slot = other.linesIn slot) :
    build config db request = build config db other ∨
      ∃ line line', build config db request = .error (.invalidRequest (.misplaced line)) ∧
        build config db other = .error (.invalidRequest (.misplaced line')) := by
  have h : Interleaved request other := ⟨haxis, hslots⟩
  refine h.validate.bind fun _ hvalid => ?_
  have hall := alike_of_validate h hvalid
  simp only [hall.classify, hall.checkRequirements, hall.inShape]
  exact Agree.refl _

end

/-- The limit of a pivot among its selects and after everything else. -/
theorem build_interleaved_limit :
    build {} .oracle ⟨[.plain .select "k", .rowCap 3, ⟨"p", .select, .pivot⟩, .plain .table "t",
        ⟨"COUNT(*)", .select, .count⟩], none⟩ =
      build {} .oracle ⟨[.plain .table "t", .plain .select "k", ⟨"p", .select, .pivot⟩,
        ⟨"COUNT(*)", .select, .count⟩, .rowCap 3], none⟩ := by
  refine (build_interleaved {} .oracle rfl fun slot => ?_).resolve_right ?_
  · cases slot <;> rfl
  · rintro ⟨line, line', hfail, -⟩
    have hbuilt :
        (Except.error (.invalidRequest (.misplaced line)) : Outcome String).toBool = true := by
      rw [← hfail]
      decide +kernel
    cases hbuilt

end Crosstab
