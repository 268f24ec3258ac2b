import Crosstab.Proofs.MatchedParentheses

/-!
# Readers with look-ahead

A `Cursor` remembers that it has just passed a closer. The same texts can be read without that
memory by a reader that looks ahead: at a closer it looks at the next character, and takes a second
closer together with the first. `LookAhead.scan` marks the characters of a text in this way, and
`LookAhead.matchingParen` counts parentheses down to zero in this way, where no count may fall below
it. They are written without regard to each other and make the same marks and find the same
parentheses as the cursor does (`scanFrom_eq`, `matchingParen_eq`).

`scanners_agree` says what follows for the marks: a parenthesis hides what is up to its partner, a
quoted text hides itself, and neither has any influence on what comes behind.
-/

namespace Crosstab

namespace LookAhead

/-! ## Two readers -/

/-- Where a reader stands between two characters: the parentheses open, and the closer of the quoted
run that it is in. -/
structure State where
  depth : Nat
  quote : Option Char
  deriving Repr, DecidableEq

/-- Outside of everything. -/
def State.start : State := ⟨0, none⟩

/-- A character, its byte offset, and whether it stands at the top level. -/
structure Scanned where
  pos : Nat
  ch : Char
  top : Bool
  deriving Repr, DecidableEq

/-- Put an entry ahead of what a reader notes from there on. -/
def note (entry : Scanned) (rest : List Scanned × State) : List Scanned × State :=
  (entry :: rest.1, rest.2)

/-- Read a text that begins at a byte offset: the entries of its characters, and where the reader
stands behind them. -/
def scanFrom (pos : Nat) (s : State) : List Char → List Scanned × State
  | [] => ([], s)
  | c :: cs =>
    let next := pos + c.utf8Size
    match s.quote with
    | some closer =>
      if c = closer then
        match cs with
        | [] => ([⟨pos, c, false⟩], { s with quote := none })
        | d :: rest =>
          if d = closer then
            note ⟨pos, c, false⟩ (note ⟨next, d, false⟩ (scanFrom (next + d.utf8Size) s rest))
          else note ⟨pos, c, false⟩ (scanFrom next { s with quote := none } (d :: rest))
      else note ⟨pos, c, false⟩ (scanFrom next s cs)
    | none =>
      match closer? c with
      | some closer => note ⟨pos, c, false⟩ (scanFrom next { s with quote := some closer } cs)
      | none =>
        if c = '(' then note ⟨pos, c, false⟩ (scanFrom next { s with depth := s.depth + 1 } cs)
        else if c = ')' then
          note ⟨pos, c, false⟩ (scanFrom next { s with depth := s.depth - 1 } cs)
        else note ⟨pos, c, s.depth == 0⟩ (scanFrom next s cs)

/-- The entries of a whole text. -/
def scan (cs : List Char) : List Scanned := (scanFrom 0 .start cs).1

/-- Where a reader stands behind a whole text. -/
def standing (cs : List Char) : State := (scanFrom 0 .start cs).2

/-- Read on to the parenthesis at which the count reaches zero: its byte offset. -/
def shutFrom (pos : Nat) (s : State) : List Char → Except Fault (Option Nat)
  | [] => .ok none
  | c :: cs =>
    let next := pos + c.utf8Size
    match s.quote with
    | some closer =>
      if c = closer then
        match cs with
        | [] => .ok none
        | d :: rest =>
          if d = closer then shutFrom (next + d.utf8Size) s rest
          else shutFrom next { s with quote := none } (d :: rest)
      else shutFrom next s cs
    | none =>
      match closer? c with
      | some closer => shutFrom next { s with quote := some closer } cs
      | none =>
        if c = '(' then shutFrom next { s with depth := s.depth + 1 } cs
        else if c = ')' then
          match less s.depth 1 with
          | .error fault => .error fault
          | .ok depth => if depth = 0 then .ok (some pos) else shutFrom next { s with depth } cs
        else shutFrom next s cs

/-- The byte offset of the parenthesis that closes the one at byte offset `opening`. -/
def matchingParen (cs : List Char) (opening : Nat) : Except Fault (Option Nat) :=
  if (utf8 cs)[opening]? ≠ some '('.toUInt8 then .ok none
  else do
    let rest ← sliceFrom cs opening
    let found ← shutFrom 0 .start rest
    .ok (found.map (opening + ·))

/-! ## The cursor of a reader with look-ahead -/

/-- The cursor that reads on like this reader. -/
def State.cursor (s : State) : Cursor :=
  ⟨s.depth, match s.quote with
    | some closer => .quoted closer
    | none => .plain⟩

/-- What this reader would know at a cursor. -/
def ofCursor (k : Cursor) : State :=
  ⟨k.depth, match k.mode with
    | .quoted closer => some closer
    | _ => none⟩

/-- The characters of a text that begins at a byte offset, each with its own. -/
def offsets (pos : Nat) : List Char → List (Nat × Char)
  | [] => []
  | c :: cs => (pos, c) :: offsets (pos + c.utf8Size) cs

/-- The entries of a text that has nothing at the top level. -/
def hidden (pos : Nat) (cs : List Char) : List Scanned :=
  (offsets pos cs).map fun entry => ⟨entry.1, entry.2, false⟩

/-- The entry of the same character in a text that has `n` bytes more ahead of it. -/
def Scanned.shift (n : Nat) (entry : Scanned) : Scanned := { entry with pos := entry.pos + n }

/-- Marked characters with their byte offsets. -/
def placed (pos : Nat) : List (Char × Bool) → List Scanned
  | [] => []
  | (c, top) :: rest => ⟨pos, c, top⟩ :: placed (pos + c.utf8Size) rest

end LookAhead

namespace Cursor

/-- Behind a quoted run a text is read as it is on its own, unless it continues the run. -/
theorem ended_of_head? {q : Char} {cs : List Char} (d : Nat) (h : cs.head? ≠ some q) :
    marks ⟨d, .ended q⟩ cs = marks ⟨d, .plain⟩ cs ∧
      LookAhead.ofCursor (run ⟨d, .ended q⟩ cs) = LookAhead.ofCursor (run ⟨d, .plain⟩ cs) ∧
      untilShut ⟨d, .ended q⟩ cs = untilShut ⟨d, .plain⟩ cs := by
  cases cs with
  | nil => exact ⟨rfl, rfl, rfl⟩
  | cons c cs =>
      have hne : c ≠ q := fun heq => h (congrArg some heq)
      have hstep := step_ended_of_ne (d := d) hne
      have htop : isTop ⟨d, .ended q⟩ c = isTop ⟨d, .plain⟩ c := by
        simp only [isTop, reads, bne_iff_ne.mpr hne]
      refine ⟨?_, ?_, ?_⟩
      · rw [marks, marks, hstep, htop]
      · rw [run_cons, run_cons, hstep]
      · rw [untilShut, untilShut, hstep]

end Cursor

namespace LookAhead

/-- What a reader with look-ahead would note of the marks that a cursor makes. -/
def byCursor (pos : Nat) (k : Cursor) (cs : List Char) : List Scanned × State :=
  (placed pos (k.marks cs), ofCursor (k.run cs))

theorem byCursor_cons (pos : Nat) (k : Cursor) (c : Char) (cs : List Char) :
    byCursor pos k (c :: cs) =
      note ⟨pos, c, k.isTop c⟩ (byCursor (pos + c.utf8Size) (k.step c) cs) := rfl

theorem byCursor_ended {q : Char} {cs : List Char} (pos d : Nat) (h : cs.head? ≠ some q) :
    byCursor pos ⟨d, .ended q⟩ cs = byCursor pos ⟨d, .plain⟩ cs := by
  obtain ⟨hmarks, hrun, -⟩ := Cursor.ended_of_head? d h
  rw [byCursor, byCursor, hmarks, hrun]

theorem cursor_quoted {s : State} {q : Char} (h : s.quote = some q) :
    s.cursor = ⟨s.depth, .quoted q⟩ := by
  rw [State.cursor, h]

theorem cursor_plain {s : State} (h : s.quote = none) : s.cursor = ⟨s.depth, .plain⟩ := by
  rw [State.cursor, h]

theorem ofCursor_cursor (s : State) : ofCursor s.cursor = s := by
  obtain ⟨d, quote⟩ := s
  cases quote <;> rfl

section
variable {d : Nat} {q c : Char}

/-- At the closer of its run a cursor waits for what follows. -/
theorem step_closer : Cursor.step ⟨d, .quoted q⟩ q = ⟨d, .ended q⟩ := if_pos rfl

theorem step_inside (h : c ≠ q) : Cursor.step ⟨d, .quoted q⟩ c = ⟨d, .quoted q⟩ := if_neg h

theorem step_doubled : Cursor.step ⟨d, .ended q⟩ q = ⟨d, .quoted q⟩ := if_pos rfl

theorem isTop_quoted : Cursor.isTop ⟨d, .quoted q⟩ c = false := rfl

theorem isTop_doubled : Cursor.isTop ⟨d, .ended q⟩ q = false := by
  simp [Cursor.isTop, Cursor.reads]

theorem step_opener (h : closer? c = some q) : Cursor.step ⟨d, .plain⟩ c = ⟨d, .quoted q⟩ := by
  simp [Cursor.step, Cursor.readPlain, h]

theorem isTop_opener (h : closer? c = some q) : Cursor.isTop ⟨d, .plain⟩ c = false := by
  simp [Cursor.isTop, h]

theorem isTop_paren (k : Cursor) : k.isTop '(' = false ∧ k.isTop ')' = false := by
  simp [Cursor.isTop]

theorem step_other (hc : closer? c = none) (hopen : c ≠ '(') (hshut : c ≠ ')') :
    Cursor.step ⟨d, .plain⟩ c = ⟨d, .plain⟩ := by
  simp [Cursor.step, Cursor.readPlain, hc, hopen, hshut]

theorem isTop_other (hc : closer? c = none) (hopen : c ≠ '(') (hshut : c ≠ ')') :
    Cursor.isTop ⟨d, .plain⟩ c = (d == 0) := by
  simp [Cursor.isTop, Cursor.reads, hc, bne_iff_ne.mpr hopen, bne_iff_ne.mpr hshut]

end

/-- The reader with look-ahead notes what the cursor marks and stands where it stands. -/
theorem scanFrom_eq (pos : Nat) (s : State) (cs : List Char) :
    scanFrom pos s cs = byCursor pos s.cursor cs := by
  fun_induction scanFrom pos s cs with
  | case1 pos s =>
      rw [byCursor, Cursor.run_nil, ofCursor_cursor]
      rfl
  | case2 pos s closer hquote =>
      rw [cursor_quoted hquote, byCursor_cons, step_closer]
      rfl
  | case3 pos s closer rest hquote next ih =>
      rw [ih, cursor_quoted hquote, byCursor_cons, step_closer, byCursor_cons, step_doubled,
        isTop_quoted, isTop_doubled]
  | case4 pos s closer hquote d rest hne next ih =>
      have hhead : (d :: rest).head? ≠ some closer := fun h => hne (Option.some.inj h)
      rw [ih, cursor_quoted hquote, byCursor_cons pos, step_closer, byCursor_ended _ _ hhead]
      rfl
  | case5 pos s c rest next closer hquote hne ih =>
      rw [ih, cursor_quoted hquote, byCursor_cons, step_inside hne, isTop_quoted]
  | case6 pos s c rest next hquote closer hcloser ih =>
      rw [ih, cursor_plain hquote, byCursor_cons, step_opener hcloser, isTop_opener hcloser]
      rfl
  | case7 pos s rest hquote next hcloser ih =>
      rw [ih, cursor_plain hquote, cursor_plain (s := { s with depth := s.depth + 1 }) hquote,
        byCursor_cons, (isTop_paren _).1]
      rfl
  | case8 pos s rest hquote next hcloser hne ih =>
      rw [ih, cursor_plain hquote, cursor_plain (s := { s with depth := s.depth - 1 }) hquote,
        byCursor_cons, (isTop_paren _).2]
      rfl
  | case9 pos s c rest next hquote hcloser hopen hshut ih =>
      rw [ih, cursor_plain hquote, byCursor_cons, step_other hcloser hopen hshut,
        isTop_other hcloser hopen hshut]

/-- The byte offset at which the depth of a cursor first comes down to zero. -/
def shutByCursor (pos : Nat) (k : Cursor) (cs : List Char) : Option Nat :=
  (k.untilShut cs).map fun r => pos + byteLength r.1

theorem shutByCursor_cons {k : Cursor} {c : Char} (pos : Nat) (h : (k.step c).depth ≠ 0)
    (cs : List Char) :
    shutByCursor pos k (c :: cs) = shutByCursor (pos + c.utf8Size) (k.step c) cs := by
  rw [shutByCursor, Cursor.untilShut, if_neg h, shutByCursor, Option.map_map]
  exact congrArg (Option.map · _) (funext fun r => (Nat.add_assoc ..).symm)

theorem shutByCursor_ended {q : Char} {cs : List Char} (pos d : Nat) (h : cs.head? ≠ some q) :
    shutByCursor pos ⟨d, .ended q⟩ cs = shutByCursor pos ⟨d, .plain⟩ cs := by
  rw [shutByCursor, (Cursor.ended_of_head? d h).2.2, shutByCursor]

/-- What the counting reader finds from inside a parenthesis is where the cursor gets out of it,
and the count never falls below zero. -/
theorem shutFrom_eq {s : State} (pos : Nat) (cs : List Char) (hs : s.depth ≠ 0) :
    shutFrom pos s cs = .ok (shutByCursor pos s.cursor cs) := by
  fun_induction shutFrom pos s cs with
  | case1 => rfl
  | case2 pos s closer hquote =>
      rw [cursor_quoted hquote, shutByCursor_cons pos (by rwa [step_closer])]
      rfl
  | case3 pos s closer rest hquote next ih =>
      rw [ih hs, cursor_quoted hquote, shutByCursor_cons pos (by rwa [step_closer]), step_closer,
        shutByCursor_cons next (by rwa [step_doubled]), step_doubled]
  | case4 pos s closer hquote d rest hne next ih =>
      have hhead : (d :: rest).head? ≠ some closer := fun h => hne (Option.some.inj h)
      rw [ih hs, cursor_quoted hquote, shutByCursor_cons pos (by rwa [step_closer]), step_closer,
        shutByCursor_ended _ _ hhead]
      rfl
  | case5 pos s c rest next closer hquote hne ih =>
      rw [ih hs, cursor_quoted hquote, shutByCursor_cons pos (by rwa [step_inside hne]),
        step_inside hne]
  | case6 pos s c rest next hquote closer hcloser ih =>
      rw [ih hs, cursor_plain hquote, shutByCursor_cons pos (by rwa [step_opener hcloser]),
        step_opener hcloser]
      rfl
  | case7 pos s rest hquote next hcloser ih =>
      rw [ih (Nat.succ_ne_zero _), cursor_plain hquote,
        cursor_plain (s := { s with depth := s.depth + 1 }) hquote,
        shutByCursor_cons (k := ⟨s.depth, .plain⟩) (c := '(') pos (Nat.succ_ne_zero s.depth)]
      rfl
  | case8 pos s rest hquote fault hfault =>
      rw [less_of_le (by omega)] at hfault
      cases hfault
  | case9 pos s rest hquote hcloser hne hzero =>
      rw [less_of_le (by omega), Except.ok.injEq] at hzero
      have hdepth : (Cursor.step ⟨s.depth, .plain⟩ ')').depth = 0 := hzero
      rw [cursor_plain hquote, shutByCursor, Cursor.untilShut, if_pos hdepth]
      rfl
  | case10 pos s rest hquote depth hless hne next hcloser hopen ih =>
      rw [less_of_le (by omega), Except.ok.injEq] at hless
      have hdepth : (Cursor.step ⟨s.depth, .plain⟩ ')').depth ≠ 0 := hless.trans_ne hne
      rw [ih hne, cursor_plain hquote, cursor_plain (s := { s with depth }) hquote,
        shutByCursor_cons pos hdepth, ← hless]
      rfl
  | case11 pos s c rest next hquote hcloser hopen hshut ih =>
      rw [ih hs, cursor_plain hquote,
        shutByCursor_cons pos (by rwa [step_other hcloser hopen hshut]),
        step_other hcloser hopen hshut]

/-- A parenthesis is found without a fault, and it is the one that the cursor finds. -/
theorem matchingParen_eq (cs : List Char) (opening : Nat) :
    matchingParen cs opening = .ok (Crosstab.matchingParen (String.ofList cs) opening) := by
  have hparen : '('.toNat < 128 := by decide
  unfold matchingParen Crosstab.matchingParen
  rw [String.toList_ofList]
  split
  · rename_i hbyte
    split
    · rename_i rest hdrop
      obtain ⟨before, rfl, rfl⟩ := dropBytes?_iff.mp hdrop
      exact absurd (byte_at hparen before rest) hbyte
    · rfl
  · rename_i hbyte
    obtain ⟨before, rest, rfl, rfl⟩ := exists_of_byte hparen (not_not.mp hbyte)
    have hfound : shutFrom 0 .start ('(' :: rest) = .ok (shutByCursor 1 ⟨1, .plain⟩ rest) :=
      shutFrom_eq 1 rest Nat.one_ne_zero
    rw [sliceFrom_append, dropBytes?_append]
    simp only [bind, Except.bind, hfound, shutByCursor, Option.map_map]
    exact congrArg (fun f => Except.ok (Option.map f _)) (funext fun r => (Nat.add_assoc ..).symm)

/-! ## Entries of a text in parts -/

theorem map_placed (pos : Nat) (ms : List (Char × Bool)) :
    (placed pos ms).map (fun entry => (entry.pos, entry.ch)) = offsets pos (ms.map Prod.fst) ∧
      (placed pos ms).map (fun entry => (entry.ch, entry.top)) = ms := by
  induction ms generalizing pos with
  | nil => exact ⟨rfl, rfl⟩
  | cons m ms ih =>
      obtain ⟨hoffsets, hmarks⟩ := ih (pos + m.1.utf8Size)
      simp [placed, offsets, hoffsets, hmarks]

theorem placed_append (pos : Nat) (ms ns : List (Char × Bool)) :
    placed pos (ms ++ ns) = placed pos ms ++ placed (pos + byteLength (ms.map Prod.fst)) ns := by
  induction ms generalizing pos with
  | nil => rfl
  | cons m ms ih => simp [placed, ih, byteLength_cons, Nat.add_assoc]

theorem placed_shift (pos n : Nat) (ms : List (Char × Bool)) :
    placed (pos + n) ms = (placed pos ms).map (·.shift n) := by
  induction ms generalizing pos with
  | nil => rfl
  | cons m ms ih =>
      rw [placed, placed, List.map_cons, ← ih, Nat.add_right_comm]
      rfl

theorem placed_hidden (pos : Nat) (cs : List Char) :
    placed pos (cs.map (·, false)) = hidden pos cs := by
  induction cs generalizing pos with
  | nil => rfl
  | cons c cs ih => exact congrArg (_ :: ·) (ih _)

/-- A parenthesis is sought in the text behind it. -/
theorem matchingParen_cons (before rest : List Char) :
    matchingParen (before ++ '(' :: rest) (byteLength before) =
      .ok ((enclosed? rest).map fun r => byteLength (before ++ '(' :: r.1)) := by
  rw [matchingParen_eq, Crosstab.matchingParen, String.toList_ofList, dropBytes?_append]
  refine congrArg (fun f => Except.ok (Option.map f _)) (funext fun r => ?_)
  rw [byteLength_append, byteLength_ascii (by decide)]
  omega

theorem scan_eq (cs : List Char) : scan cs = placed 0 (marks cs) :=
  congrArg Prod.fst (scanFrom_eq 0 .start cs)

theorem standing_eq_start {cs : List Char} :
    standing cs = .start ↔ (Cursor.start.run cs).atTop = true := by
  have hstanding : standing cs = ofCursor (Cursor.start.run cs) :=
    congrArg Prod.snd (scanFrom_eq 0 .start cs)
  rw [hstanding, Cursor.atTop_iff]
  obtain ⟨d, mode⟩ := Cursor.start.run cs
  cases mode <;> simp [ofCursor, State.start]

/-- A part with nothing at the top level, behind which a text is read afresh. -/
theorem scan_spliced {before mid after : List Char}
    (hmid : (Cursor.start.run before).marks mid = mid.map (·, false))
    (hafter : (Cursor.start.run (before ++ mid)).marks after = marks after) :
    scan (before ++ mid ++ after) = scan before ++ hidden (byteLength before) mid ++
      (scan after).map (·.shift (byteLength (before ++ mid))) := by
  have hmarks : marks (before ++ mid ++ after) =
      marks before ++ mid.map (·, false) ++ marks after := by
    rw [marks, Cursor.marks_append, hafter, Cursor.marks_append, hmid, marks, marks]
  have hlength : byteLength ((marks before ++ mid.map (·, false)).map Prod.fst) =
      byteLength (before ++ mid) := by
    simp [marks, Function.comp_def]
  rw [scan_eq, scan_eq, scan_eq, hmarks, placed_append, placed_append, placed_hidden, hlength,
    placed_shift, marks, Cursor.map_fst_marks, Nat.zero_add]

end LookAhead

namespace Cursor

/-! ## What hides from the top level -/

/-- Within a parenthesis nothing stands at the top level. -/
theorem marks_deep {k : Cursor} {cs : List Char} (hk : k.depth ≠ 0)
    (h : k.untilShut cs = none) : k.marks cs = cs.map (·, false) := by
  induction cs generalizing k with
  | nil => rfl
  | cons c cs ih =>
      have htop : k.isTop c = false := by simp [isTop, hk]
      rw [untilShut] at h
      split at h
      · cases h
      · rename_i hdepth
        rw [marks, htop, ih hdepth (Option.map_eq_none_iff.mp h), List.map_cons]

/-- A closer that also opens a run opens one that it ends itself. -/
theorem eq_of_isCloser {o q : Char} (ho : closer? o = some q) (h : isCloser o = true) : q = o := by
  unfold closer? at ho
  split at ho <;> cases ho <;> first | rfl | cases h

section
variable {k : Cursor} (hk : k.Legal) (htop : k.atTop = true)
include hk htop

theorem step_open_of_atTop : k.step '(' = start.raise 1 := by
  obtain ⟨d, mode⟩ := k
  obtain ⟨hdepth, hmode | ⟨q, hmode⟩⟩ := atTop_iff.mp htop
  · obtain rfl : d = 0 := hdepth
    obtain rfl : mode = .plain := hmode
    rfl
  · obtain rfl : d = 0 := hdepth
    obtain rfl : mode = .ended q := hmode
    have hne : '(' ≠ q := by
      rintro rfl
      cases hk
    rw [step_ended_of_ne hne]
    rfl

/-- At the top level an opening quote leads into its run, even right behind another run: if it
continues that one, the two have the same closer. -/
theorem step_opener_of_atTop {o q : Char} (ho : closer? o = some q) :
    k.step o = ⟨0, .quoted q⟩ := by
  obtain ⟨d, mode⟩ := k
  obtain ⟨hdepth, hmode | ⟨q', hmode⟩⟩ := atTop_iff.mp htop
  · obtain rfl : d = 0 := hdepth
    obtain rfl : mode = .plain := hmode
    exact LookAhead.step_opener ho
  · obtain rfl : d = 0 := hdepth
    obtain rfl : mode = .ended q' := hmode
    by_cases hq : o = q'
    · subst hq
      rw [eq_of_isCloser ho hk]
      exact LookAhead.step_doubled
    · rw [step_ended_of_ne hq]
      exact LookAhead.step_opener ho

/-- A parenthesis hides what stands up to its partner, and what comes behind is read afresh. -/
theorem marks_parens {inner : List Char} (h : isClosed inner = true) (after : List Char) :
    k.marks ('(' :: (inner ++ [')'])) = ('(' :: (inner ++ [')'])).map (·, false) ∧
      (k.run ('(' :: (inner ++ [')']))).marks after = Crosstab.marks after := by
  have hopen := step_open_of_atTop hk htop
  have hkeeps := (isClosed_iff.mp h).1
  obtain ⟨-, hrun⟩ := keeps_raise 1 hkeeps
  constructor
  · rw [marks, hopen, (LookAhead.isTop_paren k).1, marks_append, marks_raise hkeeps]
    simp [marks, LookAhead.isTop_paren]
  · rw [run_cons, hopen, run_append, hrun, run_cons, step_shut h]
    rfl

/-- A parenthesis without a partner hides all the rest. -/
theorem marks_unclosed {rest : List Char} (h : enclosed? rest = none) :
    k.marks ('(' :: rest) = ('(' :: rest).map (·, false) := by
  have hdeep : (start.raise 1).marks rest = rest.map (·, false) := marks_deep Nat.one_ne_zero h
  rw [marks, step_open_of_atTop hk htop, (LookAhead.isTop_paren k).1, hdeep, List.map_cons]

/-- A quoted text hides itself, and what comes behind it is read afresh. -/
theorem marks_quoted {o q : Char} {p : Char → Bool} (ho : closer? o = some q) (hq : p q = true)
    (body : List Char) {after : List Char} (hafter : after.head? ≠ some q) :
    k.marks (o :: double p body ++ [q]) = (o :: double p body ++ [q]).map (·, false) ∧
      (k.run (o :: double p body ++ [q])).marks after = Crosstab.marks after := by
  have hopen := step_opener_of_atTop hk htop ho
  have hquote : k.isTop o = false := by simp [isTop, ho]
  obtain ⟨-, hrun, hmarks⟩ := quoted_double hq 0 body
  constructor
  · rw [List.cons_append, marks, hopen, hquote, marks_append, hmarks, hrun]
    simp [marks, LookAhead.isTop_quoted]
  · rw [List.cons_append, run_cons, hopen, run_append, hrun, run_cons, LookAhead.step_closer,
      run_nil, (ended_of_head? 0 hafter).1]
    rfl

end

end Cursor

namespace LookAhead

/-- The entries of a text with a part that hides itself between parts that do not notice it. -/
def Hides (before mid after : List Char) : Prop :=
  scan (before ++ mid ++ after) = scan before ++ hidden (byteLength before) mid ++
    (scan after).map (·.shift (byteLength (before ++ mid)))

/-- A part hides itself if nothing in it stands at the top level and a text behind it is read
afresh. -/
theorem hides_of_marks {before mid after : List Char}
    (h : (Cursor.start.run before).marks mid = mid.map (·, false) ∧
      ((Cursor.start.run before).run mid).marks after = marks after) : Hides before mid after := by
  refine scan_spliced h.1 ?_
  rw [Cursor.run_append]
  exact h.2

/-! ## The headline -/

section
variable {before : List Char} (h : standing before = .start)
include h

theorem hides_parens {rest : List Char} {closing : Nat}
    (hfound : matchingParen (before ++ '(' :: rest) (byteLength before) = .ok (some closing)) :
    ∃ inner after, rest = inner ++ ')' :: after ∧
      closing = byteLength (before ++ '(' :: inner) ∧
      Hides before ('(' :: (inner ++ [')'])) after := by
  rw [matchingParen_cons, Except.ok.injEq] at hfound
  obtain ⟨⟨inner, after⟩, henclosed, rfl⟩ := Option.map_eq_some_iff.mp hfound
  obtain ⟨hinner, rfl⟩ := enclosed?_some henclosed
  refine ⟨inner, after, rfl, rfl, hides_of_marks ?_⟩
  exact Cursor.marks_parens (Cursor.legal_start.run _) (standing_eq_start.mp h) hinner after

theorem hides_rest {rest : List Char}
    (hfound : matchingParen (before ++ '(' :: rest) (byteLength before) = .ok none) :
    Hides before ('(' :: rest) [] := by
  rw [matchingParen_cons, Except.ok.injEq, Option.map_eq_none_iff] at hfound
  refine hides_of_marks ⟨?_, rfl⟩
  exact Cursor.marks_unclosed (Cursor.legal_start.run _) (standing_eq_start.mp h) hfound

theorem hides_literal (db : Database) (text : String) {after : List Char}
    (hafter : after.head? ≠ some '\'') : Hides before (db.quoteLiteral text).toList after := by
  have hlist : (db.quoteLiteral text).toList =
      '\'' :: double db.doublesInLiteral text.toList ++ ['\''] := by
    simp [Database.quoteLiteral, Database.escapeLiteral]
  rw [hlist]
  exact hides_of_marks (Cursor.marks_quoted (Cursor.legal_start.run _) (standing_eq_start.mp h) rfl
    rfl text.toList hafter)

theorem hides_ident (db : Database) (name : String) {after : List Char}
    (hafter : after.head? ≠ some db.identQuotes.2) :
    Hides before (db.quoteIdent name).toList after := by
  rw [db.toList_quoteIdent]
  exact hides_of_marks (Cursor.marks_quoted (p := (· == db.identQuotes.2))
    (Cursor.legal_start.run _) (standing_eq_start.mp h) db.identQuotes_closer?.1
    (beq_self_eq_true _) name.toList hafter)

end

/-- **Readers that look ahead see what the cursor sees**: every character once and in order, with
the same marks and the same pairs of parentheses. A parenthesis at the top level hides what stands
up to its partner, or all the rest if it has none, and a literal or a quoted name hides itself; what
comes behind is marked as it would be alone. -/
theorem scanners_agree :
    (∀ cs, (scan cs).map (fun entry => (entry.pos, entry.ch)) = offsets 0 cs ∧
      (scan cs).map (fun entry => (entry.ch, entry.top)) = marks cs) ∧
    (∀ cs opening, matchingParen cs opening =
      .ok (Crosstab.matchingParen (String.ofList cs) opening)) ∧
    (∀ before rest, standing before = .start →
      (∀ closing, matchingParen (before ++ '(' :: rest) (byteLength before) = .ok (some closing) →
        ∃ inner after, rest = inner ++ ')' :: after ∧
          closing = byteLength (before ++ '(' :: inner) ∧
          Hides before ('(' :: (inner ++ [')'])) after) ∧
      (matchingParen (before ++ '(' :: rest) (byteLength before) = .ok none →
        Hides before ('(' :: rest) [])) ∧
    (∀ (db : Database) (text : String) before after, standing before = .start →
      (after.head? ≠ some '\'' → Hides before (db.quoteLiteral text).toList after) ∧
      (after.head? ≠ some db.identQuotes.2 → Hides before (db.quoteIdent text).toList after)) := by
  refine ⟨fun cs => ?_, matchingParen_eq, fun before rest h => ?_, fun db text before after h => ?_⟩
  · obtain ⟨hoffsets, hmarks⟩ := map_placed 0 (marks cs)
    rw [marks, Cursor.map_fst_marks] at hoffsets
    rw [scan_eq]
    exact ⟨hoffsets, hmarks⟩
  · exact ⟨fun closing => hides_parens h, hides_rest h⟩
  · exact ⟨hides_literal h db text, hides_ident h db text⟩

/-- A parenthesis with quoted ones in it, one that is never closed, and a literal right behind
another, which reads on as the same run. -/
theorem scanners_agree_quoted :
    let before := "é ".toList
    let rest := "f(')'), [)]]]) AS n".toList
    (standing before = .start ∧
      matchingParen (before ++ '(' :: rest) (byteLength before) = .ok (some 17) ∧
      ∃ inner after, rest = inner ++ ')' :: after ∧ 17 = byteLength (before ++ '(' :: inner) ∧
        Hides before ('(' :: (inner ++ [')'])) after) ∧
    (matchingParen (before ++ '(' :: "a AS ')'".toList) (byteLength before) = .ok none ∧
      Hides before ('(' :: "a AS ')'".toList) []) ∧
    (standing "N'x'".toList = .start ∧ " AS n".toList.head? ≠ some '\'' ∧
      Hides "N'x'".toList (Database.mySql.quoteLiteral "it's").toList " AS n".toList) := by
  intro before rest
  obtain ⟨-, -, hparens, hquotes⟩ := scanners_agree
  have hbefore : standing before = .start := by decide +kernel
  have hsome : matchingParen (before ++ '(' :: rest) (byteLength before) = .ok (some 17) := by
    decide +kernel
  have hnone : matchingParen (before ++ '(' :: "a AS ')'".toList) (byteLength before) =
      .ok none := by
    decide +kernel
  have hrun : standing "N'x'".toList = .start := by decide +kernel
  have hafter : " AS n".toList.head? ≠ some '\'' := by decide +kernel
  exact ⟨⟨hbefore, hsome, (hparens before rest hbefore).1 17 hsome⟩,
    ⟨hnone, (hparens before _ hbefore).2 hnone⟩,
    hrun, hafter, (hquotes .mySql "it's" _ _ hrun).1 hafter⟩

end LookAhead

end Crosstab
