import Crosstab.Fragment.Paren

/-!
# Reading pasted text

A statement is pasted together from words of the synthesizer and from text that it was given. This
file says when such a text is closed without looking at the given parts again: `Stand` is what a
reader may be relied on to know between two parts, and `Reads σ s τ` says that `s` takes every
reader at `σ` to one at `τ` without meeting a parenthesis that closes nothing.

- A word of the synthesizer is read by evaluation (`Reads.own`).
- A closed text that was given keeps the depth, whatever it is (`Reads.given`); all it leaves open
  is whether its last character ended a quoted run, which the character after it could continue.
  `Stand.settled` records that.

`encloses_of_closed` is the other use of closed texts: the parenthesis before one is matched by the
parenthesis after it.
-/

namespace Crosstab

/-- Whether a character ends some quoted run. -/
def isCloser (c : Char) : Bool := c == '\'' || c == '"' || c == '\x60' || c == ']'

theorem isCloser_of_closer? {c q : Char} (h : closer? c = some q) : isCloser q = true := by
  unfold closer? at h
  split at h <;> cases h <;> rfl

namespace Cursor

/-! ## Reading in two steps -/

/-- Whether reading on meets no parenthesis that closes nothing. -/
def keeps (k : Cursor) : List Char → Bool
  | [] => true
  | c :: cs => !(k.reads c && k.depth == 0 && c == ')') && keeps (k.step c) cs

@[simp] theorem run_nil (k : Cursor) : k.run [] = k := rfl

@[simp] theorem run_cons (k : Cursor) (c : Char) (cs : List Char) :
    k.run (c :: cs) = (k.step c).run cs := rfl

theorem run_append (k : Cursor) (as bs : List Char) : k.run (as ++ bs) = (k.run as).run bs := by
  simp [run]

theorem keeps_append (k : Cursor) (as bs : List Char) :
    k.keeps (as ++ bs) = (k.keeps as && (k.run as).keeps bs) := by
  induction as generalizing k with
  | nil => rfl
  | cons c as ih => simp [keeps, ih, Bool.and_assoc]

/-- A text closes when it keeps the depth and ends at the top level. -/
theorem closes_eq (k : Cursor) (cs : List Char) :
    k.closes cs = (k.keeps cs && (k.run cs).atTop) := by
  induction cs generalizing k with
  | nil => rfl
  | cons c cs ih => simp [closes, keeps, ih, Bool.and_assoc]

theorem step_ended_of_ne {d : Nat} {q c : Char} (h : c ≠ q) :
    step ⟨d, .ended q⟩ c = step ⟨d, .plain⟩ c := if_neg h

theorem atTop_iff {k : Cursor} :
    k.atTop = true ↔ k.depth = 0 ∧ (k.mode = .plain ∨ ∃ q, k.mode = .ended q) := by
  obtain ⟨d, mode⟩ := k
  cases mode <;> simp [atTop]

theorem marks_append (k : Cursor) (as bs : List Char) :
    k.marks (as ++ bs) = k.marks as ++ (k.run as).marks bs := by
  induction as generalizing k with
  | nil => rfl
  | cons c as ih => simp [marks, ih]

@[simp] theorem map_fst_marks (k : Cursor) (cs : List Char) : (k.marks cs).map Prod.fst = cs := by
  induction cs generalizing k with
  | nil => rfl
  | cons c cs ih => simp [marks, ih]

theorem length_marks (k : Cursor) (cs : List Char) : (k.marks cs).length = cs.length := by
  rw [← List.length_map (f := Prod.fst), map_fst_marks]

/-! ## The runs a reader can be in -/

/-- The closer that the reader remembers, if any, ends a run that some character opens. -/
def Legal (k : Cursor) : Prop :=
  match k.mode with
  | .plain => True
  | .quoted q | .ended q => isCloser q = true

theorem legal_plain (d : Nat) : Legal ⟨d, .plain⟩ := trivial

theorem legal_start : start.Legal := trivial

theorem legal_readPlain (d : Nat) (c : Char) : (readPlain d c).Legal := by
  unfold readPlain
  split
  · rename_i q h
    exact isCloser_of_closer? h
  · split
    · exact legal_plain _
    · split <;> exact legal_plain _

theorem Legal.step {k : Cursor} (h : k.Legal) (c : Char) : (k.step c).Legal := by
  obtain ⟨d, mode⟩ := k
  cases mode with
  | plain => exact legal_readPlain d c
  | quoted q =>
      simp only [Cursor.step]
      split <;> exact h
  | ended q =>
      simp only [Cursor.step]
      split
      · exact h
      · exact legal_readPlain d c

theorem Legal.run {k : Cursor} (h : k.Legal) (cs : List Char) : (k.run cs).Legal := by
  induction cs generalizing k with
  | nil => exact h
  | cons c cs ih => exact ih (h.step c)

/-! ## Deeper readers

A text that keeps its depth never learns how deep it stands, so it reads the same inside further
parentheses. -/

/-- The same reader inside `n` more parentheses. -/
def raise (n : Nat) (k : Cursor) : Cursor := ⟨k.depth + n, k.mode⟩

theorem reads_raise (n : Nat) (k : Cursor) (c : Char) : (k.raise n).reads c = k.reads c := rfl

theorem readPlain_raise {d : Nat} {c : Char} (n : Nat) (h : d = 0 → c ≠ ')') :
    readPlain (d + n) c = (readPlain d c).raise n := by
  unfold readPlain
  cases closer? c with
  | some q => rfl
  | none =>
      by_cases ho : c = '('
      · subst ho
        simp [raise]
        omega
      · by_cases hc : c = ')'
        · have hd : d ≠ 0 := fun h0 => h h0 hc
          subst hc
          simp [raise]
          omega
        · simp [ho, hc, raise]

theorem step_raise {k : Cursor} {c : Char} (n : Nat)
    (h : (k.reads c && k.depth == 0 && c == ')') = false) :
    (k.raise n).step c = (k.step c).raise n := by
  obtain ⟨d, mode⟩ := k
  have hplain : mode = .plain ∨ (∃ q, mode = .ended q ∧ c ≠ q) → d = 0 → c ≠ ')' := by
    rintro hmode rfl rfl
    rcases hmode with rfl | ⟨q, rfl, hq⟩ <;> simp_all [reads]
  cases mode with
  | plain => exact readPlain_raise n (hplain (Or.inl rfl))
  | quoted q =>
      simp only [step, raise]
      split <;> rfl
  | ended q =>
      simp only [step, raise]
      split
      · rfl
      · rename_i hq
        exact readPlain_raise n (hplain (Or.inr ⟨q, rfl, hq⟩))

theorem keeps_raise {k : Cursor} {cs : List Char} (n : Nat) (h : k.keeps cs = true) :
    (k.raise n).keeps cs = true ∧ (k.raise n).run cs = (k.run cs).raise n := by
  induction cs generalizing k with
  | nil => exact ⟨rfl, rfl⟩
  | cons c cs ih =>
      rw [keeps, Bool.and_eq_true, Bool.not_eq_true'] at h
      obtain ⟨hc, hcs⟩ := h
      have hstep := step_raise n hc
      obtain ⟨ihk, ihr⟩ := ih hcs
      refine ⟨?_, by rw [run_cons, hstep, ihr, run_cons]⟩
      rw [keeps, hstep, ihk, Bool.and_true, reads_raise, Bool.not_eq_true']
      simp only [raise, Bool.and_eq_false_iff, beq_eq_false_iff_ne] at hc ⊢
      rcases hc with (hr | hd) | hp
      · exact Or.inl (Or.inl hr)
      · exact Or.inl (Or.inr (by omega))
      · exact Or.inr hp

/-- Inside a parenthesis nothing stands at the top level. -/
theorem marks_raise {k : Cursor} {cs : List Char} (h : k.keeps cs = true) :
    (k.raise 1).marks cs = cs.map (·, false) := by
  induction cs generalizing k with
  | nil => rfl
  | cons c cs ih =>
      rw [keeps, Bool.and_eq_true, Bool.not_eq_true'] at h
      obtain ⟨hc, hcs⟩ := h
      rw [marks, step_raise 1 hc, ih hcs]
      simp [isTop, raise]

end Cursor

/-! ## Closed text -/

/-- A text that opens nothing it does not close and closes nothing it did not open. -/
def Closed (s : String) : Prop := isClosed s.toList = true

instance (s : String) : Decidable (Closed s) :=
  inferInstanceAs (Decidable (isClosed s.toList = true))

theorem isClosed_iff {cs : List Char} :
    isClosed cs = true ↔ Cursor.start.keeps cs = true ∧ (Cursor.start.run cs).atTop = true := by
  rw [isClosed, Cursor.closes_eq, Bool.and_eq_true]

/-! ## Stands -/

/-- What is known of a reader between two parts of a text: it is outside quoted runs at this depth,
and if it is `settled`, it reads the next character plainly whatever that is. -/
structure Stand where
  depth : Nat
  settled : Bool
  deriving Repr, DecidableEq

namespace Stand

/-- The readers of which a stand tells the truth. -/
def Fits (σ : Stand) (k : Cursor) : Prop :=
  k.depth = σ.depth ∧
    (k.mode = .plain ∨ σ.settled = false ∧ ∃ q, isCloser q = true ∧ k.mode = .ended q)

/-- The stand of a reader that is outside quoted runs. -/
def of? (k : Cursor) : Option Stand :=
  match k.mode with
  | .plain => some ⟨k.depth, true⟩
  | .ended _ => some ⟨k.depth, false⟩
  | .quoted _ => none

/-- Evaluate a whole text at a stand. An unsettled reader needs a first character that could not
continue a quoted run. -/
def read? (σ : Stand) : List Char → Option Stand
  | [] => some σ
  | c :: cs =>
    if (σ.settled || !isCloser c) && Cursor.keeps ⟨σ.depth, .plain⟩ (c :: cs) then
      of? (Cursor.run ⟨σ.depth, .plain⟩ (c :: cs))
    else none

theorem fits_of? {k : Cursor} {σ : Stand} (hk : k.Legal) (h : of? k = some σ) : σ.Fits k := by
  obtain ⟨d, mode⟩ := k
  cases mode with
  | plain =>
      cases h
      exact ⟨rfl, Or.inl rfl⟩
  | quoted q => cases h
  | ended q =>
      cases h
      exact ⟨rfl, Or.inr ⟨rfl, q, hk, rfl⟩⟩

/-- A reader that just left a quoted run reads any other character as a plain reader does. -/
theorem fits_first {σ : Stand} {k : Cursor} {c : Char} (h : σ.Fits k)
    (hc : (σ.settled || !isCloser c) = true) (cs : List Char) :
    k.keeps (c :: cs) = Cursor.keeps ⟨σ.depth, .plain⟩ (c :: cs) ∧
      k.run (c :: cs) = Cursor.run ⟨σ.depth, .plain⟩ (c :: cs) := by
  obtain ⟨d, mode⟩ := k
  obtain ⟨rfl, rfl | ⟨hs, q, hq, rfl⟩⟩ := h
  · exact ⟨rfl, rfl⟩
  · have hne : c ≠ q := by
      rintro rfl
      simp [hs, hq] at hc
    have hreads : Cursor.reads ⟨σ.depth, .ended q⟩ c = true := bne_iff_ne.mpr hne
    have hstep := Cursor.step_ended_of_ne (d := σ.depth) hne
    refine ⟨?_, by simp only [Cursor.run_cons, hstep]⟩
    simp only [Cursor.keeps, hreads, hstep]
    rfl

end Stand

/-- The text `s` takes every reader at `σ` to one at `τ` and meets no parenthesis that closes
nothing. -/
def Reads (σ : Stand) (s : String) (τ : Stand) : Prop :=
  ∀ k, k.Legal → σ.Fits k → k.keeps s.toList = true ∧ τ.Fits (k.run s.toList)

namespace Reads

theorem trans {σ τ υ : Stand} {s t : String} (hs : Reads σ s τ) (ht : Reads τ t υ) :
    Reads σ (s ++ t) υ := by
  intro k hl hk
  obtain ⟨hks, hrs⟩ := hs k hl hk
  obtain ⟨hkt, hrt⟩ := ht _ (hl.run _) hrs
  rw [String.toList_append, Cursor.keeps_append, Cursor.run_append, hks, Bool.true_and]
  exact ⟨hkt, hrt⟩

/-- A reader that is known to be settled may be taken for one that is not. -/
theorem unsettle {σ : Stand} {s : String} {d : Nat} (h : Reads σ s ⟨d, true⟩) :
    Reads σ s ⟨d, false⟩ := by
  intro k hl hk
  obtain ⟨hkeeps, hd, hm⟩ := h k hl hk
  refine ⟨hkeeps, hd, hm.imp_right ?_⟩
  rintro ⟨hsettled, -⟩
  cases hsettled

/-- A word of the synthesizer is read by evaluation. -/
theorem own {σ τ : Stand} {s : String} (h : σ.read? s.toList = some τ) : Reads σ s τ := by
  intro k hl hk
  cases hcs : s.toList with
  | nil =>
      rw [hcs] at h
      cases h
      exact ⟨rfl, hk⟩
  | cons c cs =>
      rw [hcs, Stand.read?] at h
      split at h
      · rename_i hc
        rw [Bool.and_eq_true] at hc
        obtain ⟨hkeeps, hrun⟩ := Stand.fits_first hk hc.1 cs
        rw [hkeeps, hrun]
        exact ⟨hc.2, Stand.fits_of? ((Cursor.legal_plain _).run _) h⟩
      · cases h

/-- A closed text keeps the depth, whatever it is. -/
theorem given {d : Nat} {s : String} (h : Closed s) : Reads ⟨d, true⟩ s ⟨d, false⟩ := by
  rintro k hl ⟨hd, hm⟩
  -- A settled reader is the one that the text is closed for, raised to its depth.
  have hk : k = Cursor.start.raise d := by
    obtain ⟨depth, mode⟩ := k
    obtain rfl : depth = d := hd
    obtain rfl | ⟨hfalse, -⟩ := hm
    · simp [Cursor.raise, Cursor.start]
    · cases hfalse
  obtain ⟨hkeeps, htop⟩ := isClosed_iff.mp h
  obtain ⟨hkeeps', hrun⟩ := Cursor.keeps_raise d hkeeps
  rw [hk, hrun]
  refine ⟨hkeeps', ?_⟩
  obtain ⟨hdepth, hmode⟩ := Cursor.atTop_iff.mp htop
  refine ⟨by simp [Cursor.raise, hdepth], hmode.imp_right ?_⟩
  rintro ⟨q, hq⟩
  have hlegal : (Cursor.start.run s.toList).Legal := Cursor.legal_start.run _
  rw [Cursor.Legal, hq] at hlegal
  exact ⟨rfl, q, hlegal, hq⟩

/-- A given text between two words. -/
theorem paste {σ τ : Stand} {d : Nat} {before s after : String} (hb : Reads σ before ⟨d, true⟩)
    (h : Closed s) (ha : Reads ⟨d, false⟩ after τ) : Reads σ (before ++ s ++ after) τ :=
  .trans (.trans hb (.given h)) ha

end Reads

theorem closed_of_reads {s : String} {b : Bool} (h : Reads ⟨0, true⟩ s ⟨0, b⟩) : Closed s := by
  obtain ⟨hkeeps, hd, hm⟩ := h Cursor.start Cursor.legal_start ⟨rfl, Or.inl rfl⟩
  refine isClosed_iff.mpr ⟨hkeeps, ?_⟩
  rcases hm with hm | ⟨-, q, -, hm⟩ <;> simp [Cursor.atTop, hd, hm]

/-! ## Matching parentheses around closed text -/

theorem dropBytes?_append (as bs : List Char) :
    dropBytes? (byteLength as) (as ++ bs) = some bs := by
  induction as with
  | nil => cases bs <;> rfl
  | cons c as ih =>
      have hpos : 0 < c.utf8Size := c.utf8Size_pos
      obtain ⟨n, hn⟩ : ∃ n, byteLength (c :: as) = n + 1 :=
        ⟨c.utf8Size - 1 + byteLength as, by simp only [byteLength, List.foldr_cons]; omega⟩
      have hsum : byteLength (c :: as) = c.utf8Size + byteLength as := rfl
      rw [hn, List.cons_append, dropBytes?, if_pos (by omega),
        show n + 1 - c.utf8Size = byteLength as by omega, ih]

/-- Inside one open parenthesis a text that keeps its depth is passed over. -/
theorem untilShut_keeps {k : Cursor} {cs : List Char} (h : k.keeps cs = true) (rest : List Char) :
    (k.raise 1).untilShut (cs ++ rest) =
      (((k.run cs).raise 1).untilShut rest).map fun r => (cs ++ r.1, r.2) := by
  induction cs generalizing k with
  | nil => simp
  | cons c cs ih =>
      rw [Cursor.keeps, Bool.and_eq_true, Bool.not_eq_true'] at h
      rw [List.cons_append, Cursor.untilShut, Cursor.step_raise 1 h.1, ih h.2]
      simp [Cursor.raise, Function.comp_def]

/-- A parenthesis behind a closed text closes the one before it, even right behind a quoted run. -/
theorem step_shut {inner : List Char} (h : isClosed inner = true) :
    ((Cursor.start.run inner).raise 1).step ')' = Cursor.start := by
  have hlegal : (Cursor.start.run inner).Legal := Cursor.legal_start.run _
  obtain ⟨hdepth, hmode | ⟨q, hq⟩⟩ := Cursor.atTop_iff.mp (isClosed_iff.mp h).2
  · rw [Cursor.raise, hdepth, hmode]
    rfl
  · rw [Cursor.Legal, hq] at hlegal
    have hne : ')' ≠ q := by
      rintro rfl
      cases hlegal
    rw [Cursor.raise, hdepth, hq, Cursor.step_ended_of_ne hne]
    rfl

theorem enclosed?_closed {inner : List Char} (h : isClosed inner = true) (rest : List Char) :
    enclosed? (inner ++ ')' :: rest) = some (inner, rest) := by
  have hrest : ((Cursor.start.run inner).raise 1).untilShut (')' :: rest) = some ([], rest) := by
    rw [Cursor.untilShut, step_shut h]
    rfl
  show (Cursor.start.raise 1).untilShut _ = _
  rw [untilShut_keeps (isClosed_iff.mp h).1, hrest]
  simp

/-- The text `inner` stands in parentheses of `text`, after `before` and ahead of `after`, and the
one that opens them is matched by the one that closes them. -/
def Encloses (text before inner after : String) : Prop :=
  text = before ++ "(" ++ inner ++ ")" ++ after ∧
    matchingParen text (byteLength before.toList) =
      some (byteLength (before ++ "(" ++ inner).toList)

theorem byteLength_append (as bs : List Char) :
    byteLength (as ++ bs) = byteLength as + byteLength bs := by
  induction as with
  | nil => simp [byteLength]
  | cons c as ih =>
      simp only [byteLength, List.cons_append, List.foldr_cons] at ih ⊢
      omega

/-- Parentheses around a closed text belong together. -/
theorem encloses_of_closed {text before inner after : String} (h : Closed inner)
    (htext : text = before ++ "(" ++ inner ++ ")" ++ after) :
    Encloses text before inner after := by
  refine ⟨htext, ?_⟩
  have hlist : text.toList = before.toList ++ '(' :: (inner.toList ++ ')' :: after.toList) := by
    simp [htext]
  rw [matchingParen, hlist, dropBytes?_append]
  simp only [enclosed?_closed h, Option.map_some, String.toList_append, byteLength_append]
  rfl

end Crosstab
