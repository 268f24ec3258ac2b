import Mathlib.Data.List.DropRight
import Crosstab.Fragment.Alias
import Crosstab.Proofs.Reading

/-!
# Trimming closed text

Readers of caller text trim blanks, and select fragments also lose the commas after them. Neither
is structural, so a closed text stays closed (`isClosed_trim`, `isClosed_tidy`). `Trimmed` is what
is left: no blank at either end, the form in which an expression is pasted next to something else.
-/

namespace Crosstab

/-! ## Inert characters -/

/-- The characters that structure a text. -/
def structural : List Char := ['\'', '"', '\x60', '[', ']', '(', ')']

/-- A character to which no reader reacts outside quoted runs, and which ends none. -/
def isInert (c : Char) : Bool := !(structural.contains c)

/-- A property that no structural character has makes a character inert. -/
theorem isInert_of {p : Char → Bool} (h : structural.any p = false) {c : Char}
    (hc : p c = true) : isInert c = true := by
  rw [isInert, Bool.not_eq_true', List.contains_eq_mem, decide_eq_false_iff_not]
  exact fun hmem => List.any_eq_false.mp h c hmem hc

theorem isInert_of_isBlank {c : Char} (h : isBlank c = true) : isInert c = true :=
  isInert_of (by decide) h

/-- An inert character neither opens nor closes anything. -/
theorem isInert.elim {c : Char} (h : isInert c = true) :
    closer? c = none ∧ isCloser c = false ∧ c ≠ '(' ∧ c ≠ ')' := by
  simp only [isInert, structural, Bool.not_eq_true', List.contains_eq_mem,
    decide_eq_false_iff_not, List.mem_cons, List.not_mem_nil, or_false, not_or] at h
  obtain ⟨h1, h2, h3, h4, h5, h6, h7⟩ := h
  refine ⟨?_, by simp [isCloser, h1, h2, h3, h5], h6, h7⟩
  unfold closer?
  split <;> first | rfl | contradiction

namespace Cursor

theorem readPlain_inert {d : Nat} {c : Char} (h : isInert c = true) :
    readPlain d c = ⟨d, .plain⟩ := by
  obtain ⟨ho, -, h6, h7⟩ := isInert.elim h
  simp [readPlain, ho, h6, h7]

/-- Outside quoted runs an inert character changes nothing but that the last run is over. -/
theorem step_inert {k : Cursor} {c : Char} (hk : k.Legal) (h : isInert c = true) :
    (∃ q, k.mode = .quoted q ∧ k.step c = k) ∨
      ((k.mode = .plain ∨ ∃ q, k.mode = .ended q) ∧ k.step c = ⟨k.depth, .plain⟩) := by
  obtain ⟨d, mode⟩ := k
  have hne : ∀ q, isCloser q = true → c ≠ q := by
    rintro q hq rfl
    rw [(isInert.elim h).2.1] at hq
    cases hq
  cases mode with
  | plain => exact Or.inr ⟨Or.inl rfl, readPlain_inert h⟩
  | quoted q => exact Or.inl ⟨q, rfl, if_neg (hne q hk)⟩
  | ended q =>
      exact Or.inr ⟨Or.inr ⟨q, rfl⟩, (step_ended_of_ne (hne q hk)).trans (readPlain_inert h)⟩

/-- An inert character leads neither to the top level nor away from it. -/
theorem atTop_step_inert {k : Cursor} {c : Char} (hk : k.Legal) (h : isInert c = true) :
    (k.step c).atTop = k.atTop := by
  rcases step_inert hk h with ⟨q, -, hs⟩ | ⟨hm, hs⟩
  · rw [hs]
  · rw [hs, Bool.eq_iff_iff, atTop_iff, atTop_iff]
    simp [hm]

theorem atTop_run_inert {k : Cursor} {cs : List Char} (hk : k.Legal)
    (h : ∀ c ∈ cs, isInert c = true) : (k.run cs).atTop = k.atTop := by
  induction cs generalizing k with
  | nil => rfl
  | cons c cs ih =>
      obtain ⟨hc, hcs⟩ := List.forall_mem_cons.mp h
      rw [run_cons, ih (hk.step c) hcs, atTop_step_inert hk hc]

end Cursor

/-! ## Closed text without its inert ends -/

theorem isClosed_cons_inert {c : Char} {cs : List Char} (hc : isInert c = true) :
    isClosed (c :: cs) = isClosed cs := by
  have hstep : Cursor.start.step c = Cursor.start := Cursor.readPlain_inert hc
  have hne : (c == ')') = false := beq_eq_false_iff_ne.mpr (isInert.elim hc).2.2.2
  rw [isClosed, Cursor.closes, hstep, hne, Bool.and_false, Bool.not_false, Bool.true_and, isClosed]

theorem isClosed_concat_inert {c : Char} {cs : List Char} (hc : isInert c = true) :
    isClosed (cs ++ [c]) = isClosed cs := by
  have hlegal : (Cursor.start.run cs).Legal := Cursor.legal_start.run cs
  have hne : (c == ')') = false := beq_eq_false_iff_ne.mpr (isInert.elim hc).2.2.2
  have hkeeps : (Cursor.start.run cs).keeps [c] = true := by simp [Cursor.keeps, hne]
  rw [isClosed, isClosed, Cursor.closes_eq, Cursor.closes_eq, Cursor.keeps_append,
    Cursor.run_append, hkeeps, Bool.and_true, Cursor.run_cons, Cursor.run_nil,
    Cursor.atTop_step_inert hlegal hc]

theorem isClosed_append_inert {tail : List Char} (ht : ∀ c ∈ tail, isInert c = true)
    (cs : List Char) : isClosed (cs ++ tail) = isClosed cs := by
  induction tail generalizing cs with
  | nil => rw [List.append_nil]
  | cons c tail ih =>
      rw [List.append_cons, ih (fun x hx => ht x (List.mem_cons_of_mem _ hx)),
        isClosed_concat_inert (ht c (List.mem_cons_self ..))]

theorem isClosed_inert_append {before : List Char} (hb : ∀ c ∈ before, isInert c = true)
    (cs : List Char) : isClosed (before ++ cs) = isClosed cs := by
  induction before with
  | nil => rfl
  | cons c before ih =>
      rw [List.forall_mem_cons] at hb
      rw [List.cons_append, isClosed_cons_inert hb.1, ih hb.2]

/-- A word without structure is closed: a numeral, say, or a name that needs no quotes. -/
theorem isClosed_inert {cs : List Char} (h : ∀ c ∈ cs, isInert c = true) : isClosed cs = true := by
  rw [← List.nil_append cs, isClosed_append_inert h]
  rfl

theorem dropTailWhile_eq_rdropWhile {α : Type} (p : α → Bool) (as : List α) :
    dropTailWhile p as = as.rdropWhile p := by
  induction as with
  | nil => rfl
  | cons a as ih =>
      rw [dropTailWhile, ih, List.rdropWhile, List.rdropWhile, List.reverse_cons,
        List.dropWhile_append]
      cases h : as.reverse.dropWhile p with
      | nil => cases hp : p a <;> simp [hp]
      | cons b bs =>
          cases hb : (b :: bs).reverse with
          | nil => simp at hb
          | cons c cs => simp [← hb]

section
variable {p : Char → Bool} (hp : ∀ c, p c = true → isInert c = true) {cs : List Char}
include hp

theorem isClosed_dropWhile (h : isClosed cs = true) : isClosed (cs.dropWhile p) = true := by
  induction cs with
  | nil => exact h
  | cons c cs ih =>
      rw [List.dropWhile_cons]
      split
      · rename_i hc
        exact ih ((isClosed_cons_inert (hp c hc)).symm.trans h)
      · exact h

theorem isClosed_dropTailWhile (h : isClosed cs = true) :
    isClosed (dropTailWhile p cs) = true := by
  rw [dropTailWhile_eq_rdropWhile]
  rwa [← List.rdropWhile_append_rtakeWhile (l := cs) (p := p),
    isClosed_append_inert fun c hc => hp c (List.mem_rtakeWhile_imp hc)] at h

end

theorem isClosed_trimEnd {cs : List Char} (h : isClosed cs = true) : isClosed (trimEnd cs) = true :=
  isClosed_dropTailWhile (fun _ => isInert_of_isBlank) h

theorem isClosed_trim {cs : List Char} (h : isClosed cs = true) : isClosed (trim cs) = true :=
  isClosed_trimEnd (isClosed_dropWhile (fun _ => isInert_of_isBlank) h)

/-- Only blanks are trimmed off. -/
theorem trim_parts (cs : List Char) : ∃ before after, cs = before ++ trim cs ++ after ∧
    (∀ c ∈ before, isBlank c = true) ∧ ∀ c ∈ after, isBlank c = true := by
  refine ⟨cs.takeWhile isBlank, (trimStart cs).rtakeWhile isBlank, ?_, ?_, ?_⟩
  · rw [trim, trimEnd, dropTailWhile_eq_rdropWhile, List.append_assoc,
      List.rdropWhile_append_rtakeWhile, trimStart, List.takeWhile_append_dropWhile]
  · exact fun c hc => List.mem_takeWhile_imp hc
  · exact fun c hc => List.mem_rtakeWhile_imp hc

theorem isClosed_tidy {cs : List Char} (h : isClosed cs = true) : isClosed (tidy cs) = true := by
  have hcomma : ∀ c : Char, (c == ',') = true → isInert c = true := by
    intro c hc
    rw [beq_iff_eq.mp hc]
    rfl
  exact isClosed_trimEnd (isClosed_dropTailWhile hcomma (isClosed_trim h))

theorem closed_trimText {s : String} (h : Closed s) : Closed (trimText s) := by
  rw [Closed, trimText, String.toList_ofList]
  exact isClosed_trim h

/-! ## Trimmed text -/

/-- No blank stands at either end. -/
def Trimmed (cs : List Char) : Prop :=
  (∀ c, cs.head? = some c → isBlank c = false) ∧ (∀ c, cs.getLast? = some c → isBlank c = false)

/-- One blank at least, and nothing else. -/
def IsGap (cs : List Char) : Prop := cs ≠ [] ∧ ∀ c ∈ cs, isBlank c = true

theorem dropTailWhile_eq_self {α : Type} {p : α → Bool} {as : List α}
    (h : ∀ a, as.getLast? = some a → p a = false) : dropTailWhile p as = as := by
  rw [dropTailWhile_eq_rdropWhile, List.rdropWhile_eq_self_iff]
  intro hne
  simp [h _ (List.getLast?_eq_getLast_of_ne_nil hne)]

theorem dropTailWhile_isPrefix {α : Type} (p : α → Bool) (as : List α) :
    dropTailWhile p as <+: as :=
  dropTailWhile_eq_rdropWhile p as ▸ List.rdropWhile_prefix ..

theorem getLast?_dropTailWhile {α : Type} {p : α → Bool} {as : List α} {a : α}
    (h : (dropTailWhile p as).getLast? = some a) : p a = false := by
  rw [dropTailWhile_eq_rdropWhile] at h
  have hne : as.rdropWhile p ≠ [] := by
    rintro hnil
    rw [hnil] at h
    cases h
  rw [List.getLast?_eq_getLast_of_ne_nil hne, Option.some.injEq] at h
  simpa [h] using List.rdropWhile_last_not p as hne

theorem Trimmed.trim {cs : List Char} (h : Trimmed cs) : trim cs = cs := by
  have hstart : trimStart cs = cs := by
    rw [trimStart]
    cases cs with
    | nil => rfl
    | cons c cs => simp [h.1 c rfl]
  rw [Crosstab.trim, hstart, trimEnd, dropTailWhile_eq_self h.2]

theorem dropTailWhile_append {α : Type} {p : α → Bool} {as tail : List α}
    (h : ∀ a, as.getLast? = some a → p a = false) (ht : ∀ a ∈ tail, p a = true) :
    dropTailWhile p (as ++ tail) = as := by
  rw [dropTailWhile_eq_rdropWhile, List.rdropWhile, List.reverse_append,
    List.dropWhile_append_of_pos (fun a ha => ht a (List.mem_reverse.mp ha)), ← List.rdropWhile,
    ← dropTailWhile_eq_rdropWhile, dropTailWhile_eq_self h]

theorem trimEnd_append_blanks {cs blanks : List Char} (h : Trimmed cs)
    (hb : ∀ c ∈ blanks, isBlank c = true) : trimEnd (cs ++ blanks) = cs :=
  dropTailWhile_append h.2 hb

theorem trim_blanks_append {cs blanks : List Char} (h : Trimmed cs)
    (hb : ∀ c ∈ blanks, isBlank c = true) : trim (blanks ++ cs) = cs := by
  rw [Crosstab.trim, trimStart, List.dropWhile_append_of_pos hb]
  exact h.trim

theorem trim_append_blanks {cs blanks : List Char} (h : Trimmed cs)
    (hb : ∀ c ∈ blanks, isBlank c = true) : trim (cs ++ blanks) = cs := by
  cases cs with
  | nil => rw [List.nil_append, ← List.append_nil blanks, trim_blanks_append h hb]
  | cons c cs =>
      have hc : isBlank c = false := h.1 c rfl
      rw [Crosstab.trim, trimStart, List.cons_append, List.dropWhile_cons_of_neg (by simp [hc]),
        ← List.cons_append, trimEnd_append_blanks h hb]

/-- The commas that a hand-written list leaves behind a fragment are not part of it. -/
theorem tidy_append_commas {cs commas blanks : List Char} (h : Trimmed cs)
    (hc : cs.getLast? ≠ some ',') (hcommas : ∀ c ∈ commas, c = ',')
    (hb : ∀ c ∈ blanks, isBlank c = true) : tidy (cs ++ commas ++ blanks) = cs := by
  have htrimmed : Trimmed (cs ++ commas) := by
    constructor
    · intro c hhead
      cases cs with
      | nil =>
          rw [hcommas c (List.mem_of_head? hhead)]
          rfl
      | cons d cs => exact h.1 c hhead
    · intro c hlast
      cases hcommas' : commas.getLast? with
      | none =>
          rw [List.getLast?_append, hcommas'] at hlast
          exact h.2 c hlast
      | some d =>
          rw [List.getLast?_append, hcommas'] at hlast
          cases hlast
          rw [hcommas c (List.mem_of_getLast? hcommas')]
          rfl
  have hcomma : ∀ c, cs.getLast? = some c → (c == ',') = false :=
    fun c hlast => beq_eq_false_iff_ne.mpr fun heq => hc (heq ▸ hlast)
  rw [tidy, trim_append_blanks htrimmed hb,
    dropTailWhile_append hcomma fun c hc => beq_iff_eq.mpr (hcommas c hc), trimEnd,
    dropTailWhile_eq_self h.2]

theorem tidy_eq_self {cs : List Char} (h : Trimmed cs) (hc : cs.getLast? ≠ some ',') :
    tidy cs = cs := by
  simpa using @tidy_append_commas cs [] [] h hc (by simp) (by simp)

/-- A trimmed beginning keeps its first character. -/
theorem head?_of_isPrefix {as bs : List Char} (h : as <+: bs) {c : Char} (hc : as.head? = some c) :
    bs.head? = some c := by
  obtain ⟨t, rfl⟩ := h
  cases as with
  | nil => cases hc
  | cons a as => exact hc

theorem getLast?_of_isSuffix {as bs : List Char} (h : as <:+ bs) {c : Char}
    (hc : as.getLast? = some c) : bs.getLast? = some c := by
  obtain ⟨t, rfl⟩ := h
  rw [List.getLast?_append, hc]
  rfl

/-- What begins a trimmed text and lost its own trailing blanks is trimmed. -/
theorem trimmed_trimEnd {as bs : List Char} (h : as <+: bs)
    (hb : ∀ c, bs.head? = some c → isBlank c = false) : Trimmed (trimEnd as) :=
  ⟨fun c hc => hb c (head?_of_isPrefix ((dropTailWhile_isPrefix ..).trans h) hc),
    fun _ hc => getLast?_dropTailWhile hc⟩

/-- What begins a trimmed text has no blanks but those at its own end. -/
theorem trim_append_rtakeWhile {as bs : List Char} (h : as <+: bs)
    (hb : ∀ c, bs.head? = some c → isBlank c = false) :
    trim as ++ as.rtakeWhile isBlank = as := by
  have hstart : trimStart as = as := by
    cases as with
    | nil => rfl
    | cons c as =>
        have hc : isBlank c = false := hb c (head?_of_isPrefix h rfl)
        rw [trimStart, List.dropWhile_cons_of_neg (by simp [hc])]
  rw [trim, hstart, trimEnd, dropTailWhile_eq_rdropWhile, List.rdropWhile_append_rtakeWhile]

/-- What ends a trimmed text has no blanks but those at its own start. -/
theorem takeWhile_append_trim {as bs : List Char} (h : as <:+ bs)
    (hb : ∀ c, bs.getLast? = some c → isBlank c = false) :
    as.takeWhile isBlank ++ trim as = as := by
  have hend : trimEnd (trimStart as) = trimStart as :=
    dropTailWhile_eq_self fun c hc =>
      hb c (getLast?_of_isSuffix ((List.dropWhile_suffix _).trans h) hc)
  rw [trim, hend, trimStart, List.takeWhile_append_dropWhile]

theorem head?_trimStart {cs : List Char} {c : Char} (h : (trimStart cs).head? = some c) :
    isBlank c = false := by
  have := List.head?_dropWhile_not isBlank cs
  rw [trimStart] at h
  simpa [h] using this

theorem trimmed_trim (cs : List Char) : Trimmed (trim cs) :=
  trimmed_trimEnd (List.prefix_refl _) fun _ => head?_trimStart

theorem trimmed_tidy (cs : List Char) : Trimmed (tidy cs) :=
  trimmed_trimEnd (dropTailWhile_isPrefix ..) (trimmed_trim cs).1

/-! ## Solid text -/

/-- A text whose first and last characters are there and are no blanks. -/
structure Solid (s : String) : Prop where
  starts : s.toList.head?.any (!isBlank ·) = true
  ends : s.toList.getLast?.any (!isBlank ·) = true

theorem starts_append {p : Char → Bool} {a : String} (h : a.toList.head?.any p = true)
    (b : String) : (a ++ b).toList.head?.any p = true := by
  rw [String.toList_append]
  cases ha : a.toList with
  | nil =>
      rw [ha] at h
      cases h
  | cons c cs => rwa [ha] at h

theorem ends_append {p : Char → Bool} {b : String} (h : b.toList.getLast?.any p = true)
    (a : String) : (a ++ b).toList.getLast?.any p = true := by
  rw [String.toList_append, List.getLast?_append]
  cases hb : b.toList.getLast? with
  | none =>
      rw [hb] at h
      cases h
  | some c => rwa [hb] at h

theorem Solid.ne_nil {s : String} (h : Solid s) : s.toList ≠ [] := by
  intro hnil
  have := h.starts
  rw [hnil] at this
  cases this

theorem Solid.trimmed {s : String} (h : Solid s) : Trimmed s.toList := by
  constructor
  · intro c hc
    simpa [hc] using h.starts
  · intro c hc
    simpa [hc] using h.ends

theorem solid_of_trimmed {cs : List Char} (hne : cs ≠ []) (h : Trimmed cs) :
    Solid (String.ofList cs) := by
  constructor
  · obtain ⟨c, rest, rfl⟩ := List.exists_cons_of_ne_nil hne
    simp [h.1 c rfl]
  · have hlast := List.getLast?_eq_getLast_of_ne_nil hne
    simp [hlast, h.2 _ hlast]

end Crosstab
