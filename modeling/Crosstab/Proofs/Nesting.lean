import Crosstab.Proofs.Quoting

/-!
# Well nested text

Which texts are closed was said by a reader that goes through them. `Nested` says it by what they
are made of: parentheses around well nested text, quoted runs that end, and characters that are
neither. The two agree (`isClosed_iff_nested`).

A run may hold its closer only twice in a row, so what follows a run must not begin with it: in
`[a]]` the run goes on.
-/

namespace Crosstab

/-- Parentheses come in pairs around well nested text, and every quoted run ends. -/
inductive Nested : List Char → Prop where
  | nil : Nested []
  | plain {c : Char} {cs : List Char} (hc : closer? c = none) (hopen : c ≠ '(') (hshut : c ≠ ')')
      (h : Nested cs) : Nested (c :: cs)
  | parens {inner cs : List Char} (hinner : Nested inner) (h : Nested cs) :
      Nested ('(' :: (inner ++ ')' :: cs))
  | quoted {o q : Char} {cs : List Char} (body : List Char) (ho : closer? o = some q)
      (hq : cs.head? ≠ some q) (h : Nested cs) : Nested (quoteWith o q body ++ cs)

/-! ## From the pieces to the reader -/

theorem isClosed_cons_plain {c : Char} {cs : List Char} (hc : closer? c = none) (hopen : c ≠ '(')
    (hshut : c ≠ ')') : isClosed (c :: cs) = isClosed cs := by
  have hstep : Cursor.start.step c = Cursor.start := by
    simp [Cursor.step, Cursor.readPlain, Cursor.start, hc, hopen, hshut]
  rw [isClosed, Cursor.closes, hstep, beq_eq_false_iff_ne.mpr hshut, Bool.and_false,
    Bool.not_false, Bool.true_and, isClosed]

/-- Behind a quoted run a text is read as it is on its own, unless it continues the run. -/
theorem Cursor.closes_ended {q : Char} {cs : List Char} (hq : cs.head? ≠ some q) :
    Cursor.closes ⟨0, .ended q⟩ cs = isClosed cs := by
  cases cs with
  | nil => rfl
  | cons c cs =>
      have hne : c ≠ q := fun h => hq (congrArg some h)
      have hreads : Cursor.reads ⟨0, .ended q⟩ c = true := bne_iff_ne.mpr hne
      rw [isClosed, Cursor.closes, Cursor.closes, hreads, Cursor.step_ended_of_ne hne]
      rfl

theorem isClosed_quoteWith_append {o q : Char} {cs : List Char} (ho : closer? o = some q)
    (hq : cs.head? ≠ some q) (body : List Char) :
    isClosed (quoteWith o q body ++ cs) = isClosed cs := by
  obtain ⟨hkeeps, hrun, -⟩ :=
    Cursor.quoted_run (p := (· == q)) ho (beq_self_eq_true q) 0 body
  have hkeeps : Cursor.start.keeps (quoteWith o q body) = true := hkeeps
  have hrun : Cursor.start.run (quoteWith o q body) = ⟨0, .ended q⟩ := hrun
  rw [isClosed, Cursor.closes_eq, Cursor.keeps_append, Cursor.run_append, hkeeps, hrun,
    Bool.true_and, ← Cursor.closes_eq, Cursor.closes_ended hq]

theorem isClosed_parens_append {inner : List Char} (hinner : isClosed inner = true)
    (cs : List Char) : isClosed ('(' :: (inner ++ ')' :: cs)) = isClosed cs := by
  obtain ⟨hkeeps, hrun⟩ := Cursor.keeps_raise 1 (isClosed_iff.mp hinner).1
  have hopen : Cursor.start.step '(' = Cursor.start.raise 1 := rfl
  have hdepth : (((Cursor.start.run inner).raise 1).depth == 0) = false := rfl
  rw [isClosed, Cursor.closes, hopen, Cursor.closes_eq, Cursor.keeps_append, Cursor.run_append,
    hkeeps, hrun, Cursor.keeps, Cursor.run_cons, step_shut hinner, hdepth, Bool.and_false]
  simp [isClosed, Cursor.closes_eq]

theorem Nested.isClosed {cs : List Char} (h : Nested cs) : isClosed cs = true := by
  induction h with
  | nil => rfl
  | plain hc hopen hshut _ ih => rw [isClosed_cons_plain hc hopen hshut, ih]
  | parens _ _ hinner ih => rw [isClosed_parens_append hinner, ih]
  | quoted body ho hq _ ih => rw [isClosed_quoteWith_append ho hq, ih]

/-! ## What stands inside matching parentheses -/

namespace Cursor

/-- A reader gets out of one parenthesis only at the one that closes it, from the top level
within it. -/
theorem shut_of_step_raise {k : Cursor} {c : Char} (h : ((k.raise 1).step c).depth = 0) :
    k.atTop = true ∧ c = ')' := by
  obtain ⟨d, mode⟩ := k
  have hplain : (readPlain (d + 1) c).depth = 0 → d = 0 ∧ c = ')' := by
    unfold readPlain
    split
    · exact fun h => absurd h (Nat.succ_ne_zero d)
    · split
      · exact fun h => absurd h (Nat.succ_ne_zero _)
      · split
        · exact fun h => ⟨h, ‹c = ')'›⟩
        · exact fun h => absurd h (Nat.succ_ne_zero d)
  cases mode with
  | plain => exact ⟨atTop_iff.mpr ⟨(hplain h).1, Or.inl rfl⟩, (hplain h).2⟩
  | quoted q =>
      simp only [raise, step] at h
      split at h <;> exact absurd h (Nat.succ_ne_zero d)
  | ended q =>
      simp only [raise, step] at h
      split at h
      · exact absurd h (Nat.succ_ne_zero d)
      · exact ⟨atTop_iff.mpr ⟨(hplain h).1, Or.inr ⟨q, rfl⟩⟩, (hplain h).2⟩

/-- The only way out of one parenthesis is the parenthesis that closes it. -/
theorem depth_step_raise {k : Cursor} {c : Char}
    (h : (k.reads c && k.depth == 0 && c == ')') = true) : ((k.raise 1).step c).depth = 0 := by
  obtain ⟨d, mode⟩ := k
  simp only [Bool.and_eq_true, beq_iff_eq] at h
  obtain ⟨⟨hreads, rfl⟩, rfl⟩ := h
  cases mode with
  | plain => rfl
  | quoted q => cases hreads
  | ended q =>
      have hne : ')' ≠ q := bne_iff_ne.mp hreads
      rw [raise, step_ended_of_ne hne]
      rfl

theorem untilShut_some {k : Cursor} {cs inner rest : List Char}
    (h : (k.raise 1).untilShut cs = some (inner, rest)) :
    k.closes inner = true ∧ cs = inner ++ ')' :: rest := by
  induction cs generalizing k inner with
  | nil => cases h
  | cons c cs ih =>
      rw [untilShut] at h
      split at h
      · rename_i hdepth
        cases h
        obtain ⟨htop, rfl⟩ := shut_of_step_raise hdepth
        exact ⟨htop, rfl⟩
      · rename_i hdepth
        obtain ⟨⟨inner', rest'⟩, hinner, heq⟩ := Option.map_eq_some_iff.mp h
        cases heq
        -- Still inside, so this is not the parenthesis that closes the enclosing one.
        have hopen : (k.reads c && k.depth == 0 && c == ')') = false := by
          rw [Bool.eq_false_iff]
          exact fun hclose => hdepth (depth_step_raise hclose)
        rw [step_raise 1 hopen] at hinner
        obtain ⟨hcloses, rfl⟩ := ih hinner
        refine ⟨?_, rfl⟩
        rw [closes, hopen, hcloses]
        rfl

end Cursor

/-- Whatever stands between a parenthesis and its closing partner is closed. -/
theorem enclosed?_some {cs inner rest : List Char} (h : enclosed? cs = some (inner, rest)) :
    isClosed inner = true ∧ cs = inner ++ ')' :: rest :=
  Cursor.untilShut_some h

/-! ## From the reader to the pieces -/

/-- Inside a parenthesis a text that ends outside all of them closes it somewhere. -/
theorem Cursor.exists_untilShut {k : Cursor} {cs : List Char} (hk : k.depth ≠ 0)
    (h : (k.run cs).depth = 0) : ∃ inner rest, k.untilShut cs = some (inner, rest) := by
  induction cs generalizing k with
  | nil => exact absurd h hk
  | cons c cs ih =>
      rw [Cursor.untilShut]
      split
      · exact ⟨[], cs, rfl⟩
      · rename_i hdepth
        obtain ⟨inner, rest, hrest⟩ := ih hdepth h
        exact ⟨c :: inner, rest, by rw [hrest]; rfl⟩

/-- The parenthesis that begins a closed text is closed in it. -/
theorem exists_parens {cs : List Char} (h : isClosed ('(' :: cs) = true) :
    ∃ inner rest, cs = inner ++ ')' :: rest ∧ isClosed inner = true ∧ isClosed rest = true := by
  have hdepth : ((Cursor.start.raise 1).run cs).depth = 0 :=
    (Cursor.atTop_iff.mp (isClosed_iff.mp h).2).1
  obtain ⟨inner, rest, hcut⟩ := Cursor.exists_untilShut Nat.one_ne_zero hdepth
  obtain ⟨hinner, rfl⟩ := enclosed?_some hcut
  exact ⟨inner, rest, rfl, hinner, (isClosed_parens_append hinner rest).symm.trans h⟩

/-- A run from the inside up to its end. The closer that ends it is the first one that is not
followed by another. -/
theorem exists_run_end {q : Char} {cs : List Char}
    (h : Cursor.closes ⟨0, .quoted q⟩ cs = true) :
    ∃ body rest, cs = double (· == q) body ++ q :: rest ∧ rest.head? ≠ some q ∧
      isClosed rest = true := by
  induction hn : cs.length using Nat.strong_induction_on generalizing cs with
  | _ n ih =>
      subst hn
      cases cs with
      | nil => cases h
      | cons c cs =>
          by_cases hc : c = q
          · subst hc
            have hended : Cursor.closes ⟨0, .ended c⟩ cs = true := by
              simpa [Cursor.closes, Cursor.step, Cursor.reads] using h
            by_cases hnext : cs.head? = some c
            · obtain ⟨cs, rfl⟩ := List.head?_eq_some_iff.mp hnext
              have hagain : Cursor.closes ⟨0, .quoted c⟩ cs = true := by
                simpa [Cursor.closes, Cursor.step, Cursor.reads] using hended
              obtain ⟨body, rest, rfl, hrest⟩ := ih cs.length
                (by simp only [List.length_cons]; omega) hagain rfl
              refine ⟨c :: body, rest, ?_, hrest⟩
              rw [double_cons_pos (p := (· == c)) (beq_self_eq_true c)]
              rfl
            · exact ⟨[], cs, rfl, hnext, (Cursor.closes_ended hnext).symm.trans hended⟩
          · have hinside : Cursor.closes ⟨0, .quoted q⟩ cs = true := by
              simpa [Cursor.closes, Cursor.step, Cursor.reads, hc] using h
            obtain ⟨body, rest, rfl, hrest⟩ := ih cs.length (by simp) hinside rfl
            refine ⟨c :: body, rest, ?_, hrest⟩
            rw [double_cons_neg (p := (· == q)) (beq_eq_false_iff_ne.mpr hc)]
            rfl

theorem nested_of_isClosed {cs : List Char} (h : isClosed cs = true) : Nested cs := by
  induction hn : cs.length using Nat.strong_induction_on generalizing cs with
  | _ n ih =>
      subst hn
      cases cs with
      | nil => exact .nil
      | cons c cs =>
          cases hc : closer? c with
          | some q =>
              have hinside : Cursor.closes ⟨0, .quoted q⟩ cs = true := by
                have hstep : Cursor.start.step c = ⟨0, .quoted q⟩ := by
                  simp [Cursor.step, Cursor.readPlain, Cursor.start, hc]
                rw [isClosed, Cursor.closes, hstep, Bool.and_eq_true] at h
                exact h.2
              obtain ⟨body, rest, rfl, hhead, hrest⟩ := exists_run_end hinside
              have hlist : c :: (double (· == q) body ++ q :: rest) =
                  quoteWith c q body ++ rest := by simp [quoteWith]
              have hlt : rest.length < (c :: (double (· == q) body ++ q :: rest)).length := by
                simp only [List.length_cons, List.length_append]
                omega
              rw [hlist]
              exact .quoted body hc hhead (ih rest.length hlt hrest rfl)
          | none =>
              by_cases hopen : c = '('
              · subst hopen
                obtain ⟨inner, rest, rfl, hinner, hrest⟩ := exists_parens h
                have hlt : inner.length + rest.length < ('(' :: (inner ++ ')' :: rest)).length := by
                  simp only [List.length_cons, List.length_append]
                  omega
                exact .parens (ih inner.length (by omega) hinner rfl)
                  (ih rest.length (by omega) hrest rfl)
              · by_cases hshut : c = ')'
                · subst hshut
                  cases h
                · rw [isClosed_cons_plain hc hopen hshut] at h
                  exact .plain hc hopen hshut (ih cs.length (by simp) h rfl)

theorem isClosed_iff_nested {cs : List Char} : isClosed cs = true ↔ Nested cs :=
  ⟨nested_of_isClosed, Nested.isClosed⟩

end Crosstab
