import Crosstab.Line
import Crosstab.Proofs.Quoting

/-!
# Splitting off an alias

What `splitAlias` leaves of a closed fragment is a closed expression without outer blanks
(`isClosed_splitAlias`, `trimmed_splitAlias`), so it can be pasted anywhere. Pasted under a quoted
name it is found again (`splitAlias_as`): the `AS` written after a closed expression is the last one
at the top level, because nothing in a quoted name stands there.
-/

namespace Crosstab

/-! ## The last tail -/

theorem splitLast_some {α : Type} {p : List α → Bool} {as before tail : List α}
    (h : splitLast p as = some (before, tail)) : as = before ++ tail ∧ p tail = true := by
  induction as generalizing before with
  | nil => cases h
  | cons a as ih =>
      rw [splitLast] at h
      split at h
      · rename_i before' tail' hlast
        cases h
        obtain ⟨hsplit, htail⟩ := ih hlast
        exact ⟨congrArg (a :: ·) hsplit, htail⟩
      · split at h
        · rename_i hp
          cases h
          exact ⟨rfl, hp⟩
        · cases h

theorem splitLast_append {α : Type} {p : List α → Bool} {bs before tail : List α}
    (h : splitLast p bs = some (before, tail)) (as : List α) :
    splitLast p (as ++ bs) = some (as ++ before, tail) := by
  induction as with
  | nil => exact h
  | cons a as ih => rw [List.cons_append, splitLast, ih, List.cons_append]

theorem splitLast_none {α : Type} {p : List α → Bool} {as : List α} (h : splitLast p as = none)
    {t : List α} (ht : t <:+ as) (hne : t ≠ []) : p t = false := by
  induction as with
  | nil => exact absurd (List.suffix_nil.mp ht) hne
  | cons a as ih =>
      rw [splitLast] at h
      split at h
      · cases h
      · rename_i hlast
        split at h
        · cases h
        · rename_i hp
          rcases List.suffix_cons_iff.mp ht with rfl | hsuffix
          · exact Bool.eq_false_iff.mpr hp
          · exact ih hlast hsuffix

/-- No shorter tail would have done. -/
theorem splitLast_shortest {α : Type} {p : List α → Bool} {as before tail : List α}
    (h : splitLast p as = some (before, tail)) {t : List α} (ht : t <:+ as) (hne : t ≠ [])
    (hp : p t = true) : tail.length ≤ t.length := by
  induction as generalizing before with
  | nil => cases h
  | cons a as ih =>
      rw [splitLast] at h
      split at h
      · rename_i before' tail' hlast
        cases h
        rcases List.suffix_cons_iff.mp ht with rfl | hsuffix
        · have hsplit := congrArg List.length (splitLast_some hlast).1
          rw [List.length_append] at hsplit
          rw [List.length_cons]
          omega
        · exact ih hlast hsuffix
      · rename_i hlast
        split at h
        · cases h
          rcases List.suffix_cons_iff.mp ht with rfl | hsuffix
          · exact le_refl _
          · rw [splitLast_none hlast hsuffix hne] at hp
            cases hp
        · cases h

theorem splitLast_cons_none {α : Type} {p : List α → Bool} {a : α} {as : List α}
    (h : splitLast p as = none) : splitLast p (a :: as) =
      if p (a :: as) then some ([], a :: as) else none := by
  rw [splitLast, h]

/-! ## Marks -/

theorem Cursor.atTop_of_isTop {k : Cursor} {c : Char} (h : k.isTop c = true) : k.atTop = true := by
  simp only [Cursor.isTop, Bool.and_eq_true, beq_iff_eq] at h
  obtain ⟨⟨⟨⟨hreads, hdepth⟩, -⟩, -⟩, -⟩ := h
  refine Cursor.atTop_iff.mpr ⟨hdepth, ?_⟩
  obtain ⟨d, mode⟩ := k
  cases mode with
  | plain => exact Or.inl rfl
  | quoted q => cases hreads
  | ended q => exact Or.inr ⟨q, rfl⟩

/-- At the top level an inert character leaves no memory of what came before it. -/
theorem Cursor.step_inert_of_atTop {k : Cursor} {c : Char} (hk : k.Legal) (htop : k.atTop = true)
    (hc : isInert c = true) : k.step c = Cursor.start := by
  obtain ⟨hdepth, hm⟩ := Cursor.atTop_iff.mp htop
  rcases Cursor.step_inert hk hc with ⟨q, hquoted, -⟩ | ⟨-, hs⟩
  · rcases hm with hm | ⟨q', hm⟩ <;> simp [hm] at hquoted
  · rw [hs, hdepth]
    rfl

/-- At the top level an inert character is marked, and what follows it is read afresh. -/
theorem Cursor.marks_inert {k : Cursor} {c : Char} (hk : k.Legal) (htop : k.atTop = true)
    (hc : isInert c = true) (cs : List Char) :
    k.marks (c :: cs) = (c, true) :: Crosstab.marks cs := by
  obtain ⟨ho, hq, h6, h7⟩ := isInert.elim hc
  obtain ⟨hdepth, hm⟩ := Cursor.atTop_iff.mp htop
  have hreads : k.reads c = true := by
    obtain ⟨d, mode⟩ := k
    obtain rfl | ⟨q, rfl⟩ := hm
    · rfl
    · refine bne_iff_ne.mpr ?_
      rintro rfl
      exact Bool.false_ne_true (hq.symm.trans hk)
  have hmark : k.isTop c = true := by simp [Cursor.isTop, hreads, hdepth, ho, h6, h7]
  rw [Cursor.marks, hmark, Cursor.step_inert_of_atTop hk htop hc, Crosstab.marks]

theorem marks_inert_append {before : List Char} (hb : ∀ c ∈ before, isInert c = true)
    (cs : List Char) : marks (before ++ cs) = before.map (·, true) ++ marks cs := by
  induction before with
  | nil => rfl
  | cons c before ih =>
      obtain ⟨hc, hbefore⟩ := List.forall_mem_cons.mp hb
      rw [List.cons_append, marks, Cursor.marks_inert Cursor.legal_start rfl hc, ih hbefore]
      rfl

theorem marks_blanks_append {blanks : List Char} (hb : ∀ c ∈ blanks, isBlank c = true)
    (cs : List Char) : marks (blanks ++ cs) = blanks.map (·, true) ++ marks cs :=
  marks_inert_append (fun c hc => isInert_of_isBlank (hb c hc)) cs

/-- All of a quoted run stands below the top level, whatever it holds. -/
theorem marks_quoteWith {o q : Char} (h : closer? o = some q) (body : List Char) :
    marks (quoteWith o q body) = (quoteWith o q body).map (·, false) :=
  (Cursor.quoted_run (p := (· == q)) h (beq_self_eq_true q) 0 body).2.2

/-- Behind a quoted run an inert character is at the top level again. -/
theorem marks_quoteWith_append {o q : Char} (h : closer? o = some q) (body : List Char) {c : Char}
    (hc : isInert c = true) (cs : List Char) : marks (quoteWith o q body ++ c :: cs) =
      (quoteWith o q body).map (·, false) ++ (c, true) :: marks cs := by
  have hrun : Cursor.start.run (quoteWith o q body) = ⟨0, .ended q⟩ :=
    (Cursor.quoted_run (p := (· == q)) h (beq_self_eq_true q) 0 body).2.1
  have hlegal : (Cursor.start.run (quoteWith o q body)).Legal := Cursor.legal_start.run _
  rw [marks, Cursor.marks_append, Cursor.marks_inert hlegal (by rw [hrun]; rfl) hc, ← marks,
    marks_quoteWith h]

theorem marks_quoteIdent (db : Database) (name : String) :
    marks (db.quoteIdent name).toList = (db.quoteIdent name).toList.map (·, false) := by
  rw [Database.quoteIdent, String.toList_ofList]
  exact marks_quoteWith db.identQuotes_closer?.1 _

/-- The keyword ahead of an alias, in any letter case. -/
def IsAsWord (word : List Char) : Prop :=
  ∃ a s, word = [a, s] ∧ (a = 'a' ∨ a = 'A') ∧ (s = 's' ∨ s = 'S')

theorem startsAs_iff {tail : List (Char × Bool)} :
    startsAs tail = true ↔ ∃ b word b' m rest, tail = (b, true) :: (word.map (·, true) ++
      (b', m) :: rest) ∧ isBlank b = true ∧ IsAsWord word ∧ isBlank b' = true := by
  constructor
  · intro h
    unfold startsAs at h
    split at h
    · rename_i b a s b' m rest
      simp only [Bool.and_eq_true, Bool.or_eq_true, beq_iff_eq] at h
      obtain ⟨⟨⟨hb, ha⟩, hs⟩, hb'⟩ := h
      exact ⟨b, [a, s], b', m, rest, rfl, hb, ⟨a, s, rfl, ha, hs⟩, hb'⟩
    · cases h
  · rintro ⟨b, _, b', m, rest, rfl, hb, ⟨a, s, rfl, ha, hs⟩, hb'⟩
    simp [startsAs, hb, ha, hs, hb']

theorem startsAs_of_not_blank {c : Char} {m : Bool} {rest : List (Char × Bool)}
    (hc : isBlank c = false) : ¬ startsAs ((c, m) :: rest) = true := by
  intro h
  obtain ⟨b, word, b', m', rest', heq, hb, -⟩ := startsAs_iff.mp h
  cases heq
  rw [hc] at hb
  cases hb

/-- A keyword with none behind it is the last one. -/
theorem splitLast_startsAs_keyword {b a s : Char} {ms : List (Char × Bool)}
    (ha : isBlank a = false) (hs : isBlank s = false) (hnone : splitLast startsAs ms = none)
    (hstarts : startsAs ((b, true) :: (a, true) :: (s, true) :: ms) = true) :
    splitLast startsAs ((b, true) :: (a, true) :: (s, true) :: ms) =
      some ([], (b, true) :: (a, true) :: (s, true) :: ms) := by
  have hsnone := (splitLast_cons_none hnone).trans (if_neg (startsAs_of_not_blank (m := true) hs))
  have hanone := (splitLast_cons_none hsnone).trans (if_neg (startsAs_of_not_blank (m := true) ha))
  rw [splitLast_cons_none hanone, if_pos hstarts]

/-- Nothing that stands below the top level begins an `AS`. -/
theorem splitLast_startsAs_below (cs : List Char) :
    splitLast startsAs (cs.map (·, false)) = none := by
  induction cs with
  | nil => rfl
  | cons c cs ih => rw [List.map_cons, splitLast_cons_none ih]; rfl

/-! ## What is left of a fragment -/

/-- The alias is split off at a keyword between blanks, ahead of which a reader is at the top
level. -/
theorem splitLast_marks {cs : List Char} {before tail : List (Char × Bool)}
    (h : splitLast startsAs (marks cs) = some (before, tail)) :
    (Cursor.start.run (before.map Prod.fst)).atTop = true ∧
    ∃ b word b' rest, tail.map Prod.fst = b :: (word ++ b' :: rest) ∧
      cs = before.map Prod.fst ++ b :: (word ++ b' :: rest) ∧
      isBlank b = true ∧ IsAsWord word ∧ isBlank b' = true := by
  obtain ⟨hsplit, htail⟩ := splitLast_some h
  obtain ⟨b, word, b', m, rest, rfl, hb, hword, hb'⟩ := startsAs_iff.mp htail
  have hcs : cs = before.map Prod.fst ++ b :: (word ++ b' :: rest.map Prod.fst) := by
    simpa [marks, Function.comp_def] using congrArg (List.map Prod.fst) hsplit
  refine ⟨Cursor.atTop_of_isTop (c := b) ?_, b, word, b', rest.map Prod.fst, ?_, hcs, hb, hword,
    hb'⟩
  · -- The blank is marked as in the whole text.
    have hlen : (Cursor.start.marks (before.map Prod.fst)).length = before.length := by
      rw [Cursor.length_marks, List.length_map]
    rw [marks, hcs, Cursor.marks_append] at hsplit
    exact congrArg Prod.snd (List.cons.inj (List.append_inj_right hsplit hlen)).1
  · simp [Function.comp_def]

/-- What is tidied off a fragment does not matter to its alias. -/
theorem splitAlias_congr {as bs : List Char} (h : tidy as = tidy bs) :
    splitAlias as = splitAlias bs := by
  rw [splitAlias, h, splitAlias]

/-- What is split off is what follows the `AS`, unquoted, unless nothing does. -/
theorem splitAlias_of_split {cs : List Char} {before tail : List (Char × Bool)}
    (h : splitLast startsAs (marks (tidy cs)) = some (before, tail))
    (hname : trim ((tail.map Prod.fst).drop 3) ≠ []) :
    splitAlias cs = (trimEnd (before.map Prod.fst),
      some (unquote (trim ((tail.map Prod.fst).drop 3)))) := by
  obtain ⟨c, name, hcons⟩ := List.exists_cons_of_ne_nil hname
  simp [splitAlias, h, hcons]

/-- Either the fragment has no alias and is only tidied, or its expression is what stands before the
blank ahead of the last `AS`. -/
theorem splitAlias_cases (cs : List Char) :
    splitAlias cs = (tidy cs, none) ∨
      ∃ before b rest name, tidy cs = before ++ b :: rest ∧ isBlank b = true ∧
        (isClosed cs = true → isClosed before = true) ∧
        splitAlias cs = (trimEnd before, some name) := by
  cases hsplit : splitLast startsAs (marks (tidy cs)) with
  | none => exact Or.inl (by rw [splitAlias, hsplit])
  | some found =>
      obtain ⟨before, tail⟩ := found
      obtain ⟨htop, b, word, b', rest, -, hcs, hb, -⟩ := splitLast_marks hsplit
      by_cases hname : trim ((tail.map Prod.fst).drop 3) = []
      · exact Or.inl (by simp [splitAlias, hsplit, hname])
      · refine Or.inr ⟨before.map Prod.fst, b, _, _, hcs, hb, fun hclosed => ?_,
          splitAlias_of_split hsplit hname⟩
        have hkeeps := (isClosed_iff.mp (isClosed_tidy hclosed)).1
        rw [hcs, Cursor.keeps_append, Bool.and_eq_true] at hkeeps
        exact isClosed_iff.mpr ⟨hkeeps.1, htop⟩

/-- Where no blank stands at the top level there is no alias. -/
theorem splitAlias_of_unbroken {cs : List Char}
    (h : ∀ c, (c, true) ∈ marks (tidy cs) → isBlank c = false) :
    splitAlias cs = (tidy cs, none) := by
  cases hsplit : splitLast startsAs (marks (tidy cs)) with
  | none => rw [splitAlias, hsplit]
  | some found =>
      obtain ⟨hmarks, htail⟩ := splitLast_some hsplit
      obtain ⟨b, word, b', m, rest, heq, hb, -⟩ := startsAs_iff.mp htail
      have hmem : (b, true) ∈ marks (tidy cs) := by
        rw [hmarks, heq]
        exact List.mem_append_right _ (List.mem_cons_self ..)
      rw [h b hmem] at hb
      cases hb

theorem isClosed_splitAlias {cs : List Char} (h : isClosed cs = true) :
    isClosed (splitAlias cs).1 = true := by
  rcases splitAlias_cases cs with heq | ⟨before, b, rest, name, -, -, hclosed, heq⟩
  · rw [heq]
    exact isClosed_tidy h
  · rw [heq]
    exact isClosed_trimEnd (hclosed h)

theorem trimmed_splitAlias (cs : List Char) : Trimmed (splitAlias cs).1 := by
  rcases splitAlias_cases cs with heq | ⟨before, b, rest, name, hcs, -, -, heq⟩
  · rw [heq]
    exact trimmed_tidy cs
  · rw [heq]
    exact trimmed_trimEnd ⟨b :: rest, hcs.symm⟩ (trimmed_tidy cs).1

/-- What stands ahead of a blank in a trimmed text is more than blanks. -/
theorem trimEnd_ne_nil {body before rest : List Char} {b : Char} (hbody : Trimmed body)
    (h : body = before ++ b :: rest) (hb : isBlank b = true) : trimEnd before ≠ [] := by
  subst h
  cases before with
  | nil =>
      rw [hbody.1 b rfl] at hb
      cases hb
  | cons c before =>
      intro hnil
      rw [trimEnd, dropTailWhile_eq_rdropWhile, List.rdropWhile_eq_nil_iff] at hnil
      have hc := hnil c (List.mem_cons_self ..)
      rw [hbody.1 c rfl] at hc
      cases hc

/-- A fragment that names its column has an expression. -/
theorem splitAlias_ne_nil {cs name : List Char} (h : runtimeName cs = some name) :
    (splitAlias cs).1 ≠ [] := by
  rcases splitAlias_cases cs with heq | ⟨before, b, rest, name', hcs, hb, -, heq⟩
  · rw [heq]
    intro hnil
    rw [runtimeName, heq, show tidy cs = [] from hnil] at h
    cases h
  · rw [heq]
    exact trimEnd_ne_nil (trimmed_tidy cs) hcs hb

/-! ## Pasting under a name -/

/-- Behind the `AS` there is no other: the blanks are followed by no `A`, and the quoted name holds
nothing at the top level. -/
theorem splitLast_startsAs_name {blanks : List Char} (hb : ∀ c ∈ blanks, isBlank c = true)
    (db : Database) (name : String) :
    splitLast startsAs (marks (blanks ++ (db.quoteIdent name).toList)) = none := by
  rw [marks_blanks_append hb, marks_quoteIdent]
  induction blanks with
  | nil => exact splitLast_startsAs_below _
  | cons c blanks ih =>
      have hrest := ih fun x hx => hb x (List.mem_cons_of_mem _ hx)
      rw [List.map_cons, List.cons_append, splitLast_cons_none hrest, if_neg]
      cases blanks with
      | nil =>
          rw [db.toList_quoteIdent]
          exact Bool.false_ne_true
      | cons d blanks =>
          have hd : isBlank d = true := hb d (by simp)
          have ha : d ≠ 'a' ∧ d ≠ 'A' := by
            constructor <;> rintro rfl <;> cases hd
          unfold startsAs
          split
          · rename_i heq
            simp only [List.map_cons, List.cons_append, List.cons.injEq, Prod.mk.injEq] at heq
            obtain ⟨-, ⟨rfl, -⟩, -⟩ := heq
            simp [ha]
          · exact Bool.false_ne_true

/-- The end of a fragment that is pasted under a quoted name, read at the top level. -/
theorem splitLast_startsAs_as {blanks : List Char} (hblanks : ∀ c ∈ blanks, isBlank c = true)
    (hne : blanks ≠ []) {b a s : Char} (hb : isBlank b = true) (ha : a = 'a' ∨ a = 'A')
    (hs : s = 's' ∨ s = 'S') (db : Database) (name : String) :
    splitLast startsAs ((b, true) :: (a, true) :: (s, true) ::
        marks (blanks ++ (db.quoteIdent name).toList)) =
      some ([], (b, true) :: (a, true) :: (s, true) ::
        marks (blanks ++ (db.quoteIdent name).toList)) := by
  have hs' : isBlank s = false := by rcases hs with rfl | rfl <;> rfl
  have ha' : isBlank a = false := by rcases ha with rfl | rfl <;> rfl
  have hname := splitLast_startsAs_name hblanks db name
  have hstarts : startsAs ((b, true) :: (a, true) :: (s, true) ::
      marks (blanks ++ (db.quoteIdent name).toList)) = true := by
    obtain ⟨c, more, rfl⟩ := List.exists_cons_of_ne_nil hne
    have hc : isBlank c = true := hblanks c (List.mem_cons_self ..)
    rw [marks_blanks_append hblanks]
    rcases ha with rfl | rfl <;> rcases hs with rfl | rfl <;> simp [startsAs, hb, hc]
  exact splitLast_startsAs_keyword ha' hs' hname hstarts

section
variable {e before blanks : List Char} {b a s : Char}
variable (he : isClosed e = true) (hne : e ≠ []) (ht : Trimmed e)
variable (hbefore : ∀ c ∈ before, isBlank c = true) (hb : isBlank b = true)
variable (ha : a = 'a' ∨ a = 'A') (hs : s = 's' ∨ s = 'S')
variable (db : Database) (name : String)

include hne ht in
theorem trimmed_as :
    Trimmed (e ++ before ++ b :: a :: s :: (blanks ++ (db.quoteIdent name).toList)) ∧
      (e ++ before ++ b :: a :: s :: (blanks ++ (db.quoteIdent name).toList)).getLast? ≠
        some ',' := by
  refine db.trimmed_of_closing ?_ ?_
  · obtain ⟨c, more, rfl⟩ := List.exists_cons_of_ne_nil hne
    exact ht.1
  · rw [db.toList_quoteIdent, ← List.append_assoc blanks, ← List.cons_append, ← List.cons_append,
      ← List.cons_append, ← List.append_assoc, List.getLast?_concat]

include hne ht in
theorem tidy_as :
    tidy (e ++ before ++ b :: a :: s :: (blanks ++ (db.quoteIdent name).toList)) =
      e ++ before ++ b :: a :: s :: (blanks ++ (db.quoteIdent name).toList) := by
  obtain ⟨htrimmed, hcomma⟩ := trimmed_as hne ht db name
  exact tidy_eq_self htrimmed hcomma

include he hbefore hb ha hs in
theorem marks_as :
    marks (e ++ before ++ b :: a :: s :: (blanks ++ (db.quoteIdent name).toList)) =
      marks (e ++ before) ++ (b, true) :: (a, true) :: (s, true) ::
        marks (blanks ++ (db.quoteIdent name).toList) := by
  have hclosed : isClosed (e ++ before) = true := by
    rw [isClosed_append_inert fun c hc => isInert_of_isBlank (hbefore c hc), he]
  have ha' : isInert a = true := by rcases ha with rfl | rfl <;> rfl
  have hs' : isInert s = true := by rcases hs with rfl | rfl <;> rfl
  rw [marks, Cursor.marks_append, Cursor.marks_inert (Cursor.legal_start.run _)
    (isClosed_iff.mp hclosed).2 (isInert_of_isBlank hb), marks,
    Cursor.marks_inert Cursor.legal_start rfl ha', marks,
    Cursor.marks_inert Cursor.legal_start rfl hs']
  rfl

include he hne ht hbefore hb ha hs in
/-- A closed expression under a quoted name splits into the two again: the blanks around `AS`, its
letter case and the characters of the name do not matter. -/
theorem splitAlias_as (hblanks : ∀ c ∈ blanks, isBlank c = true) (hblanksne : blanks ≠ []) :
    splitAlias (e ++ before ++ b :: a :: s :: (blanks ++ (db.quoteIdent name).toList)) =
      (e, some name.toList) := by
  have hsplit := splitLast_append
    (splitLast_startsAs_as hblanks hblanksne hb ha hs db name) (marks (e ++ before))
  have hname : trim (blanks ++ (db.quoteIdent name).toList) = (db.quoteIdent name).toList :=
    trim_blanks_append (db.trimmed_quoteIdent name) hblanks
  have hdrop : trim (((((b, true) :: (a, true) :: (s, true) ::
      marks (blanks ++ (db.quoteIdent name).toList)).map Prod.fst).drop 3)) =
        (db.quoteIdent name).toList := by
    simpa [marks] using hname
  have hquoted : (db.quoteIdent name).toList ≠ [] := by
    rw [db.toList_quoteIdent]
    exact List.cons_ne_nil _ _
  rw [← marks_as he hbefore hb ha hs, ← tidy_as hne ht] at hsplit
  rw [splitAlias_of_split hsplit (by rwa [hdrop]), hdrop, db.unquote_quoteIdent]
  simp [marks, trimEnd_append_blanks ht hbefore]

end

end Crosstab
