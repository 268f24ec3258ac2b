import Crosstab.Dialect.Quoting
import Crosstab.Proofs.Trimming

/-!
# Quoted text

What is written between quotes can be read back, and a reader of a statement passes over it without
learning anything: every quoted run leaves the depth as it was and has nothing at the top level.
Both hold of every text inside the quotes, which is what makes names and literals safe to paste.
-/

namespace Crosstab

/-! ## Doubling -/

theorem double_cons_pos {p : Char → Bool} {c : Char} (h : p c = true) (cs : List Char) :
    double p (c :: cs) = c :: c :: double p cs := by
  simp [double, h]

theorem double_cons_neg {p : Char → Bool} {c : Char} (h : p c = false) (cs : List Char) :
    double p (c :: cs) = c :: double p cs := by
  simp [double, h]

theorem undouble_cons_of_ne {q c : Char} (h : c ≠ q) (cs : List Char) :
    undouble q (c :: cs) = c :: undouble q cs := by
  cases cs with
  | nil => rfl
  | cons d r => rw [undouble, if_neg (fun hcd => h hcd.1)]

theorem undouble_double (q : Char) (cs : List Char) : undouble q (double (· == q) cs) = cs := by
  induction cs with
  | nil => rfl
  | cons c cs ih =>
      by_cases h : c = q
      · subst h
        rw [double_cons_pos (p := (· == c)) (beq_self_eq_true c), undouble, if_pos ⟨rfl, rfl⟩, ih]
      · rw [double_cons_neg (p := (· == q)) (beq_eq_false_iff_ne.mpr h),
          undouble_cons_of_ne h, ih]

/-! ## Reading over a quoted run -/

namespace Cursor

/-- Inside a run in which the closer is doubled, a reader stays inside. -/
theorem quoted_double {p : Char → Bool} {q : Char} (hq : p q = true) (d : Nat) (cs : List Char) :
    keeps ⟨d, .quoted q⟩ (double p cs) = true ∧
      run ⟨d, .quoted q⟩ (double p cs) = ⟨d, .quoted q⟩ ∧
      marks ⟨d, .quoted q⟩ (double p cs) = (double p cs).map (·, false) := by
  induction cs with
  | nil => exact ⟨rfl, rfl, rfl⟩
  | cons c cs ih =>
      obtain ⟨hk, hr, hm⟩ := ih
      by_cases hc : c = q
      · -- The first closer seems to end the run and the second takes it up again.
        subst hc
        rw [double_cons_pos hq]
        simp [keeps, marks, reads, step, isTop, hk, hr, hm]
      · have hin : step ⟨d, .quoted q⟩ c = ⟨d, .quoted q⟩ := if_neg hc
        cases hp : p c with
        | true =>
            rw [double_cons_pos hp]
            simp [keeps, marks, reads, hin, isTop, hk, hr, hm]
        | false =>
            rw [double_cons_neg hp]
            simp [keeps, marks, reads, hin, isTop, hk, hr, hm]

/-- A quoted run keeps the depth, and nothing in it stands at the top level. -/
theorem quoted_run {p : Char → Bool} {o q : Char} (ho : closer? o = some q) (hq : p q = true)
    (d : Nat) (cs : List Char) :
    keeps ⟨d, .plain⟩ (o :: double p cs ++ [q]) = true ∧
      run ⟨d, .plain⟩ (o :: double p cs ++ [q]) = ⟨d, .ended q⟩ ∧
      marks ⟨d, .plain⟩ (o :: double p cs ++ [q]) =
        (o :: double p cs ++ [q]).map (·, false) := by
  have hopen : step ⟨d, .plain⟩ o = ⟨d, .quoted q⟩ := by simp [step, readPlain, ho]
  have hne : (o == ')') = false := by
    rw [beq_eq_false_iff_ne]
    rintro rfl
    cases ho
  obtain ⟨hk, hr, hm⟩ := quoted_double hq d cs
  refine ⟨?_, ?_, ?_⟩
  · simp [keeps, keeps_append, hopen, hne, hk, hr, reads]
  · rw [List.cons_append, run_cons, hopen, run_append, hr]
    exact if_pos rfl
  · simp [marks, marks_append, hopen, hm, hr, isTop, reads, ho]

end Cursor

theorem isClosed_quoted {p : Char → Bool} {o q : Char} (ho : closer? o = some q) (hq : p q = true)
    (cs : List Char) : isClosed (o :: double p cs ++ [q]) = true := by
  obtain ⟨hk, hr, -⟩ := Cursor.quoted_run ho hq 0 cs
  refine isClosed_iff.mpr ⟨hk, ?_⟩
  show (Cursor.run ⟨0, .plain⟩ _).atTop = true
  rw [hr]
  rfl

/-! ## Quoted names -/

namespace Database

theorem identQuotes_closer? (db : Database) :
    closer? db.identQuotes.1 = some db.identQuotes.2 ∧
      identCloser? db.identQuotes.1 = some db.identQuotes.2 := by
  cases db <;> exact ⟨rfl, rfl⟩

theorem identQuotes_not_blank (db : Database) :
    isBlank db.identQuotes.1 = false ∧ isBlank db.identQuotes.2 = false := by
  cases db <;> exact ⟨rfl, rfl⟩

theorem toList_quoteIdent (db : Database) (name : String) :
    (db.quoteIdent name).toList =
      db.identQuotes.1 :: double (· == db.identQuotes.2) name.toList ++ [db.identQuotes.2] := by
  rw [quoteIdent, String.toList_ofList, quoteWith]

theorem closed_quoteIdent (db : Database) (name : String) : Closed (db.quoteIdent name) := by
  rw [Closed, toList_quoteIdent]
  exact isClosed_quoted (p := (· == _)) db.identQuotes_closer?.1 (beq_self_eq_true _) _

theorem trimmed_quoteIdent (db : Database) (name : String) :
    Trimmed (db.quoteIdent name).toList := by
  rw [toList_quoteIdent]
  constructor
  · rintro c hc
    cases hc
    exact db.identQuotes_not_blank.1
  · intro c hc
    rw [List.getLast?_concat, Option.some.injEq] at hc
    exact hc ▸ db.identQuotes_not_blank.2

/-- A fragment that ends in a quoted name has nothing behind it that could be tidied off. -/
theorem trimmed_of_closing (db : Database) {cs : List Char}
    (hhead : ∀ c, cs.head? = some c → isBlank c = false)
    (hlast : cs.getLast? = some db.identQuotes.2) : Trimmed cs ∧ cs.getLast? ≠ some ',' := by
  refine ⟨⟨hhead, fun c hc => ?_⟩, ?_⟩
  · rw [hlast, Option.some.injEq] at hc
    exact hc ▸ db.identQuotes_not_blank.2
  · rw [hlast]
    cases db <;> decide

/-- A quoted name is read back whole, whatever the name. -/
theorem unquote_quoteIdent (db : Database) (name : String) :
    unquote (db.quoteIdent name).toList = name.toList := by
  rw [unquote, (db.trimmed_quoteIdent name).trim, toList_quoteIdent, List.cons_append]
  simp [db.identQuotes_closer?.2, undouble_double]

/-! ## String literals -/

theorem closed_quoteLiteral (db : Database) (text : String) : Closed (db.quoteLiteral text) := by
  have hlist : (db.quoteLiteral text).toList =
      '\'' :: double db.doublesInLiteral text.toList ++ ['\''] := by
    simp [quoteLiteral, escapeLiteral]
  rw [Closed, hlist]
  exact isClosed_quoted rfl rfl _

theorem readLiteralBody_doubled (db : Database) (rest : List Char) :
    db.readLiteralBody ('\'' :: '\'' :: rest) =
      (db.readLiteralBody rest).map fun r => ('\'' :: r.1, r.2) := by
  rw [readLiteralBody]

theorem readLiteralBody_end (db : Database) {rest : List Char} (h : rest.head? ≠ some '\'') :
    db.readLiteralBody ('\'' :: rest) = some ([], rest) := by
  rw [readLiteralBody]
  rintro rest' rfl
  exact h rfl

/-- What a character means that does not end the literal: itself, or, after an escape, the next. -/
theorem readLiteralBody_cons (db : Database) {c d : Char} {rest : List Char} (hc : c ≠ '\'') :
    db.readLiteralBody (c :: d :: rest) =
      if db.hasBackslashEscapes && c == '\\' then
        (db.readLiteralBody rest).map fun r => (d :: r.1, r.2)
      else (db.readLiteralBody (d :: rest)).map fun r => (c :: r.1, r.2) := by
  rw [readLiteralBody]
  · exact fun hquote _ => hc hquote
  · exact hc

/-- The body of a literal is read up to the quote that was written to end it, and stands for what
was written into it: escapes double each character that the reader does not take as it is. -/
theorem readLiteralBody_double (db : Database) (text : List Char) {rest : List Char}
    (h : rest.head? ≠ some '\'') :
    db.readLiteralBody (double db.doublesInLiteral text ++ '\'' :: rest) = some (text, rest) := by
  induction text with
  | nil => exact readLiteralBody_end db h
  | cons c text ih =>
      by_cases hc : c = '\''
      · subst hc
        rw [double_cons_pos (by rfl), List.cons_append, List.cons_append,
          readLiteralBody_doubled, ih]
        rfl
      · cases hb : db.hasBackslashEscapes && c == '\\' with
        | true =>
            have hd : db.doublesInLiteral c = true := by simp [doublesInLiteral, hb]
            rw [double_cons_pos hd, List.cons_append, List.cons_append, readLiteralBody_cons db hc,
              if_pos hb, ih]
            rfl
        | false =>
            have hd : db.doublesInLiteral c = false := by simp [doublesInLiteral, hb, hc]
            rw [double_cons_neg hd, List.cons_append]
            -- The closing quote is still to come, so some character follows.
            obtain ⟨d, more, hmore⟩ :=
              List.exists_cons_of_ne_nil (l := double db.doublesInLiteral text ++ '\'' :: rest)
                (by simp)
            rw [hmore, readLiteralBody_cons db hc, hb, ← hmore, ih]
            rfl

theorem readLiteral_quoteLiteral (db : Database) (text : String) {rest : List Char}
    (h : rest.head? ≠ some '\'') :
    db.readLiteral ((db.quoteLiteral text).toList ++ rest) = some (text.toList, rest) := by
  have hlist : (db.quoteLiteral text).toList ++ rest =
      '\'' :: (double db.doublesInLiteral text.toList ++ '\'' :: rest) := by
    simp [quoteLiteral, escapeLiteral]
  rw [hlist, readLiteral, readLiteralBody_double db text.toList h]

end Database

end Crosstab
