import Crosstab.Proofs.Quoting

/-!
# The columns that a text reads

A statement over a date axis reads a column of the dataset as `dataset.` and a quoted name.
`columnsRead` finds these again in any text, with the names that they stand for, and takes no
`dataset.` inside of quotes for one. Pasted texts are read piece by piece:

- what is written around the names is *silent*, and passed over (`columnsRead_own`);
- a quoted run that nothing qualifies is passed over, whatever it holds (`columnsRead_quoted`);
- a column gives back its name, whatever the name is (`columnsRead_column`).

A piece in quotes must not go on with a closer, which would continue the quotes: what follows it has
to be `Detached`.
-/

namespace Crosstab

/-! ## Reading a quoted name -/

/-- The body of a quoted name up to the closer that is not doubled. -/
def readName (closer : Char) : List Char → Option (List Char)
  | [] => none
  | [c] => if c = closer then some [] else none
  | c :: d :: rest =>
    if c = closer then
      if d = closer then (readName closer rest).map (closer :: ·) else some []
    else (readName closer (d :: rest)).map (c :: ·)

theorem readName_end {q : Char} {rest : List Char} (h : rest.head? ≠ some q) :
    readName q (q :: rest) = some [] := by
  cases rest with
  | nil => exact if_pos rfl
  | cons d rest =>
      have hd : d ≠ q := fun hd => h (congrArg some hd)
      rw [readName, if_pos rfl, if_neg hd]

theorem readName_cons_of_ne {q c : Char} (h : c ≠ q) (cs : List Char) :
    readName q (c :: cs) = (readName q cs).map (c :: ·) := by
  cases cs with
  | nil => exact if_neg h
  | cons d rest => rw [readName, if_neg h]

/-- A name is read up to the quote that was written to end it. -/
theorem readName_double (q : Char) (name : List Char) {rest : List Char}
    (h : rest.head? ≠ some q) : readName q (double (· == q) name ++ q :: rest) = some name := by
  induction name with
  | nil => exact readName_end h
  | cons c name ih =>
      by_cases hc : c = q
      · subst hc
        rw [double_cons_pos (p := (· == c)) (beq_self_eq_true c), List.cons_append,
          List.cons_append, readName, if_pos rfl, if_pos rfl, ih]
        rfl
      · rw [double_cons_neg (p := (· == q)) (beq_eq_false_iff_ne.mpr hc), List.cons_append,
          readName_cons_of_ne hc, ih]
        rfl

/-- The name that a text begins with, if it begins with a quoted one. -/
def Database.nameAhead? (db : Database) : List Char → Option String
  | [] => none
  | c :: cs =>
    if c = db.identQuotes.1 then (readName db.identQuotes.2 cs).map String.ofList else none

theorem Database.nameAhead?_quoteIdent (db : Database) (name : String) {rest : List Char}
    (h : rest.head? ≠ some db.identQuotes.2) :
    db.nameAhead? ((db.quoteIdent name).toList ++ rest) = some name := by
  rw [toList_quoteIdent, List.append_assoc, List.cons_append, nameAhead?, if_pos rfl,
    List.singleton_append, readName_double _ _ h]
  exact congrArg some String.ofList_toList

/-! ## Reading columns -/

/-- What stands before the name of a column of the dataset. -/
def qualifier : List Char := ['d', 'a', 't', 'a', 's', 'e', 't', '.']

/-- The columns of the dataset that a text reads: for each `dataset.` outside of quoted runs the
name in quotes behind it, or nothing where no such name follows. -/
def Database.columnsRead (db : Database) (k : Cursor) : List Char → List (Option String)
  | [] => []
  | c :: cs =>
    if k.reads c && qualifier.isPrefixOf (c :: cs) then
      db.nameAhead? ((c :: cs).drop qualifier.length) :: db.columnsRead (k.step c) cs
    else db.columnsRead (k.step c) cs

/-- Whether a text begins with `dataset.`, or would if it went on. -/
def mayQualify (cs : List Char) : Bool := qualifier.isPrefixOf cs || cs.isPrefixOf qualifier

theorem mayQualify_of_qualified (as : List Char) {bs : List Char}
    (h : qualifier.isPrefixOf (as ++ bs) = true) : mayQualify as = true := by
  simp only [mayQualify, Bool.or_eq_true, List.isPrefixOf_iff_prefix] at h ⊢
  exact List.prefix_or_prefix_of_prefix h (List.prefix_append as bs)

theorem mayQualify_cons_of_ne {c : Char} (h : c ≠ 'd') (cs : List Char) :
    mayQualify (c :: cs) = false := by
  have hne : ('d' == c) = false ∧ (c == 'd') = false := by simpa using ⟨h.symm, h⟩
  simp [mayQualify, qualifier, List.isPrefixOf, hne]

namespace Cursor

/-- Whether no column of the dataset begins in a text, whatever follows the text. -/
def silent (k : Cursor) : List Char → Bool
  | [] => true
  | c :: cs => !(k.reads c && mayQualify (c :: cs)) && silent (k.step c) cs

theorem silent_double {p : Char → Bool} {q : Char} (hq : p q = true) (d : Nat)
    (cs rest : List Char) :
    silent ⟨d, .quoted q⟩ (double p cs ++ rest) = silent ⟨d, .quoted q⟩ rest := by
  induction cs with
  | nil => rfl
  | cons c cs ih =>
      by_cases hc : c = q
      · subst hc
        rw [double_cons_pos hq, ← ih]
        simp [silent, reads, step]
      · have hin : step ⟨d, .quoted q⟩ c = ⟨d, .quoted q⟩ := if_neg hc
        cases hp : p c with
        | true =>
            rw [double_cons_pos hp, ← ih]
            simp [silent, reads, hin]
        | false =>
            rw [double_cons_neg hp, ← ih]
            simp [silent, reads, hin]

/-- Nothing is read inside of quotes. -/
theorem silent_quoted {p : Char → Bool} {o q : Char} (ho : closer? o = some q) (hq : p q = true)
    (d : Nat) (cs : List Char) : silent ⟨d, .plain⟩ (o :: double p cs ++ [q]) = true := by
  have hopen : step ⟨d, .plain⟩ o = ⟨d, .quoted q⟩ := by simp [step, readPlain, ho]
  have hne : o ≠ 'd' := by
    rintro rfl
    cases ho
  rw [List.cons_append, silent, hopen, mayQualify_cons_of_ne hne, silent_double hq, Bool.and_false]
  simp [silent, reads]

end Cursor

namespace Database

variable (db : Database)

theorem columnsRead_append {k : Cursor} {as : List Char} (h : k.silent as = true)
    (bs : List Char) : db.columnsRead k (as ++ bs) = db.columnsRead (k.run as) bs := by
  induction as generalizing k with
  | nil => rfl
  | cons c as ih =>
      simp only [Cursor.silent, Bool.and_eq_true, Bool.not_eq_true'] at h
      obtain ⟨hc, has⟩ := h
      have hnone : ¬ (k.reads c && qualifier.isPrefixOf (c :: (as ++ bs))) = true := by
        rw [Bool.and_eq_true]
        rintro ⟨hreads, hqualified⟩
        rw [hreads, mayQualify_of_qualified (c :: as) hqualified] at hc
        cases hc
      rw [List.cons_append, columnsRead, if_neg hnone, ih has, Cursor.run_cons]

theorem columnsRead_silent {k : Cursor} {cs : List Char} (h : k.silent cs = true) :
    db.columnsRead k cs = [] := by
  have hrest := db.columnsRead_append h []
  rwa [List.append_nil] at hrest

theorem columnsRead_undotted {cs : List Char} (h : '.' ∉ cs) (k : Cursor) :
    db.columnsRead k cs = [] := by
  induction cs generalizing k with
  | nil => rfl
  | cons c cs ih =>
      have hnone : ¬ (k.reads c && qualifier.isPrefixOf (c :: cs)) = true := by
        rw [Bool.and_eq_true, List.isPrefixOf_iff_prefix]
        rintro ⟨-, hqualified⟩
        exact h (hqualified.subset (by decide))
      rw [columnsRead, if_neg hnone]
      exact ih (fun hdot => h (List.mem_cons_of_mem c hdot)) _

/-- What is written around the names is passed over. -/
theorem columnsRead_own {k l : Cursor} {s : String} (hsilent : k.silent s.toList = true)
    (hrun : k.run s.toList = l) (t : String) :
    db.columnsRead k (s ++ t).toList = db.columnsRead l t.toList := by
  rw [String.toList_append, db.columnsRead_append hsilent, hrun]

/-- Behind a closer a text is read as anywhere, unless it goes on with the closer. -/
theorem columnsRead_ended {d : Nat} {q : Char} {cs : List Char} (h : cs.head? ≠ some q) :
    db.columnsRead ⟨d, .ended q⟩ cs = db.columnsRead ⟨d, .plain⟩ cs := by
  cases cs with
  | nil => rfl
  | cons c cs =>
      have hc : c ≠ q := fun hc => h (congrArg some hc)
      have hreads : Cursor.reads ⟨d, .ended q⟩ c = true := bne_iff_ne.mpr hc
      rw [columnsRead, columnsRead, hreads, Cursor.step_ended_of_ne hc]
      rfl

end Database

/-- A text that does not go on with a closing quote. -/
def Detached (t : String) : Prop := ∀ c, t.toList.head? = some c → isCloser c = false

theorem detached_empty : Detached "" := by
  intro c hc
  cases hc

theorem detached_append {s : String} (h : s.toList.head?.any (!isCloser ·) = true) (t : String) :
    Detached (s ++ t) := by
  intro c hc
  have hfirst := starts_append h t
  rw [hc] at hfirst
  simpa using hfirst

theorem Detached.head?_ne {t : String} (h : Detached t) {o q : Char} (ho : closer? o = some q) :
    t.toList.head? ≠ some q := by
  intro hq
  have hcloser := isCloser_of_closer? ho
  rw [h q hq] at hcloser
  cases hcloser

namespace Database

variable (db : Database) (d : Nat)

section
variable {t : String} (ht : Detached t)
include ht

theorem columnsRead_quoted {p : Char → Bool} {o q : Char} (ho : closer? o = some q)
    (hq : p q = true) {s : String} {cs : List Char} (hs : s.toList = o :: double p cs ++ [q]) :
    db.columnsRead ⟨d, .plain⟩ (s ++ t).toList = db.columnsRead ⟨d, .plain⟩ t.toList := by
  have hsilent : Cursor.silent ⟨d, .plain⟩ s.toList = true := by
    rw [hs]
    exact Cursor.silent_quoted ho hq d cs
  have hrun : Cursor.run ⟨d, .plain⟩ s.toList = ⟨d, .ended q⟩ := by
    rw [hs]
    exact (Cursor.quoted_run ho hq d cs).2.1
  rw [db.columnsRead_own hsilent hrun, db.columnsRead_ended (ht.head?_ne ho)]

theorem columnsRead_quoteLiteral (value : String) :
    db.columnsRead ⟨d, .plain⟩ (db.quoteLiteral value ++ t).toList =
      db.columnsRead ⟨d, .plain⟩ t.toList := by
  have hlist : (db.quoteLiteral value).toList =
      '\'' :: double db.doublesInLiteral value.toList ++ ['\''] := by
    simp [quoteLiteral, escapeLiteral]
  exact db.columnsRead_quoted d ht rfl rfl hlist

theorem columnsRead_quoteIdent (name : String) :
    db.columnsRead ⟨d, .plain⟩ (db.quoteIdent name ++ t).toList =
      db.columnsRead ⟨d, .plain⟩ t.toList :=
  db.columnsRead_quoted d ht (p := (· == _)) db.identQuotes_closer?.1 (beq_self_eq_true _)
    (db.toList_quoteIdent name)

/-- A column is read by its name, whatever the name is. -/
theorem columnsRead_column (name : String) :
    db.columnsRead ⟨d, .plain⟩ ("dataset." ++ db.quoteIdent name ++ t).toList =
      some name :: db.columnsRead ⟨d, .plain⟩ t.toList := by
  have hlist : ("dataset." ++ db.quoteIdent name ++ t).toList =
      'd' :: ("ataset." ++ (db.quoteIdent name ++ t)).toList := by
    rw [String.append_assoc]
    simp
  have hqualified : qualifier.isPrefixOf ('d' :: ("ataset." ++ (db.quoteIdent name ++ t)).toList) =
      true := by
    rw [← hlist, String.append_assoc, String.toList_append, List.isPrefixOf_iff_prefix]
    exact List.prefix_append qualifier _
  have hname : ('d' :: ("ataset." ++ (db.quoteIdent name ++ t)).toList).drop qualifier.length =
      (db.quoteIdent name).toList ++ t.toList := by
    simp [qualifier]
  have hstep : Cursor.step ⟨d, .plain⟩ 'd' = ⟨d, .plain⟩ := rfl
  rw [hlist, columnsRead, hqualified, hname,
    db.nameAhead?_quoteIdent name (ht.head?_ne db.identQuotes_closer?.1), hstep,
    db.columnsRead_own (l := ⟨d, .plain⟩) rfl rfl, db.columnsRead_quoteIdent d ht]
  rfl

end

/-- What stands in quotes is no column, and a column without a quoted name is noticed. -/
example : Database.sqlServer.columnsRead .start
    "dataset.[a]]b] = 'dataset.[c]' OR [dataset.[d] = dataset.e".toList =
      [some "a]b", none] := by decide +kernel

theorem columnsRead_column_empty (name : String) :
    db.columnsRead ⟨d, .plain⟩ ("dataset." ++ db.quoteIdent name).toList = [some name] := by
  have hcolumn := db.columnsRead_column d detached_empty name
  rwa [String.append_empty] at hcolumn

theorem columnsRead_quoteIdent_empty (name : String) :
    db.columnsRead ⟨d, .plain⟩ (db.quoteIdent name).toList = [] := by
  have hname := db.columnsRead_quoteIdent d detached_empty name
  rwa [String.append_empty] at hname

/-- A comparison of a column with a value reads the column and what the value reads. -/
theorem columnsRead_comparison (name value : String) :
    db.columnsRead ⟨d, .plain⟩ ("dataset." ++ db.quoteIdent name ++ (" = " ++ value)).toList =
      some name :: db.columnsRead ⟨d, .plain⟩ value.toList := by
  rw [db.columnsRead_column d (detached_append rfl _) name,
    db.columnsRead_own (l := ⟨d, .plain⟩) rfl rfl]

/-- A text reads these columns of the dataset and no others. -/
def ReadsColumns (text : String) (names : List String) : Prop :=
  (db.columnsRead .start text.toList).Perm (names.map some)

end Database

end Crosstab
