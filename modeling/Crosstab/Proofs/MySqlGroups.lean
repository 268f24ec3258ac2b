import Crosstab.Build
import Crosstab.Proofs.PredicateGroups

/-!
# Conjunctions as MySQL reads them

The reader that decides about parentheses knows one way of quoting for all targets. MySQL has its
own: a backslash in a string escapes the character after it, and a square bracket quotes nothing.
This file writes that reading down (`MySql.Mode.next`, `MySql.Cursor.step`) and compares the two.

No law of reading is proved twice. What only one of the readers gives a meaning to can be blanked
out, and MySQL reads a text as the common reader reads what is left (`MySql.closes_blanked`,
`MySql.outside_blanked`). Where nothing has to be blanked, the text is `MySql.Verbatim`: there the
readers agree, and with them the test for parentheses.

`mySql_predicates_stay_apart` is the law of conjunctions under that condition, which only predicates
that look wrapped have to meet. `mySql_or_escapes` is what happens without it: two strings that end
in an escaped quote hide an `OR` from the common reader, and the predicate is taken for a group.
-/

namespace Crosstab

namespace MySql

/-! ## The reader -/

/-- What encloses a quoted run. -/
inductive Quote where
  | single
  | double
  | back
  deriving Repr, DecidableEq

def Quote.char : Quote → Char
  | single => '\''
  | double => '"'
  | back => '\x60'

/-- Strings have escapes, quoted identifiers have none. -/
def Quote.escapes : Quote → Bool
  | single | double => true
  | back => false

/-- The quote that a character is. -/
def quote? : Char → Option Quote
  | '\'' => some .single
  | '"' => some .double
  | '\x60' => some .back
  | _ => none

/-- What the next character means. -/
inductive Mode where
  | plain
  | quoted (quote : Quote)
  /-- Past a backslash in a string. -/
  | escaped (quote : Quote)
  /-- Just past a closing quote, which the next character may show to be doubled. -/
  | ended (quote : Quote)
  deriving Repr, DecidableEq

namespace Mode

/-- Past a character that is read outside quoted runs. -/
def opened (c : Char) : Mode :=
  match quote? c with
  | some q => quoted q
  | none => plain

def next (mode : Mode) (c : Char) : Mode :=
  match mode with
  | plain => opened c
  | quoted q =>
    if q.escapes && c == '\\' then escaped q else if c = q.char then ended q else quoted q
  | escaped q => quoted q
  | ended q => if c = q.char then quoted q else opened c

/-- Whether `c` is read outside quoted runs. -/
def reads (mode : Mode) (c : Char) : Bool :=
  match mode with
  | plain => true
  | quoted _ | escaped _ => false
  | ended q => c != q.char

def isOutside : Mode → Bool
  | plain | ended _ => true
  | quoted _ | escaped _ => false

end Mode

structure Cursor where
  depth : Nat
  mode : Mode
  deriving Repr, DecidableEq

namespace Cursor

def start : Cursor := ⟨0, .plain⟩

def step (k : Cursor) (c : Char) : Cursor :=
  { depth :=
      if !k.mode.reads c then k.depth
      else if c = '(' then k.depth + 1
      else if c = ')' then k.depth - 1
      else k.depth
    mode := k.mode.next c }

/-- Whether reading on meets no parenthesis that closes nothing and ends at the top level. -/
def closes (k : Cursor) : List Char → Bool
  | [] => k.depth == 0 && k.mode.isOutside
  | c :: cs => !(k.mode.reads c && k.depth == 0 && c == ')') && closes (k.step c) cs

/-- The characters outside every parenthesis, and the parentheses around the others. -/
def outside (k : Cursor) : List Char → List Char
  | [] => []
  | c :: cs =>
    if k.depth = 0 ∨ (k.step c).depth = 0 then c :: outside (k.step c) cs
    else outside (k.step c) cs

end Cursor

/-- A text whose parentheses and quoted runs are balanced. -/
def Balanced (s : String) : Prop := Cursor.start.closes s.toList = true

instance (s : String) : Decidable (Balanced s) :=
  inferInstanceAs (Decidable (Cursor.start.closes s.toList = true))

/-- What stands outside every parenthesis of a text. -/
def outside (s : String) : String := String.ofList (Cursor.start.outside s.toList)

/-- One pair of parentheses around a balanced text. -/
def IsGroup (s : String) : Prop := ∃ inner, Balanced inner ∧ s = "(" ++ inner ++ ")"

/-! ## The common reader on blanked text -/

namespace Mode

/-- Where the common reader is on the blanked text. -/
def common : Mode → Crosstab.Mode
  | plain => .plain
  | quoted q | escaped q => .quoted q.char
  | ended q => .ended q.char

/-- A character, or one without meaning in place of a character that escapes, is escaped, or is a
bracket outside of quotes. -/
def blank (mode : Mode) (c : Char) : Char :=
  match mode with
  | plain | ended _ => if c = '[' then 'x' else c
  | quoted q => if q.escapes && c == '\\' then 'x' else c
  | escaped _ => 'x'

def run (mode : Mode) (cs : List Char) : Mode := cs.foldl next mode

def blanked (mode : Mode) : List Char → List Char
  | [] => []
  | c :: cs => mode.blank c :: blanked (mode.next c) cs

theorem run_append (mode : Mode) (as bs : List Char) :
    mode.run (as ++ bs) = (mode.run as).run bs := by
  simp [run]

theorem blanked_append (mode : Mode) (as bs : List Char) :
    mode.blanked (as ++ bs) = mode.blanked as ++ (mode.run as).blanked bs := by
  induction as generalizing mode with
  | nil => rfl
  | cons c as ih =>
      rw [List.cons_append, blanked, blanked, ih]
      rfl

@[simp] theorem length_blanked (mode : Mode) (cs : List Char) :
    (mode.blanked cs).length = cs.length := by
  induction cs generalizing mode with
  | nil => rfl
  | cons c cs ih => simp [blanked, ih]

theorem blank_cases (mode : Mode) (c : Char) : mode.blank c = c ∨ mode.blank c = 'x' := by
  cases mode with
  | plain | ended q =>
      by_cases hc : c = '[' <;> simp [blank, hc]
  | quoted q =>
      by_cases hc : (q.escapes && c == '\\') = true
      · exact Or.inr (if_pos hc)
      · exact Or.inl (if_neg hc)
  | escaped q => exact Or.inr rfl

theorem blank_of_isOutside {mode : Mode} (h : mode.isOutside = true) {c : Char} (hc : c ≠ '[') :
    mode.blank c = c := by
  cases mode with
  | plain | ended q => exact if_neg hc
  | quoted q | escaped q => cases h

end Mode

theorem Quote.char_ne (q : Quote) : q.char ≠ 'x' ∧ q.char ≠ '[' ∧ q.char ≠ ')' := by
  cases q <;> decide

/-- A cursor as the one of the common reader. -/
def Cursor.common (k : Cursor) : Crosstab.Cursor := ⟨k.depth, k.mode.common⟩

/-- The common reader opens what MySQL opens, brackets apart. -/
theorem closer?_eq {c : Char} (hc : c ≠ '[') : closer? c = (quote? c).map Quote.char := by
  unfold closer? quote?
  split <;> first | rfl | exact absurd rfl hc | skip
  split <;> simp_all

theorem common_readPlain (d : Nat) (c : Char) :
    Crosstab.Cursor.readPlain d (if c = '[' then 'x' else c) =
      ⟨if c = '(' then d + 1 else if c = ')' then d - 1 else d, (Mode.opened c).common⟩ := by
  by_cases hc : c = '['
  · subst hc
    rfl
  rw [if_neg hc, Crosstab.Cursor.readPlain, closer?_eq hc, Mode.opened]
  cases hq : quote? c with
  | some q =>
      have hparen : c ≠ '(' ∧ c ≠ ')' := by
        constructor <;> (rintro rfl; cases hq)
      simp only [Option.map_some, if_neg hparen.1, if_neg hparen.2, Mode.common]
  | none =>
      simp only [Option.map_none]
      split
      · rfl
      · split <;> rfl

/-- A step of MySQL is a step of the common reader on the blanked character. -/
theorem common_step (k : Cursor) (c : Char) :
    (k.step c).common = k.common.step (k.mode.blank c) := by
  obtain ⟨d, mode⟩ := k
  cases mode with
  | plain => exact (common_readPlain d c).symm
  | escaped q => exact (if_neg q.char_ne.1.symm).symm
  | quoted q =>
      show (⟨d, ((Mode.quoted q).next c).common⟩ : Crosstab.Cursor) =
        if (Mode.quoted q).blank c = q.char then _ else _
      by_cases hescape : (q.escapes && c == '\\') = true
      · have hblank : (Mode.quoted q).blank c = 'x' := if_pos hescape
        have hnext : (Mode.quoted q).next c = .escaped q := if_pos hescape
        rw [hblank, hnext, if_neg q.char_ne.1.symm]
        rfl
      · have hblank : (Mode.quoted q).blank c = c := if_neg hescape
        have hnext : (Mode.quoted q).next c = if c = q.char then .ended q else .quoted q :=
          if_neg hescape
        rw [hblank, hnext]
        split <;> rfl
  | ended q =>
      by_cases hc : c = q.char
      · have hblank : (Mode.ended q).blank c = q.char := by
          rw [← hc]
          exact if_neg (hc ▸ q.char_ne.2.1)
        have hstep : Cursor.step ⟨d, .ended q⟩ c = ⟨d, .quoted q⟩ := by
          simp [Cursor.step, Mode.reads, Mode.next, hc]
        rw [hblank, hstep]
        exact (if_pos rfl).symm
      · have hblank : (Mode.ended q).blank c ≠ q.char := by
          rcases (Mode.ended q).blank_cases c with h | h <;> rw [h]
          · exact hc
          · exact q.char_ne.1.symm
        have hstep : Cursor.step ⟨d, .ended q⟩ c =
            ⟨if c = '(' then d + 1 else if c = ')' then d - 1 else d, .opened c⟩ := by
          simp [Cursor.step, Mode.reads, Mode.next, hc]
        rw [hstep]
        exact (common_readPlain d c).symm.trans (if_neg hblank).symm

/-- The readers find the same parentheses that close nothing. -/
theorem blank_shuts (mode : Mode) (d : Nat) (c : Char) :
    (Crosstab.Cursor.reads ⟨d, mode.common⟩ (mode.blank c) && mode.blank c == ')') =
      (mode.reads c && c == ')') := by
  cases mode with
  | quoted q | escaped q => rfl
  | plain | ended q =>
      by_cases hc : c = '['
      · simp [Mode.blank, hc]
      · simp [Mode.blank, Mode.reads, Mode.common, Crosstab.Cursor.reads, hc]

theorem closes_blanked (k : Cursor) (cs : List Char) :
    k.closes cs = k.common.closes (k.mode.blanked cs) := by
  induction cs generalizing k with
  | nil =>
      obtain ⟨d, mode⟩ := k
      cases mode <;> rfl
  | cons c cs ih =>
      have hshut := blank_shuts k.mode k.depth c
      rw [Mode.blanked, Crosstab.Cursor.closes, Cursor.closes, ih, common_step, Bool.and_right_comm,
        ← hshut, Bool.and_right_comm]
      rfl

theorem balanced_iff {s : String} :
    Balanced s ↔ isClosed (Mode.plain.blanked s.toList) = true := by
  rw [Balanced, closes_blanked]
  rfl

/-- Where nothing is blanked, the readers see the same outside of parentheses. -/
theorem outside_blanked {k : Cursor} {cs : List Char}
    (h : 'x' ∉ k.common.outside (k.mode.blanked cs)) :
    k.outside cs = k.common.outside (k.mode.blanked cs) := by
  induction cs generalizing k with
  | nil => rfl
  | cons c cs ih =>
      have hdepth (k : Cursor) : k.common.depth = k.depth := rfl
      rw [Mode.blanked, Crosstab.Cursor.outside, ← common_step, hdepth, hdepth] at h ⊢
      rw [Cursor.outside]
      split
      · rename_i hout
        rw [if_pos hout, List.mem_cons, not_or] at h
        rcases k.mode.blank_cases c with hc | hc
        · rw [hc, ih h.2]
          rfl
        · exact absurd hc.symm h.1
      · rename_i hin
        rw [if_neg hin] at h
        exact ih h

/-! ## Trimmed predicates -/

namespace Mode

theorem plain_inert {c : Char} (h : isInert c = true) :
    plain.blank c = c ∧ plain.next c = plain := by
  have hquote : quote? c = none := by
    unfold quote?
    split <;> first | rfl | cases h
  have hbracket : c ≠ '[' := by
    rintro rfl
    cases h
  exact ⟨if_neg hbracket, by rw [next, opened, hquote]⟩

theorem blanked_inert_append {before : List Char} (h : ∀ c ∈ before, isInert c = true)
    (cs : List Char) : plain.blanked (before ++ cs) = before ++ plain.blanked cs := by
  induction before with
  | nil => rfl
  | cons c before ih =>
      rw [List.forall_mem_cons] at h
      obtain ⟨hblank, hnext⟩ := plain_inert h.1
      rw [List.cons_append, blanked, hblank, hnext, ih h.2, List.cons_append]

theorem isInert_blanked (mode : Mode) {cs : List Char} (h : ∀ c ∈ cs, isInert c = true) :
    ∀ c ∈ mode.blanked cs, isInert c = true := by
  induction cs generalizing mode with
  | nil => exact fun _ hc => nomatch hc
  | cons c cs ih =>
      rw [List.forall_mem_cons] at h
      rw [blanked, List.forall_mem_cons]
      refine ⟨?_, ih _ h.2⟩
      rcases mode.blank_cases c with hc | hc <;> rw [hc]
      · exact h.1
      · rfl

end Mode

theorem Balanced.trimText {s : String} (h : Balanced s) : Balanced (trimText s) := by
  obtain ⟨before, after, hs, hbefore, hafter⟩ := trim_parts s.toList
  have hbefore : ∀ c ∈ before, isInert c = true := fun c hc => isInert_of_isBlank (hbefore c hc)
  have hafter : ∀ c ∈ after, isInert c = true := fun c hc => isInert_of_isBlank (hafter c hc)
  rw [balanced_iff, hs, List.append_assoc, Mode.blanked_inert_append hbefore, Mode.blanked_append,
    isClosed_inert_append hbefore, isClosed_append_inert (Mode.isInert_blanked _ hafter)] at h
  rwa [balanced_iff, Crosstab.trimText, String.toList_ofList]

/-- A text in which both readers give the same meaning to every character: no backslash in a string
and no square bracket outside of quotes. -/
def Verbatim (s : String) : Prop := Mode.plain.blanked s.toList = s.toList

instance (s : String) : Decidable (Verbatim s) :=
  inferInstanceAs (Decidable (Mode.plain.blanked s.toList = s.toList))

theorem Verbatim.trimText {s : String} (h : Verbatim s) : Verbatim (trimText s) := by
  obtain ⟨before, after, hs, hbefore, -⟩ := trim_parts s.toList
  have hbefore : ∀ c ∈ before, isInert c = true := fun c hc => isInert_of_isBlank (hbefore c hc)
  rw [Verbatim, hs, List.append_assoc, Mode.blanked_inert_append hbefore, Mode.blanked_append,
    List.append_cancel_left_eq] at h
  rw [Verbatim, Crosstab.trimText, String.toList_ofList]
  exact (List.append_inj h (Mode.length_blanked ..)).1

/-- Parentheses that match for the common reader match for MySQL where the two agree. -/
theorem isGroup_of_verbatim {s : String} (hs : Verbatim s) (h : Crosstab.IsGroup s) :
    IsGroup s := by
  obtain ⟨inner, hinner, rfl⟩ := h
  have hlist : ("(" ++ inner ++ ")").toList = '(' :: (inner.toList ++ [')']) := by simp
  have hopen : Mode.plain.blank '(' = '(' ∧ Mode.plain.next '(' = .plain := ⟨rfl, rfl⟩
  rw [Verbatim, hlist, Mode.blanked, hopen.1, hopen.2, Mode.blanked_append, List.cons.injEq] at hs
  have hverbatim := (List.append_inj hs.2 (Mode.length_blanked ..)).1
  refine ⟨inner, ?_, rfl⟩
  rwa [balanced_iff, hverbatim]

theorem isGroup_groupPredicate {predicate : String} (h : Balanced predicate)
    (hverbatim : isWrapped predicate.toList = true → Verbatim predicate) :
    IsGroup (groupPredicate predicate) := by
  unfold groupPredicate
  split
  · rename_i hwrapped
    exact isGroup_of_verbatim (hverbatim hwrapped).trimText (isWrapped_iff.mp hwrapped)
  · exact ⟨_, h.trimText, rfl⟩

/-! ## Joined groups -/

theorem isOutside_of_closes {k : Cursor} {cs : List Char} (h : k.closes cs = true) :
    (k.mode.run cs).isOutside = true := by
  induction cs generalizing k with
  | nil => exact (Bool.and_eq_true_iff.mp h).2
  | cons c cs ih => exact ih (Bool.and_eq_true_iff.mp h).2

/-- Blanked, a group is one of the common reader, and it leaves no quoted run behind. -/
theorem IsGroup.blanked {s : String} (h : IsGroup s) :
    Mode.plain.run s.toList = .plain ∧
      Crosstab.IsGroup (String.ofList (Mode.plain.blanked s.toList)) := by
  obtain ⟨inner, hinner, rfl⟩ := h
  have hlist : ("(" ++ inner ++ ")").toList = '(' :: (inner.toList ++ [')']) := by simp
  have houtside : (Mode.plain.run inner.toList).isOutside = true := isOutside_of_closes hinner
  have hshut : (Mode.plain.run inner.toList).blank ')' = ')' :=
    Mode.blank_of_isOutside houtside (by decide)
  have hend : (Mode.plain.run inner.toList).next ')' = .plain := by
    cases hmode : Mode.plain.run inner.toList with
    | plain => rfl
    | ended q => exact if_neg q.char_ne.2.2.symm
    | quoted q | escaped q =>
        rw [hmode] at houtside
        cases houtside
  constructor
  · rw [hlist]
    exact (Mode.run_append _ ('(' :: inner.toList) [')']).trans hend
  · refine ⟨String.ofList (Mode.plain.blanked inner.toList), ?_, ?_⟩
    · rw [Closed, String.toList_ofList]
      exact balanced_iff.mp hinner
    · have hopen : Mode.plain.blank '(' = '(' ∧ Mode.plain.next '(' = .plain := ⟨rfl, rfl⟩
      rw [hlist, Mode.blanked, hopen.1, hopen.2, Mode.blanked_append, Mode.blanked, hshut]
      simp [← String.toList_inj, Mode.blanked]

theorem not_mem_joined {c : Char} (hc : c ∉ "() AND ()".toList) (n : Nat) :
    c ∉ (" AND ".intercalate (List.replicate n "()")).toList := by
  have hparts : c ∉ "()".toList ∧ c ∉ " AND ".toList := by simp_all
  induction n with
  | zero => exact List.not_mem_nil
  | succ n ih =>
      cases n with
      | zero => exact hparts.1
      | succ n =>
          rw [List.replicate_succ, List.replicate_succ, String.intercalate_cons_cons,
            ← List.replicate_succ, String.toList_append, String.toList_append, List.mem_append,
            List.mem_append]
          rintro ((h | h) | h)
          · exact hparts.1 h
          · exact hparts.2 h
          · exact ih h

theorem blanked_groups {groups : List String} (h : ∀ g ∈ groups, IsGroup g) :
    Mode.plain.blanked (" AND ".intercalate groups).toList =
      (" AND ".intercalate
        (groups.map fun g => String.ofList (Mode.plain.blanked g.toList))).toList := by
  induction groups with
  | nil => rfl
  | cons g groups ih =>
      obtain ⟨hg, hgroups⟩ := List.forall_mem_cons.mp h
      cases groups with
      | nil => simp [String.intercalate_singleton]
      | cons g' groups =>
          have hand : Mode.plain.run " AND ".toList = .plain ∧
              Mode.plain.blanked " AND ".toList = " AND ".toList := by decide
          rw [String.intercalate_cons_cons, String.toList_append, String.toList_append,
            Mode.blanked_append, Mode.blanked_append, Mode.run_append, hg.blanked.1, hand.1, hand.2,
            ih hgroups]
          simp [String.intercalate_cons_cons]

/-- Joined groups have the surface that the common reader finds when they are blanked. -/
theorem outside_groups {groups : List String} (h : ∀ g ∈ groups, IsGroup g) :
    outside (" AND ".intercalate groups) = " AND ".intercalate (groups.map fun _ => "()") := by
  have hsurface := Crosstab.outside_groups (List.forall_mem_map.mpr fun g hg => (h g hg).blanked.2)
  rw [← blanked_groups h, List.map_map] at hsurface
  rw [outside, outside_blanked, ← String.toList_inj, String.toList_ofList]
  · exact hsurface
  · show 'x' ∉ Crosstab.Cursor.start.outside (Mode.plain.blanked _)
    rw [hsurface, Function.comp_def, List.map_const']
    exact not_mem_joined (by decide) _

end MySql

/-- **A predicate cannot capture its neighbours in MySQL**, as long as the common reader is not
asked about a predicate that MySQL reads otherwise. The clause of several predicates, balanced for
MySQL, is one group for each of them, in order and joined by `AND`, and of those that were taken for
groups as they are it is enough to know that both readers give them the same meaning. -/
theorem mySql_predicates_stay_apart {predicates : List String}
    (hbalanced : ∀ p ∈ predicates, MySql.Balanced p)
    (hverbatim : ∀ p ∈ predicates, isWrapped p.toList = true → MySql.Verbatim p)
    (hseveral : 2 ≤ predicates.length) :
    ∃ groups, conjunction predicates = " AND ".intercalate groups ∧
      List.Forall₂ (fun predicate group =>
        (group = trimText predicate ∨ group = "(" ++ trimText predicate ++ ")") ∧
          MySql.IsGroup group) predicates groups ∧
      MySql.outside (conjunction predicates) =
        " AND ".intercalate (predicates.map fun _ => "()") ∧
      ∀ query : Query,
        (query.filters = predicates →
          "WHERE " ++ conjunction predicates ∈ query.tailLines .mySql) ∧
        (query.having = predicates →
          "HAVING " ++ conjunction predicates ∈ query.tailLines .mySql) := by
  have hgroup : ∀ p ∈ predicates, MySql.IsGroup (groupPredicate p) := by
    intro p hp
    exact MySql.isGroup_groupPredicate (hbalanced p hp) (hverbatim p hp)
  have hne : predicates ≠ [] := by
    rintro rfl
    cases hseveral
  refine ⟨predicates.map groupPredicate, conjunction_eq hseveral, ?_, ?_,
    fun query => mem_tailLines .mySql hne⟩
  · rw [List.forall₂_map_right_iff, List.forall₂_same]
    exact fun p hp => ⟨groupPredicate_cases p, hgroup p hp⟩
  · rw [conjunction_eq hseveral, MySql.outside_groups (List.forall_mem_map.mpr hgroup),
      List.map_map]
    rfl

/-- An escape and a bracket in predicates that get parentheses, around one that has its own. -/
theorem mySql_predicates_stay_apart_escaped :
    let predicates := ["a = '\\')' OR b = '('", " (c OR d) ", "(e OR f [ g)"]
    ((∀ p ∈ predicates, MySql.Balanced p) ∧
      (∀ p ∈ predicates, isWrapped p.toList = true → MySql.Verbatim p) ∧
      2 ≤ predicates.length) ∧
      conjunction predicates = "(a = '\\')' OR b = '(') AND (c OR d) AND ((e OR f [ g))" ∧
      MySql.outside (conjunction predicates) = "() AND () AND ()" := by
  intro predicates
  have hbalanced : ∀ p ∈ predicates, MySql.Balanced p := by decide
  have hverbatim : ∀ p ∈ predicates, isWrapped p.toList = true → MySql.Verbatim p := by
    decide +kernel
  have hseveral : 2 ≤ predicates.length := by decide
  refine ⟨⟨hbalanced, hverbatim, hseveral⟩, by decide +kernel, ?_⟩
  obtain ⟨-, -, -, houtside, -⟩ := mySql_predicates_stay_apart hbalanced hverbatim hseveral
  rw [houtside]
  rfl

/-- Two strings that end in an escaped quote: the common reader takes what stands between them for
quoted and the predicate for a group, and MySQL sees an `OR` beside the other predicate. -/
theorem mySql_or_escapes :
    let predicates := ["(a = '\\'') OR (b = '\\'')", "c = 1"]
    (∀ p ∈ predicates, MySql.Balanced p) ∧
      build {} .mySql ⟨[.plain .select "a", .plain .table "t",
        .plain .filter "(a = '\\'') OR (b = '\\'')", .plain .filter "c = 1"], none⟩ =
        .ok ("SELECT a\nFROM t\nWHERE " ++ conjunction predicates) ∧
      MySql.outside (conjunction predicates) = "() OR () AND ()" := by
  decide +kernel

end Crosstab
