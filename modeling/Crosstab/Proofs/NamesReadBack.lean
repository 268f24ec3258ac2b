import Crosstab.Proofs.Outcomes
import Crosstab.Proofs.References

/-!
# Names read back

A name goes into a statement in quotes and is read out of one again by three readers: one takes the
quotes off, one looks for the name behind the last `AS`, one takes it from the end of a column
reference. Whatever characters the name has, each of them gives it back (`names_read_back`).

The second reader is also followed the other way, from what it says to the text that it read:
`AliasCut` holds where the text was cut and why there.
-/

namespace Crosstab

/-! ## Names with dots between them -/

section
variable (db : Database)

theorem marks_quoteIdent_append (name : String) {c : Char} (hc : isInert c = true)
    (cs : List Char) : marks ((db.quoteIdent name).toList ++ c :: cs) =
      (db.quoteIdent name).toList.map (·, false) ++ (c, true) :: marks cs := by
  rw [Database.quoteIdent, String.toList_ofList]
  exact marks_quoteWith_append db.identQuotes_closer?.1 _ hc cs

/-- A column reference of quoted names, the last of them apart. -/
def Database.dotted (names : List String) (name : String) : String :=
  ".".intercalate ((names ++ [name]).map db.quoteIdent)

variable (names : List String) (name : String)

theorem dotted_nil : db.dotted [] name = db.quoteIdent name :=
  String.intercalate_singleton ..

theorem dotted_cons (first : String) :
    db.dotted (first :: names) name = db.quoteIdent first ++ "." ++ db.dotted names name := by
  cases names <;> exact String.intercalate_cons_cons ..

theorem marks_dotted_cons (first : String) :
    marks (db.dotted (first :: names) name).toList =
      (db.quoteIdent first).toList.map (·, false) ++
        ('.', true) :: marks (db.dotted names name).toList := by
  have hdot : ".".toList = ['.'] := rfl
  rw [dotted_cons, String.toList_append, String.toList_append, hdot, List.append_assoc,
    List.singleton_append, marks_quoteIdent_append db first rfl]

theorem marks_dotted : marks (db.dotted names name).toList = [('.', true)].intercalate
    ((names ++ [name]).map fun n => (db.quoteIdent n).toList.map (·, false)) := by
  induction names with
  | nil =>
      rw [dotted_nil, marks_quoteIdent]
      simp
  | cons first names ih =>
      rw [marks_dotted_cons, ih]
      cases names <;> simp [List.intercalate_cons_cons]

/-- Nothing but its dots stands at the top level of such a reference. -/
theorem eq_dot_of_mem_marks {c : Char} (h : (c, true) ∈ marks (db.dotted names name).toList) :
    c = '.' := by
  induction names with
  | nil =>
      rw [dotted_nil, marks_quoteIdent] at h
      simp at h
  | cons first names ih =>
      rw [marks_dotted_cons, List.mem_append, List.mem_cons] at h
      rcases h with hquoted | hdot | hrest
      · simp at hquoted
      · exact (Prod.mk.inj hdot).1
      · exact ih hrest

theorem dottedInto_dotted : DottedInto (db.dotted names name).toList
    ((names ++ [name]).map fun n => (db.quoteIdent n).toList) := by
  refine ⟨_, ?_, marks_dotted db names name, ?_, by simp [Function.comp_def]⟩
  · simp
  · intro m hm
    obtain ⟨n, -, rfl⟩ := List.mem_map.mp hm
    simp

/-- A reference to quoted names begins and ends with a quote. -/
theorem ends_dotted : (db.dotted names name).toList.head? = some db.identQuotes.1 ∧
    (db.dotted names name).toList.getLast? = some db.identQuotes.2 := by
  induction names with
  | nil =>
      rw [dotted_nil, db.toList_quoteIdent]
      exact ⟨rfl, List.getLast?_concat⟩
  | cons first names ih =>
      rw [dotted_cons, String.toList_append, String.toList_append, List.getLast?_append, ih.2]
      refine ⟨?_, rfl⟩
      rw [db.toList_quoteIdent]
      rfl

theorem tidy_dotted : tidy (db.dotted names name).toList = (db.dotted names name).toList := by
  obtain ⟨hhead, hlast⟩ := ends_dotted db names name
  have hstart : ∀ c, (db.dotted names name).toList.head? = some c → isBlank c = false := by
    intro c hc
    rw [hhead] at hc
    exact Option.some.inj hc ▸ db.identQuotes_not_blank.1
  obtain ⟨htrimmed, hcomma⟩ := db.trimmed_of_closing hstart hlast
  exact tidy_eq_self htrimmed hcomma

theorem splitAlias_dotted :
    splitAlias (db.dotted names name).toList = ((db.dotted names name).toList, none) := by
  have hunbroken : ∀ c, (c, true) ∈ marks (tidy (db.dotted names name).toList) →
      isBlank c = false := by
    intro c hc
    rw [tidy_dotted] at hc
    rw [eq_dot_of_mem_marks db names name hc]
    rfl
  rw [splitAlias_of_unbroken hunbroken, tidy_dotted]

theorem columnName_dotted : columnName (db.dotted names name) = .ok name := by
  have hpart (n : String) : IsIdentifier (trim (db.quoteIdent n).toList) n.toList := by
    rw [(db.trimmed_quoteIdent n).trim, Database.quoteIdent, String.toList_ofList]
    exact .quoted db.identQuotes_closer?.2 n.toList
  have hcut := dottedInto_dotted db names name
  rw [List.map_append, List.map_singleton] at hcut
  have hreference : References (tidy (db.dotted names name).toList) name.toList := by
    rw [tidy_dotted]
    refine ⟨_, _, hcut, fun part hmem => ?_, hpart name⟩
    obtain ⟨n, -, rfl⟩ := List.mem_map.mp hmem
    exact Or.inr ⟨_, hpart n⟩
  rw [columnName_ok]
  exact hreference.runtimeName (by rw [splitAlias_dotted])

end

/-! ## What was split off -/

/-- A text cut around the last `AS` that stands between blanks at the top level. -/
structure AliasCut (body expression gap word gap' text : List Char) : Prop where
  whole : body = expression ++ gap ++ word ++ gap' ++ text
  solid : expression ≠ []
  /-- Ahead of the `AS` a reader is outside of every parenthesis and every quoted run. -/
  top : (Cursor.start.run expression).atTop = true
  ahead : IsGap gap
  keyword : IsAsWord word
  behind : IsGap gap'
  spelled : text ≠ [] ∧ Trimmed text
  last : ∀ before b word' b' rest, body = before ++ b :: (word' ++ b' :: rest) →
    isBlank b = true → IsAsWord word' → isBlank b' = true →
    (Cursor.start.run before).atTop = true → before.length < (expression ++ gap).length

/-- A keyword between blanks is one for `startsAs` wherever a reader is at the top level. -/
theorem startsAs_marks {k : Cursor} (hk : k.Legal) (htop : k.atTop = true) {b b' : Char}
    {word : List Char} (hb : isBlank b = true) (hword : IsAsWord word) (hb' : isBlank b' = true)
    (rest : List Char) : startsAs (k.marks (b :: (word ++ b' :: rest))) = true := by
  obtain ⟨a, s, rfl, ha, hs⟩ := hword
  have hinert : isInert a = true ∧ isInert s = true := by
    refine ⟨?_, ?_⟩
    · rcases ha with rfl | rfl <;> rfl
    · rcases hs with rfl | rfl <;> rfl
  refine startsAs_iff.mpr ⟨b, [a, s], b', Cursor.start.isTop b',
    (Cursor.start.step b').marks rest, ?_, hb, ⟨a, s, rfl, ha, hs⟩, hb'⟩
  rw [Cursor.marks_inert hk htop (isInert_of_isBlank hb), List.cons_append, marks,
    Cursor.marks_inert Cursor.legal_start rfl hinert.1, List.cons_append, marks,
    Cursor.marks_inert Cursor.legal_start rfl hinert.2]
  rfl

/-- The tail that begins with the last `AS` leaves none ahead of it to be found later. -/
theorem length_le_of_splitLast {cs : List Char} {before tail : List (Char × Bool)}
    (h : splitLast startsAs (marks cs) = some (before, tail)) {other word rest : List Char}
    {b b' : Char} (hcs : cs = other ++ b :: (word ++ b' :: rest)) (hb : isBlank b = true)
    (hword : IsAsWord word) (hb' : isBlank b' = true)
    (htop : (Cursor.start.run other).atTop = true) : other.length ≤ before.length := by
  have hsuffix : (Cursor.start.run other).marks (b :: (word ++ b' :: rest)) <:+ marks cs := by
    rw [hcs, marks, Cursor.marks_append]
    exact List.suffix_append _ _
  have hle := splitLast_shortest h hsuffix (List.cons_ne_nil _ _)
    (startsAs_marks (Cursor.legal_start.run _) htop hb hword hb' rest)
  have hlength := congrArg List.length (splitLast_some h).1
  rw [Cursor.length_marks] at hle
  rw [marks, Cursor.length_marks, hcs] at hlength
  simp only [List.length_append] at hle hlength
  omega

theorem aliasCut_of_splitAlias {cs expression name : List Char}
    (h : splitAlias cs = (expression, some name)) :
    ∃ gap word gap' text, AliasCut (tidy cs) expression gap word gap' text ∧
      name = unquote text := by
  cases hsplit : splitLast startsAs (marks (tidy cs)) with
  | none =>
      rw [splitAlias, hsplit] at h
      cases h
  | some found =>
      obtain ⟨before, tail⟩ := found
      obtain ⟨htop, b, word, b', rest, htail, hcs, hb, hword, hb'⟩ := splitLast_marks hsplit
      have hdrop : (tail.map Prod.fst).drop 3 = b' :: rest := by
        obtain ⟨a, s, rfl, -⟩ := hword
        rw [htail]
        rfl
      have hne : trim (b' :: rest) ≠ [] := by
        intro hnil
        simp [splitAlias, hsplit, hdrop, hnil] at h
      rw [splitAlias_of_split hsplit (by rwa [hdrop]), hdrop, Prod.mk.injEq, Option.some.injEq] at h
      obtain ⟨rfl, rfl⟩ := h
      have hbody := trimmed_tidy cs
      -- The blanks on either side of the keyword are the ones that were trimmed off.
      have hahead : trimEnd (before.map Prod.fst) ++ (before.map Prod.fst).rtakeWhile isBlank =
          before.map Prod.fst := by
        rw [trimEnd, dropTailWhile_eq_rdropWhile, List.rdropWhile_append_rtakeWhile]
      have hbehind : (b' :: rest).takeWhile isBlank ++ trim (b' :: rest) = b' :: rest := by
        have hsuffix : b' :: rest <:+ tidy cs := ⟨before.map Prod.fst ++ b :: word, by simp [hcs]⟩
        exact takeWhile_append_trim hsuffix hbody.2
      refine ⟨(before.map Prod.fst).rtakeWhile isBlank ++ [b], word,
        (b' :: rest).takeWhile isBlank, trim (b' :: rest), ?_, rfl⟩
      constructor
      case whole =>
        rw [List.append_assoc _ _ (trim _), hbehind, ← List.append_assoc (trimEnd _), hahead, hcs]
        simp
      case solid => exact trimEnd_ne_nil hbody hcs hb
      case top =>
        rwa [← hahead, Cursor.run_append, Cursor.atTop_run_inert (Cursor.legal_start.run _)
          fun c hc => isInert_of_isBlank (List.mem_rtakeWhile_imp hc)] at htop
      case ahead =>
        refine ⟨by simp, fun c hc => ?_⟩
        rcases List.mem_append.mp hc with hc | hc
        · exact List.mem_rtakeWhile_imp hc
        · exact List.mem_singleton.mp hc ▸ hb
      case keyword => exact hword
      case behind => exact ⟨by simp [hb'], fun c hc => List.mem_takeWhile_imp hc⟩
      case spelled => exact ⟨hne, trimmed_trim _⟩
      case last =>
        intro other c word' c' rest' hcs' hc hword' hc' htop'
        have hle := length_le_of_splitLast hsplit hcs' hc hword' hc' htop'
        rw [← List.append_assoc, hahead, List.length_append, List.length_map]
        exact Nat.lt_succ_of_le hle

/-- A closed expression under a quoted name splits into the two, whatever commas follow it. -/
theorem splitAlias_pasted (db : Database) {expression gap word gap' commas blanks : List Char}
    (name : String) (hne : expression ≠ []) (hclosed : isClosed expression = true)
    (htrimmed : Trimmed expression) (hgap : IsGap gap) (hword : IsAsWord word) (hgap' : IsGap gap')
    (hcommas : ∀ c ∈ commas, c = ',') (hblanks : ∀ c ∈ blanks, isBlank c = true) :
    splitAlias (expression ++ gap ++ word ++ gap' ++ (db.quoteIdent name).toList ++ commas ++
      blanks) = (expression, some name.toList) := by
  obtain ⟨before, b, rfl⟩ := (List.eq_nil_or_concat gap).resolve_left hgap.1
  rw [List.concat_eq_append] at hgap ⊢
  obtain ⟨hbefore, hb⟩ := List.forall_mem_append.mp hgap.2
  have hb := hb b (List.mem_singleton_self b)
  obtain ⟨a, s, rfl, ha, hs⟩ := hword
  have hlist : expression ++ (before ++ [b]) ++ [a, s] ++ gap' ++ (db.quoteIdent name).toList =
      expression ++ before ++ b :: a :: s :: (gap' ++ (db.quoteIdent name).toList) := by simp
  obtain ⟨hbody, hcomma⟩ : Trimmed (expression ++ before ++
      b :: a :: s :: (gap' ++ (db.quoteIdent name).toList)) ∧ _ := trimmed_as hne htrimmed db name
  rw [hlist]
  refine (splitAlias_congr ?_).trans
    (splitAlias_as hclosed hne htrimmed hbefore hb ha hs db name hgap'.2 hgap'.1)
  rw [tidy_append_commas hbody hcomma hcommas hblanks, tidy_eq_self hbody hcomma]

/-! ## The headline -/

/-- **Every name is read back out of its quotes**: alone, behind a closed expression and an `AS`,
and at the end of a column reference. Conversely, wherever an alias is split off, the text was cut
at the last `AS` of the top level. -/
theorem names_read_back (db : Database) :
    (∀ name : String, unquote (db.quoteIdent name).toList = name.toList) ∧
    (∀ (expression gap word gap' commas blanks : List Char) (name : String),
      expression ≠ [] → isClosed expression = true → Trimmed expression →
      IsGap gap → IsAsWord word → IsGap gap' →
      (∀ c ∈ commas, c = ',') → (∀ c ∈ blanks, isBlank c = true) →
      splitAlias (expression ++ gap ++ word ++ gap' ++ (db.quoteIdent name).toList ++ commas ++
        blanks) = (expression, some name.toList)) ∧
    (∀ names name, columnName (db.dotted names name) = .ok name) ∧
    (∀ cs expression name, splitAlias cs = (expression, some name) →
      ∃ gap word gap' text, AliasCut (tidy cs) expression gap word gap' text ∧
        name = unquote text) := by
  refine ⟨db.unquote_quoteIdent, ?_, columnName_dotted db, fun _ _ _ => aliasCut_of_splitAlias⟩
  intro expression gap word gap' commas blanks name
  exact splitAlias_pasted db name

/-- A name with a closer, a dot and an `AS` in it, behind an expression with an `AS` of its own. -/
theorem names_read_back_quoted :
    splitAlias "CAST(at AS DATE)\t\naS [a]] AS b.c],, ".toList =
      ("CAST(at AS DATE)".toList, some "a] AS b.c".toList) ∧
    columnName (Database.sqlServer.dotted ["db", "", "] AS ["] "a] AS b.c") = .ok "a] AS b.c" ∧
    ∃ gap word gap' text,
      AliasCut (tidy "a AS \"b AS\" AS c".toList) "a AS \"b AS\"".toList gap word gap' text ∧
        "c".toList = unquote text := by
  obtain ⟨-, hpasted, hdotted, hcut⟩ := names_read_back .sqlServer
  refine ⟨?_, hdotted _ _, hcut _ _ _ (by decide +kernel)⟩
  exact hpasted "CAST(at AS DATE)".toList ['\t', '\n'] ['a', 'S'] [' '] [',', ','] [' ']
    "a] AS b.c" (by decide) (by decide +kernel)
    ⟨fun c hc => by cases hc; rfl, fun c hc => by cases hc; rfl⟩
    ⟨by decide, by simp [isBlank]⟩ ⟨'a', 'S', rfl, Or.inl rfl, Or.inr rfl⟩
    ⟨by decide, by simp [isBlank]⟩ (by simp) (by simp [isBlank])

end Crosstab
