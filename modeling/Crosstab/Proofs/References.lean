import Crosstab.Line
import Crosstab.Proofs.Aliases

/-!
# Column references

A fragment without an alias names its column if it refers to one: it is made of identifiers with
dots between them, and the last is the name. `References` says so without a word about how it is
recognised; `DottedInto` is its first half, the cut at the dots of the top level, and
`IsIdentifier` the second.

What `runtimeName` recognises is more (`runtimeName_iff`). A part that begins with a quote and ends
with its closer is taken for one identifier, and it is one unless a closer ahead of the last ends
the quotes (`Straddles`).
-/

namespace Crosstab

/-! ## The dots of the top level -/

theorem not_mem_of_mem_splitOn {α : Type} [BEq α] [LawfulBEq α] {a : α} {as part : List α}
    (h : part ∈ as.splitOn a) : a ∉ part := by
  induction as generalizing part with
  | nil =>
      rw [List.splitOn_nil, List.mem_singleton] at h
      exact h ▸ List.not_mem_nil
  | cons x as ih =>
      obtain ⟨first, others, hparts⟩ := List.exists_cons_of_ne_nil (List.splitOn_ne_nil a as)
      rw [hparts] at ih
      rw [List.splitOn_cons_eq_if_modifyHead, hparts] at h
      split at h
      · rcases List.mem_cons.mp h with rfl | hpart
        · exact List.not_mem_nil
        · exact ih hpart
      · rename_i hx
        rcases List.mem_cons.mp h with rfl | hpart
        · rintro (_ | ⟨_, ha⟩)
          · exact hx (beq_self_eq_true a)
          · exact ih (List.mem_cons_self ..) ha
        · exact ih (List.mem_cons_of_mem _ hpart)

theorem splitDots_eq_splitOn (ms : List (Char × Bool)) :
    splitDots ms = (ms.splitOn ('.', true)).map (·.map Prod.fst) := by
  induction ms with
  | nil => rfl
  | cons m ms ih =>
      obtain ⟨c, top⟩ := m
      obtain ⟨part, parts, hparts⟩ :=
        List.exists_cons_of_ne_nil (List.splitOn_ne_nil ('.', true) ms)
      rw [List.splitOn_cons_eq_if_modifyHead, splitDots, ih, hparts]
      by_cases hdot : (c, top) = ('.', true)
      · cases hdot
        rfl
      · have hneither : ¬ (top && c == '.') = true := by
          intro h
          rw [Bool.and_eq_true, beq_iff_eq] at h
          exact hdot (by rw [h.1, h.2])
        rw [if_neg hneither, if_neg (by simpa using hdot)]
        rfl

theorem splitDots_ne_nil (ms : List (Char × Bool)) : splitDots ms ≠ [] := by
  rw [splitDots_eq_splitOn]
  simp [List.splitOn_ne_nil]

/-- The dots that stand at the top level of `cs`, and no others, cut it into `parts`. -/
def DottedInto (cs : List Char) (parts : List (List Char)) : Prop :=
  ∃ marked : List (List (Char × Bool)), marked ≠ [] ∧
    marks cs = [('.', true)].intercalate marked ∧ (∀ m ∈ marked, ('.', true) ∉ m) ∧
    parts = marked.map (·.map Prod.fst)

theorem dottedInto_iff {cs : List Char} {parts : List (List Char)} :
    DottedInto cs parts ↔ parts = splitDots (marks cs) := by
  constructor
  · rintro ⟨marked, hne, hmarks, hdots, rfl⟩
    rw [splitDots_eq_splitOn, hmarks, List.splitOn_intercalate _ hdots hne]
  · rintro rfl
    exact ⟨(marks cs).splitOn ('.', true), List.splitOn_ne_nil _ _,
      (List.intercalate_splitOn _).symm, fun _ => not_mem_of_mem_splitOn, splitDots_eq_splitOn _⟩

theorem exists_dottedInto (cs : List Char) : ∃ parts last, DottedInto cs (parts ++ [last]) := by
  obtain ⟨parts, last, hparts⟩ :=
    (List.eq_nil_or_concat _).resolve_left (splitDots_ne_nil (marks cs))
  exact ⟨parts, last, dottedInto_iff.mpr (by rw [hparts, List.concat_eq_append])⟩

/-- A text without such dots is one part. -/
theorem dottedInto_singleton {cs : List Char} (h : ('.', true) ∉ marks cs) :
    DottedInto cs [cs] := by
  refine ⟨[marks cs], List.cons_ne_nil _ _, (List.intercalate_singleton ..).symm, ?_, ?_⟩
  · exact List.forall_mem_singleton.mpr h
  · rw [List.map_singleton, marks, Cursor.map_fst_marks]

/-! ## Identifiers -/

/-- A text that is one identifier and nothing else, and the name it spells: a bare word, or a body
in quotes of which every closer inside is doubled. -/
inductive IsIdentifier : List Char → List Char → Prop where
  | bare {cs : List Char} (h : isBareName cs = true) : IsIdentifier cs cs
  | quoted {o q : Char} (h : identCloser? o = some q) (body : List Char) :
      IsIdentifier (quoteWith o q body) body

/-- The pair of quotes at the two ends does not belong together: what stands between them is no
body in which every closer is doubled. -/
def Straddles (cs : List Char) : Prop :=
  ∃ o q inner, identCloser? o = some q ∧ cs = o :: (inner ++ [q]) ∧
    ∀ body, inner ≠ double (· == q) body

theorem closer?_of_identCloser? {o q : Char} (h : identCloser? o = some q) :
    closer? o = some q := by
  unfold identCloser? at h
  split at h <;> cases h <;> rfl

theorem not_blank_of_identCloser? {o q : Char} (h : identCloser? o = some q) :
    isBlank o = false ∧ isBlank q = false := by
  unfold identCloser? at h
  split at h <;> cases h <;> exact ⟨rfl, rfl⟩

theorem isQuotedName_iff {cs : List Char} :
    isQuotedName cs = true ↔ ∃ o q inner, identCloser? o = some q ∧ cs = o :: (inner ++ [q]) := by
  unfold isQuotedName
  constructor
  · intro h
    split at h
    · cases h
    · rename_i o rest
      split at h
      · cases h
      · rename_i q hq
        obtain ⟨inner, rfl⟩ := List.getLast?_eq_some_iff.mp (beq_iff_eq.mp h)
        exact ⟨o, q, inner, hq, rfl⟩
  · rintro ⟨o, q, inner, hq, rfl⟩
    simp [hq]

theorem unquote_quoted {o q : Char} (h : identCloser? o = some q) (inner : List Char) :
    unquote (o :: (inner ++ [q])) = undouble q inner := by
  obtain ⟨ho, hq⟩ := not_blank_of_identCloser? h
  have htrimmed : Trimmed (o :: (inner ++ [q])) := by
    refine ⟨fun c hc => Option.some.inj hc ▸ ho, fun c hc => ?_⟩
    rw [← List.cons_append, List.getLast?_concat] at hc
    exact Option.some.inj hc ▸ hq
  rw [unquote, htrimmed.trim]
  simp [h]

theorem not_isBareName_of_identCloser? {o q : Char} (h : identCloser? o = some q)
    (cs : List Char) : isBareName (o :: cs) = false := by
  unfold identCloser? at h
  split at h <;> cases h <;> rfl

theorem unquote_bare {cs : List Char} (h : isBareName cs = true) (ht : Trimmed cs) :
    unquote cs = cs := by
  rw [unquote, ht.trim]
  cases cs with
  | nil => rfl
  | cons c cs =>
      cases hq : identCloser? c with
      | none => simp [hq]
      | some q =>
          rw [not_isBareName_of_identCloser? hq] at h
          cases h

/-- What is taken for an identifier is one, or straddles. -/
theorem isName_iff {cs name : List Char} (ht : Trimmed cs) :
    (isBareName cs || isQuotedName cs) = true ∧ name = unquote cs ↔
      IsIdentifier cs name ∨ Straddles cs ∧ name = unquote cs := by
  rw [Bool.or_eq_true]
  constructor
  · rintro ⟨hbare | hquoted, rfl⟩
    · rw [unquote_bare hbare ht]
      exact Or.inl (.bare hbare)
    · obtain ⟨o, q, inner, hq, rfl⟩ := isQuotedName_iff.mp hquoted
      by_cases hbody : ∃ body, inner = double (· == q) body
      · obtain ⟨body, rfl⟩ := hbody
        rw [unquote_quoted hq, undouble_double]
        exact Or.inl (.quoted hq body)
      · exact Or.inr ⟨⟨o, q, inner, hq, rfl, fun body hbody' => hbody ⟨body, hbody'⟩⟩, rfl⟩
  · rintro (hident | ⟨⟨o, q, inner, hq, rfl, -⟩, rfl⟩)
    · cases hident with
      | bare hbare => exact ⟨Or.inl hbare, (unquote_bare hbare ht).symm⟩
      | quoted hq =>
          refine ⟨Or.inr (isQuotedName_iff.mpr ⟨_, _, _, hq, rfl⟩), ?_⟩
          exact ((unquote_quoted hq _).trans (undouble_double _ name)).symm
    · exact ⟨Or.inr (isQuotedName_iff.mpr ⟨o, q, inner, hq, rfl⟩), rfl⟩

/-! ## References -/

/-- Identifiers with dots between them, of which only the last has to be there: it is the name. -/
def References (cs name : List Char) : Prop :=
  ∃ parts last, DottedInto cs (parts ++ [last]) ∧
    (∀ part ∈ parts, trim part = [] ∨ ∃ other, IsIdentifier (trim part) other) ∧
    IsIdentifier (trim last) name

theorem splitAlias_of_unaliased {cs : List Char} (h : (splitAlias cs).2 = none) :
    splitAlias cs = (tidy cs, none) := by
  rcases splitAlias_cases cs with heq | ⟨_, _, _, name, -, -, -, heq⟩
  · exact heq
  · rw [heq] at h
    cases h

section
variable {cs name : List Char} (h : (splitAlias cs).2 = none)
include h

theorem runtimeName_dotted {parts : List (List Char)} {last : List Char}
    (hparts : DottedInto (tidy cs) (parts ++ [last])) :
    runtimeName cs = some name ↔
      ((isBareName (trim last) || isQuotedName (trim last)) = true ∧ name = unquote (trim last)) ∧
        ∀ part ∈ parts, trim part = [] ∨
          (isBareName (trim part) || isQuotedName (trim part)) = true := by
  rw [runtimeName, splitAlias_of_unaliased h]
  simp only [← dottedInto_iff.mp hparts, List.map_append, List.map_singleton,
    List.getLast?_concat, List.all_append, List.all_map, Option.ite_none_right_eq_some,
    Option.some.injEq, Bool.and_eq_true, List.all_eq_true]
  simp only [Function.comp_apply, Bool.or_eq_true, List.isEmpty_iff, List.mem_singleton,
    forall_eq, or_assoc]
  constructor
  · rintro ⟨⟨hlast, hothers, -⟩, hname⟩
    exact ⟨⟨hlast, hname.symm⟩, hothers⟩
  · rintro ⟨⟨hlast, hname⟩, hothers⟩
    exact ⟨⟨hlast, hothers, Or.inr hlast⟩, hname.symm⟩

/-- The name that is read off a fragment without an alias: that of a reference, in which a part may
also straddle. -/
theorem runtimeName_iff :
    runtimeName cs = some name ↔ ∃ parts last, DottedInto (tidy cs) (parts ++ [last]) ∧
      (∀ part ∈ parts, trim part = [] ∨ (∃ other, IsIdentifier (trim part) other) ∨
        Straddles (trim part)) ∧
      (IsIdentifier (trim last) name ∨
        Straddles (trim last) ∧ name = unquote (trim last)) := by
  have htaken (part : List Char) :
      (isBareName (trim part) || isQuotedName (trim part)) = true ↔
        (∃ other, IsIdentifier (trim part) other) ∨ Straddles (trim part) := by
    constructor
    · intro hname
      exact ((isName_iff (trimmed_trim part)).mp ⟨hname, rfl⟩).imp (⟨_, ·⟩) And.left
    · rintro (⟨other, hother⟩ | hstraddles)
      · exact ((isName_iff (trimmed_trim part)).mpr (Or.inl hother)).1
      · exact ((isName_iff (trimmed_trim part)).mpr (Or.inr ⟨hstraddles, rfl⟩)).1
  simp only [← htaken, ← isName_iff (trimmed_trim _)]
  constructor
  · intro hname
    obtain ⟨parts, last, hparts⟩ := exists_dottedInto (tidy cs)
    obtain ⟨hlast, hothers⟩ := (runtimeName_dotted h hparts).mp hname
    exact ⟨parts, last, hparts, hothers, hlast⟩
  · rintro ⟨parts, last, hparts, hothers, hlast⟩
    exact (runtimeName_dotted h hparts).mpr ⟨hlast, hothers⟩

/-- A reference names its column. -/
theorem References.runtimeName (href : References (tidy cs) name) :
    runtimeName cs = some name := by
  obtain ⟨parts, last, hparts, hothers, hlast⟩ := href
  exact (runtimeName_iff h).mpr
    ⟨parts, last, hparts, fun part hpart => (hothers part hpart).imp_right Or.inl, Or.inl hlast⟩

/-- Where no part straddles, a fragment that names its column is a reference. -/
theorem references_of_runtimeName (hname : Crosstab.runtimeName cs = some name)
    (hstraddle : ∀ parts, DottedInto (tidy cs) parts → ∀ part ∈ parts, ¬ Straddles (trim part)) :
    References (tidy cs) name := by
  obtain ⟨parts, last, hparts, hothers, hlast⟩ := (runtimeName_iff h).mp hname
  have hnone := List.forall_mem_append.mp (hstraddle _ hparts)
  refine ⟨parts, last, hparts, fun part hpart => ?_, ?_⟩
  · exact (hothers part hpart).imp_right (Or.resolve_right · (hnone.1 part hpart))
  · exact hlast.resolve_right fun h => hnone.2 last (List.mem_singleton_self _) h.1

end

end Crosstab
