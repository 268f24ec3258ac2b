import Crosstab.Proofs.DatasetNames
import Crosstab.Proofs.Rendering

/-!
# Texts without a tag

PostgreSQL quotes a whole program between two tags `$aggsql$`, and nothing between them can be
escaped. So what matters about a text is whether the tag occurs in it (`Untagged`).

A tag begins and ends in a dollar sign, which no word of a statement has. Pasting such a word in
front of a text or behind it makes no tag (`Untagged.before`, `Untagged.after`), and two texts that
it stands between share no tag if it has a character that the tag has not (`Untagged.fenced`).
Doubling quotes and reading doubled quotes back make none either (`Requoted.isInfix`).
-/

namespace Crosstab

/-! ## Texts without the tag -/

/-- What a block is opened and ended by. -/
def blockTag : String := "$aggsql$"

/-- A text in which the tag does not occur. -/
def Untagged (s : String) : Prop := ¬ blockTag.toList <:+: s.toList

instance (s : String) : Decidable (Untagged s) :=
  inferInstanceAs (Decidable (¬ blockTag.toList <:+: s.toList))

/-- A word that has no share in the ends of a tag. -/
def isOwn (w : String) : Bool := w.toList.all (· != '$')

/-- A word that cannot be part of a tag. -/
def isFence (w : String) : Bool := isOwn w && w.toList.any (!blockTag.toList.contains ·)

theorem not_mem_of_isOwn {w : String} (hw : isOwn w = true) : '$' ∉ w.toList := by
  intro hmem
  have hne := List.all_eq_true.mp hw '$' hmem
  cases hne

/-- Both parts of a tag that is cut in two have one of its ends. -/
theorem mem_of_blockTag_eq {as bs : List Char} (h : blockTag.toList = as ++ bs) (ha : as ≠ [])
    (hb : bs ≠ []) : '$' ∈ as ∧ '$' ∈ bs := by
  constructor
  · obtain ⟨c, rest, rfl⟩ := List.exists_cons_of_ne_nil ha
    have hhead : some '$' = some c := congrArg List.head? h
    cases hhead
    exact List.mem_cons_self ..
  · have hlast : some '$' = (as ++ bs).getLast? := h ▸ rfl
    rw [List.getLast?_append_of_ne_nil as hb] at hlast
    exact List.mem_of_getLast? hlast.symm

/-- A tag in two texts pasted together is in one of them, or each has a part of it. -/
theorem untagged_append {s t : String} (hs : Untagged s) (ht : Untagged t)
    (hcut : ∀ as bs, blockTag.toList = as ++ bs → '$' ∈ as → '$' ∈ bs → as <:+ s.toList →
      ¬ bs <+: t.toList) : Untagged (s ++ t) := by
  intro hmem
  rw [String.toList_append, List.infix_append_iff_ne_nil] at hmem
  obtain hleft | hright | ⟨as, bs, ha, hb, heq, hsuffix, hbegin⟩ := hmem
  · exact hs hleft
  · exact ht hright
  · obtain ⟨hstart, hend⟩ := mem_of_blockTag_eq heq ha hb
    exact hcut as bs heq hstart hend hsuffix hbegin

namespace Untagged

variable {s t w : String}

theorem of_isInfix (h : Untagged s) (hwithin : t.toList <:+: s.toList) : Untagged t :=
  fun htag => h (htag.trans hwithin)

theorem own (hw : isOwn w = true) : Untagged w := by
  intro htag
  have hmem : '$' ∈ blockTag.toList := by decide
  exact not_mem_of_isOwn hw (htag.subset hmem)

theorem before (hw : isOwn w = true) (h : Untagged s) : Untagged (w ++ s) := by
  refine untagged_append (own hw) h fun as bs _ hstart _ hsuffix => ?_
  exact absurd (hsuffix.subset hstart) (not_mem_of_isOwn hw)

theorem after (h : Untagged s) (hw : isOwn w = true) : Untagged (s ++ w) := by
  refine untagged_append h (own hw) fun as bs _ _ hend _ hbegin => ?_
  exact not_mem_of_isOwn hw (hbegin.subset hend)

/-- A tag that reaches from one side of a fence to the other would contain the fence. -/
theorem fenced (hs : Untagged s) (hw : isFence w = true) (ht : Untagged t) :
    Untagged (s ++ w ++ t) := by
  obtain ⟨hown, hany⟩ := Bool.and_eq_true_iff.mp hw
  obtain ⟨c, hc, hfence⟩ := List.any_eq_true.mp hany
  refine untagged_append (hs.after hown) ht fun as bs heq hstart _ hsuffix _ => ?_
  rw [String.toList_append] at hsuffix
  -- The front of the tag lies within the fence, where there is no dollar sign, or holds all of it.
  rcases List.suffix_or_suffix_of_suffix hsuffix (List.suffix_append ..) with hinside | hacross
  · exact not_mem_of_isOwn hown (hinside.subset hstart)
  · have hmem : c ∈ blockTag.toList := heq ▸ List.mem_append_left bs (hacross.subset hc)
    simp [hmem] at hfence

end Untagged

/-! ## Quoting and unquoting -/

/-- Two texts that differ in how often a doubled character is written in one place. -/
inductive Requoted (p : Char → Bool) : List Char → List Char → Prop where
  | nil : Requoted p [] []
  | keep (c : Char) {as bs : List Char} (h : Requoted p as bs) : Requoted p (c :: as) (c :: bs)
  | double {c : Char} (hc : p c = true) {as bs : List Char} (h : Requoted p as bs) :
      Requoted p (c :: as) (c :: c :: bs)
  | undouble {c : Char} (hc : p c = true) {as bs : List Char} (h : Requoted p as bs) :
      Requoted p (c :: c :: as) (c :: bs)

theorem requoted_double (p : Char → Bool) (cs : List Char) : Requoted p cs (double p cs) := by
  induction cs with
  | nil => exact .nil
  | cons c cs ih =>
      cases hc : p c with
      | true =>
          rw [double_cons_pos hc]
          exact .double hc ih
      | false =>
          rw [double_cons_neg hc]
          exact .keep c ih

theorem requoted_undouble (q : Char) (cs : List Char) :
    Requoted (· == q) cs (undouble q cs) := by
  induction cs using undouble.induct (q := q) with
  | case1 => exact .nil
  | case2 c => exact .keep c .nil
  | case3 c d rest hpair ih =>
      obtain ⟨rfl, rfl⟩ := hpair
      rw [undouble, if_pos ⟨rfl, rfl⟩]
      exact .undouble (p := (· == d)) (beq_self_eq_true d) ih
  | case4 c d rest hpair ih =>
      rw [undouble, if_neg hpair]
      exact .keep c ih

section
variable {p : Char → Bool} {tag as bs : List Char} (hp : tag.all (!p ·) = true)
include hp

/-- No doubled character begins a text without any. -/
theorem eq_nil_of_prefix_cons {c : Char} (hc : p c = true) (h : tag <+: c :: bs) : tag = [] := by
  cases tag with
  | nil => rfl
  | cons d tag =>
      obtain rfl := (List.cons_prefix_cons.mp h).1
      rw [List.all_cons, hc] at hp
      cases hp

theorem isInfix_of_cons_doubled {c : Char} (hc : p c = true) (h : tag <:+: c :: bs) :
    tag <:+: bs := by
  rcases List.infix_cons_iff.mp h with hstart | hrest
  · rw [eq_nil_of_prefix_cons hp hc hstart]
    exact List.nil_infix
  · exact hrest

theorem Requoted.isPrefix (h : Requoted p as bs) (htag : tag <+: bs) : tag <+: as := by
  -- Where both texts go on, what is left to find is the rest of the tag.
  induction h generalizing tag with
  | nil => exact htag
  | keep c h ih =>
      cases tag with
      | nil => exact List.nil_prefix
      | cons d tag =>
          obtain ⟨rfl, hrest⟩ := List.cons_prefix_cons.mp htag
          rw [List.all_cons, Bool.and_eq_true] at hp
          exact List.cons_prefix_cons.mpr ⟨rfl, ih hp.2 hrest⟩
  | double hc h ih | undouble hc h ih =>
      rw [eq_nil_of_prefix_cons hp hc htag]
      exact List.nil_prefix

/-- A text without doubled characters is found before the change as well. -/
theorem Requoted.isInfix (h : Requoted p as bs) (htag : tag <:+: bs) : tag <:+: as := by
  induction h with
  | nil => exact htag
  | keep c h ih =>
      rcases List.infix_cons_iff.mp htag with hstart | hrest
      · exact ((Requoted.keep c h).isPrefix hp hstart).isInfix
      · exact List.infix_cons (ih hrest)
  | double hc h ih =>
      have hrest := isInfix_of_cons_doubled hp hc (isInfix_of_cons_doubled hp hc htag)
      exact List.infix_cons (ih hrest)
  | undouble hc h ih =>
      have hrest := isInfix_of_cons_doubled hp hc htag
      exact List.infix_cons (List.infix_cons (ih hrest))

end

theorem Untagged.escapeLiteral {s : String} (h : Untagged s) :
    Untagged (Database.postgres.escapeLiteral s) := by
  rw [Untagged, Database.escapeLiteral, String.toList_ofList]
  exact fun htag => h ((requoted_double ..).isInfix (by decide) htag)

theorem Untagged.quoteIdent {s : String} (h : Untagged s) :
    Untagged (Database.postgres.quoteIdent s) := by
  have hbody : Untagged (String.ofList (double (· == '"') s.toList)) := by
    rw [Untagged, String.toList_ofList]
    exact fun htag => h ((requoted_double ..).isInfix (by decide) htag)
  have hquoted : Database.postgres.quoteIdent s =
      "\"" ++ String.ofList (double (· == '"') s.toList) ++ "\"" := by
    rw [← String.toList_inj]
    simp [Database.quoteIdent, Database.identQuotes, quoteWith]
  rw [hquoted]
  exact (hbody.before rfl).after rfl

/-! ## Expressions and names -/

theorem trim_isInfix (cs : List Char) : trim cs <:+: cs :=
  (dropTailWhile_isPrefix ..).isInfix.trans (List.dropWhile_suffix _).isInfix

theorem tidy_isInfix (cs : List Char) : tidy cs <:+: cs :=
  ((dropTailWhile_isPrefix ..).trans (dropTailWhile_isPrefix ..)).isInfix.trans (trim_isInfix cs)

theorem splitAlias_isInfix (cs : List Char) : (splitAlias cs).1 <:+: cs := by
  rcases splitAlias_cases cs with heq | ⟨before, b, rest, name, hcs, -, -, heq⟩
  · rw [heq]
    exact tidy_isInfix cs
  · have hbefore : before <+: tidy cs := ⟨b :: rest, hcs.symm⟩
    rw [heq]
    exact ((dropTailWhile_isPrefix ..).trans hbefore).isInfix.trans (tidy_isInfix cs)

/-- An alias is a part of the fragment, unquoted. -/
theorem splitAlias_name {cs name : List Char} (h : (splitAlias cs).2 = some name) :
    ∃ part, part <:+: cs ∧ name = unquote part := by
  unfold splitAlias at h
  dsimp only at h
  split at h
  · cases h
  · rename_i before tail hsplit
    -- The alias is read from behind the break, and that is an end of the fragment.
    have htail : tail.map Prod.fst <:+ tidy cs := by
      have hmarks := congrArg (List.map Prod.fst) (splitLast_some hsplit).1
      rw [marks, Cursor.map_fst_marks, List.map_append] at hmarks
      exact ⟨_, hmarks.symm⟩
    split at h
    · cases h
    · rename_i hname
      cases h
      have hdrop := (List.drop_suffix 3 (tail.map Prod.fst)).trans htail
      exact ⟨trim ((tail.map Prod.fst).drop 3),
        (trim_isInfix _).trans (hdrop.isInfix.trans (tidy_isInfix cs)), rfl⟩

theorem splitDots_isInfix (ms : List (Char × Bool)) :
    ∃ part parts, splitDots ms = part :: parts ∧ part <+: ms.map Prod.fst ∧
      ∀ other ∈ parts, other <:+: ms.map Prod.fst := by
  induction ms with
  | nil => exact ⟨[], [], rfl, List.nil_prefix, by simp⟩
  | cons m ms ih =>
      obtain ⟨c, top⟩ := m
      obtain ⟨part, parts, hsplit, hpart, hparts⟩ := ih
      rw [splitDots]
      split
      · refine ⟨[], splitDots ms, rfl, List.nil_prefix, fun other hother => ?_⟩
        rw [hsplit] at hother
        rcases List.mem_cons.mp hother with rfl | hmem
        · exact List.infix_cons hpart.isInfix
        · exact List.infix_cons (hparts other hmem)
      · rw [hsplit]
        exact ⟨c :: part, parts, rfl, List.cons_prefix_cons.mpr ⟨rfl, hpart⟩,
          fun other hother => List.infix_cons (hparts other hother)⟩

theorem infix_of_mem_splitDots {ms : List (Char × Bool)} {part : List Char}
    (h : part ∈ splitDots ms) : part <:+: ms.map Prod.fst := by
  obtain ⟨first, parts, hsplit, hfirst, hparts⟩ := splitDots_isInfix ms
  rw [hsplit] at h
  rcases List.mem_cons.mp h with rfl | hmem
  · exact hfirst.isInfix
  · exact hparts part hmem

/-- A tag holds no identifier quote, so unquoting brings none about. -/
theorem infix_of_unquote {cs : List Char} (h : blockTag.toList <:+: unquote cs) :
    blockTag.toList <:+: cs := by
  refine List.IsInfix.trans ?_ (trim_isInfix cs)
  unfold unquote at h
  split at h
  · exact absurd (List.infix_nil.mp h) (by decide)
  · rename_i c rest htrim
    rw [htrim]
    split at h
    · exact h
    · rename_i closer hcloser
      split at h
      · -- Only here quotes are undoubled.
        have hp : blockTag.toList.all (!(· == closer) ·) = true := by
          have hclosers : closer = ']' ∨ closer = '\x60' ∨ closer = '"' := by
            unfold identCloser? at hcloser
            split at hcloser <;> cases hcloser <;> simp
          rcases hclosers with rfl | rfl | rfl <;> decide
        have hbody := (requoted_undouble closer rest.dropLast).isInfix hp h
        exact List.infix_cons (hbody.trans (List.dropLast_prefix rest).isInfix)
      · exact h

theorem infix_of_runtimeName {cs name : List Char} (h : runtimeName cs = some name)
    (htag : blockTag.toList <:+: name) : blockTag.toList <:+: cs := by
  unfold runtimeName at h
  split at h
  · rename_i hsplit
    cases h
    obtain ⟨part, hpart, rfl⟩ := splitAlias_name (congrArg Prod.snd hsplit)
    exact (infix_of_unquote htag).trans hpart
  · rename_i body hsplit
    have hbody := splitAlias_isInfix cs
    rw [hsplit] at hbody
    dsimp only at h
    split at h
    · cases h
    · rename_i last hlast
      split at h
      · cases h
        obtain ⟨part, hpart, rfl⟩ := List.mem_map.mp (List.mem_of_getLast? hlast)
        have hmarks : part <:+: body := by
          have hwithin := infix_of_mem_splitDots hpart
          rwa [marks, Cursor.map_fst_marks] at hwithin
        exact (infix_of_unquote htag).trans ((trim_isInfix part).trans (hmarks.trans hbody))
      · cases h

theorem Untagged.expression {line : Line} (h : Untagged line.text) : Untagged line.expression := by
  refine h.of_isInfix ?_
  rw [Line.expression, String.toList_ofList]
  exact splitAlias_isInfix _

theorem Untagged.columnName {text name : String} (h : Untagged text)
    (hname : columnName text = .ok name) : Untagged name :=
  fun htag => h (infix_of_runtimeName (columnName_ok.mp hname) htag)

theorem Untagged.trimText {s : String} (h : Untagged s) : Untagged (trimText s) := by
  refine h.of_isInfix ?_
  rw [Crosstab.trimText, String.toList_ofList]
  exact trim_isInfix _

/-! ## Clauses -/

section
variable {texts : List String} (h : ∀ s ∈ texts, Untagged s)
include h

theorem untagged_intercalate {separator : String} (hsep : isFence separator = true) :
    Untagged (separator.intercalate texts) := by
  induction texts with
  | nil => exact .own rfl
  | cons s texts ih =>
      obtain ⟨hs, htexts⟩ := List.forall_mem_cons.mp h
      cases texts with
      | nil =>
          rw [String.intercalate_singleton]
          exact hs
      | cons t texts =>
          rw [String.intercalate_cons_cons]
          exact hs.fenced hsep (ih htexts)

theorem untagged_indentLines {s : String} (hs : Untagged s) :
    Untagged (s ++ indentLines texts) := by
  induction texts generalizing s with
  | nil => exact hs.after rfl
  | cons line texts ih =>
      obtain ⟨hline, htexts⟩ := List.forall_mem_cons.mp h
      have hcons : s ++ indentLines (line :: texts) = s ++ "\n" ++ line ++ indentLines texts := by
        simp only [indentLines, List.foldr_cons, String.append_assoc]
      rw [hcons]
      exact ih htexts (hs.fenced rfl hline)

theorem untagged_conjunction : Untagged (conjunction texts) := by
  unfold conjunction
  split
  · exact .own rfl
  · exact h _ (List.mem_singleton_self _)
  · refine untagged_intercalate (List.forall_mem_map.mpr fun predicate hmem => ?_) rfl
    have htrim := (h predicate hmem).trimText
    unfold groupPredicate
    split
    · exact htrim
    · exact (htrim.before rfl).after rfl

theorem untagged_clause {keyword separator : String} (hkeyword : isOwn keyword = true)
    (hsep : isFence separator = true) : ∀ s ∈ clause keyword separator texts, Untagged s := by
  unfold clause
  split
  · simp
  · exact List.forall_mem_singleton.mpr ((untagged_intercalate h hsep).before hkeyword)

theorem untagged_predicateClause {keyword : String} (hkeyword : isOwn keyword = true) :
    ∀ s ∈ predicateClause keyword texts, Untagged s := by
  unfold predicateClause
  split
  · simp
  · exact List.forall_mem_singleton.mpr ((untagged_conjunction h).before hkeyword)

end

theorem Untagged.castToText {s : String} (h : Untagged s) :
    Untagged (Database.postgres.castToText s) :=
  (h.before rfl).after rfl

theorem Untagged.datePart {s : String} (h : Untagged s) (increment : Increment) :
    Untagged (Database.postgres.datePart increment s) := by
  cases increment <;> exact (h.before rfl).after rfl

theorem Untagged.aliased {s name : String} (h : Untagged s) (hname : Untagged name) :
    Untagged (Database.postgres.aliased s name) :=
  h.fenced rfl hname.quoteIdent

/-! ## Statements -/

/-- A common table expression of texts without the tag. -/
structure Cte.UntaggedParts (cte : Cte) : Prop where
  name : Untagged cte.name
  columns : cte.columns = []
  body : Untagged cte.body

theorem Cte.UntaggedParts.renderWith {cte : Cte} (h : cte.UntaggedParts) :
    Untagged (Crosstab.renderWith .postgres [cte]) := by
  have hkeyword : isOwn (withKeyword .postgres [cte]) = true := by
    unfold withKeyword
    split <;> rfl
  have hcte : Untagged cte.render := by
    have hrender : cte.render = cte.name ++ "" ++ " AS (\n" ++ cte.body ++ "\n)" := by
      rw [Cte.render, h.columns]
      rfl
    rw [hrender]
    exact ((h.name.after rfl).fenced rfl h.body).after rfl
  rw [renderWith_singleton]
  exact hcte.before hkeyword

theorem Query.untagged_trailingLimit (query : Query) :
    ∀ s ∈ query.trailingLimit .postgres, Untagged s := by
  unfold Query.trailingLimit
  cases query.limit with
  | none => simp
  | some n =>
      have hn : isOwn (toString n) = true := by
        refine List.all_eq_true.mpr fun c hc => bne_iff_ne.mpr ?_
        have hdigits : c ∈ Nat.toDigits 10 n := by simpa using hc
        rintro rfl
        have hdigit := Nat.isDigit_of_mem_toDigits (by decide) (by decide) hdigits
        cases hdigit
      exact List.forall_mem_singleton.mpr ((Untagged.own hn).before rfl)

/-- A query of texts without the tag, of which at most one is a common table expression. -/
structure Query.UntaggedParts (query : Query) : Prop where
  preSelect : ∀ s ∈ query.preSelect, Untagged s
  ctes : query.ctes = [] ∨ ∃ cte, query.ctes = [cte] ∧ cte.UntaggedParts
  select : ∀ s ∈ query.select, Untagged s
  tables : ∀ s ∈ query.tables, Untagged s
  filters : ∀ s ∈ query.filters, Untagged s
  groupBy : ∀ s ∈ query.groupBy, Untagged s
  having : ∀ s ∈ query.having, Untagged s
  orderBy : ∀ s ∈ query.orderBy, Untagged s
  trailing : ∀ s ∈ query.trailing, Untagged s

namespace Query.UntaggedParts

variable {query : Query} (h : query.UntaggedParts)
include h

theorem selectClause : Untagged (query.selectClause .postgres) := by
  have hkeyword : query.selectKeyword .postgres = "SELECT " := by
    unfold selectKeyword
    cases query.limit <;> rfl
  rw [Query.selectClause, hkeyword]
  exact (untagged_intercalate h.select rfl).before rfl

theorem head : Untagged (query.head .postgres) := by
  refine untagged_intercalate (List.forall_mem_append.mpr
    ⟨List.forall_mem_append.mpr ⟨h.preSelect, ?_⟩, ?_⟩) rfl
  · rcases h.ctes with hnone | ⟨cte, hone, hcte⟩
    · simp [hnone]
    · rw [hone]
      exact List.forall_mem_singleton.mpr hcte.renderWith
  · exact List.forall_mem_singleton.mpr h.selectClause

theorem tailLines : ∀ s ∈ query.tailLines .postgres, Untagged s := by
  simp only [Query.tailLines, List.forall_mem_append]
  exact ⟨⟨⟨⟨⟨⟨untagged_clause h.tables rfl rfl, untagged_predicateClause h.filters rfl⟩,
    untagged_clause h.groupBy rfl rfl⟩, untagged_predicateClause h.having rfl⟩,
    untagged_clause h.orderBy rfl rfl⟩, query.untagged_trailingLimit⟩, h.trailing⟩

theorem tail : Untagged (query.tail .postgres) := by
  have hlines := untagged_indentLines h.tailLines (Untagged.own (w := "") rfl)
  rwa [String.empty_append] at hlines

theorem render : Untagged (query.render .postgres) := untagged_indentLines h.tailLines h.head

end Query.UntaggedParts

end Crosstab
