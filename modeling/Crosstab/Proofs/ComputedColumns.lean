import Crosstab.Proofs.Acceptance
import Crosstab.Proofs.References

/-!
# Computed columns have no name

A fragment without an alias that is no column reference is computed, and nothing about it says what
its column is called. Over a date axis such a select is refused by its text, as the first of the
named selects that has no name.

The one thing that can go wrong is a part that straddles. A text that begins with a quote and ends
with its closer is taken for one identifier, and the quotes of two of them pass for the quotes of
one: `[a] + [b]` is called `a] + [b` (`bracketed_sum_named`). So the theorem is about fragments in
which no part does, and it says of two identifiers around an operator when that is: when they are
quoted differently.
-/

namespace Crosstab

/-- The fragment has no alias and refers to no column. -/
def Computed (cs : List Char) : Prop :=
  (splitAlias cs).2 = none ∧ ∀ name, ¬ References (tidy cs) name

/-- No part between the dots of the fragment straddles. -/
def WellQuoted (cs : List Char) : Prop :=
  ∀ parts, DottedInto (tidy cs) parts → ∀ part ∈ parts, ¬ Straddles (trim part)

theorem Computed.runtimeName {cs : List Char} (h : Computed cs) (hquoted : WellQuoted cs) :
    runtimeName cs = none := by
  cases hname : Crosstab.runtimeName cs with
  | none => rfl
  | some name => exact absurd (references_of_runtimeName h.1 hname hquoted) (h.2 name)

/-! ## Two identifiers around an operator -/

section
variable {o₁ q₁ o₂ q₂ : Char} (h₁ : identCloser? o₁ = some q₁) (h₂ : identCloser? o₂ = some q₂)
variable (body₁ body₂ op : List Char)

/-- Two quoted identifiers and what stands between them. -/
def joined (o₁ q₁ : Char) (body₁ op : List Char) (o₂ q₂ : Char) (body₂ : List Char) : List Char :=
  quoteWith o₁ q₁ body₁ ++ op ++ quoteWith o₂ q₂ body₂

theorem joined_eq : joined o₁ q₁ body₁ op o₂ q₂ body₂ =
    o₁ :: (double (· == q₁) body₁ ++ q₁ :: (op ++ o₂ :: double (· == q₂) body₂) ++ [q₂]) := by
  simp [joined, quoteWith]

include h₁ h₂

theorem trimmed_joined : Trimmed (joined o₁ q₁ body₁ op o₂ q₂ body₂) ∧
    (joined o₁ q₁ body₁ op o₂ q₂ body₂).getLast? ≠ some ',' := by
  have hlast : (joined o₁ q₁ body₁ op o₂ q₂ body₂).getLast? = some q₂ := by
    rw [joined_eq, ← List.cons_append, List.getLast?_concat]
  refine ⟨⟨fun c hc => ?_, fun c hc => ?_⟩, ?_⟩
  · rw [joined_eq] at hc
    exact Option.some.inj hc ▸ (not_blank_of_identCloser? h₁).1
  · rw [hlast] at hc
    exact Option.some.inj hc ▸ (not_blank_of_identCloser? h₂).2
  · rw [hlast, Ne, Option.some.injEq]
    rintro rfl
    unfold identCloser? at h₂
    split at h₂ <;> cases h₂

theorem tidy_joined : tidy (joined o₁ q₁ body₁ op o₂ q₂ body₂) =
    joined o₁ q₁ body₁ op o₂ q₂ body₂ := by
  obtain ⟨htrimmed, hcomma⟩ := trimmed_joined h₁ h₂ body₁ body₂ op
  exact tidy_eq_self htrimmed hcomma

/-- It is taken for a quoted name if its first quote and its last go together. -/
theorem isName_joined : (isBareName (joined o₁ q₁ body₁ op o₂ q₂ body₂) ||
    isQuotedName (joined o₁ q₁ body₁ op o₂ q₂ body₂)) = true ↔ q₁ = q₂ := by
  rw [joined_eq, not_isBareName_of_identCloser? h₁, Bool.false_or, isQuotedName_iff]
  constructor
  · rintro ⟨o, q, inner, hq, heq⟩
    obtain ⟨rfl, htail⟩ := List.cons.inj heq
    have hlast := List.append_inj_right' htail rfl
    rw [h₁] at hq
    rw [Option.some.inj hq, List.cons.inj hlast |>.1]
  · rintro rfl
    exact ⟨o₁, q₁, _, h₁, rfl⟩

variable {op} (hne : op ≠ []) (hop : ∀ c ∈ op, isInert c = true ∧ c ≠ '.')
include hne hop

theorem marks_joined : marks (joined o₁ q₁ body₁ op o₂ q₂ body₂) =
    (quoteWith o₁ q₁ body₁).map (·, false) ++
      (op.map (·, true) ++ (quoteWith o₂ q₂ body₂).map (·, false)) := by
  obtain ⟨c, op, rfl⟩ := List.exists_cons_of_ne_nil hne
  obtain ⟨hc, hop⟩ := List.forall_mem_cons.mp hop
  rw [joined, List.append_assoc, List.cons_append,
    marks_quoteWith_append (closer?_of_identCloser? h₁) body₁ hc.1,
    marks_inert_append fun x hx => (hop x hx).1, marks_quoteWith (closer?_of_identCloser? h₂)]
  rfl

theorem dottedInto_joined : DottedInto (joined o₁ q₁ body₁ op o₂ q₂ body₂)
    [joined o₁ q₁ body₁ op o₂ q₂ body₂] := by
  refine dottedInto_singleton fun hdot => ?_
  rw [marks_joined h₁ h₂ body₁ body₂ hne hop, List.mem_append, List.mem_append] at hdot
  -- Only the operator stands at the top level, and it has no dot.
  rcases hdot with hdot | hdot | hdot
  · obtain ⟨_, -, heq⟩ := List.mem_map.mp hdot
    cases heq
  · obtain ⟨c, hc, heq⟩ := List.mem_map.mp hdot
    exact (hop c hc).2 (congrArg Prod.fst heq)
  · obtain ⟨_, -, heq⟩ := List.mem_map.mp hdot
    cases heq

/-- One identifier would have nothing at the top level. -/
theorem not_isIdentifier_joined (name : List Char) :
    ¬ IsIdentifier (joined o₁ q₁ body₁ op o₂ q₂ body₂) name := by
  intro hident
  have hmarks := marks_joined h₁ h₂ body₁ body₂ hne hop
  generalize hcs : joined o₁ q₁ body₁ op o₂ q₂ body₂ = cs at hident hmarks
  cases hident with
  | bare hbare =>
      rw [← hcs, joined_eq, not_isBareName_of_identCloser? h₁] at hbare
      cases hbare
  | quoted hq =>
      obtain ⟨c, hc⟩ := List.exists_mem_of_ne_nil op hne
      have htop := List.mem_append_right ((quoteWith o₁ q₁ body₁).map (·, false))
        (List.mem_append_left ((quoteWith o₂ q₂ body₂).map (·, false))
          (List.mem_map_of_mem (f := (·, true)) hc))
      rw [← hmarks, marks_quoteWith (closer?_of_identCloser? hq)] at htop
      obtain ⟨_, -, heq⟩ := List.mem_map.mp htop
      cases heq

theorem dottedInto_joined_iff {parts : List (List Char)} :
    DottedInto (tidy (joined o₁ q₁ body₁ op o₂ q₂ body₂)) parts ↔
      parts = [joined o₁ q₁ body₁ op o₂ q₂ body₂] := by
  have hone := dottedInto_iff.mp (dottedInto_joined h₁ h₂ body₁ body₂ hne hop)
  rw [tidy_joined h₁ h₂ body₁ body₂ op, dottedInto_iff, ← hone]

theorem computed_joined (hnone : (splitAlias (joined o₁ q₁ body₁ op o₂ q₂ body₂)).2 = none) :
    Computed (joined o₁ q₁ body₁ op o₂ q₂ body₂) := by
  refine ⟨hnone, fun name ⟨parts, last, hparts, _, hlast⟩ => ?_⟩
  rw [dottedInto_joined_iff h₁ h₂ body₁ body₂ hne hop] at hparts
  obtain rfl : last = joined o₁ q₁ body₁ op o₂ q₂ body₂ := by
    simpa using congrArg List.getLast? hparts
  rw [(trimmed_joined h₁ h₂ body₁ body₂ op).1.trim] at hlast
  exact not_isIdentifier_joined h₁ h₂ body₁ body₂ hne hop name hlast

theorem wellQuoted_joined (hq : q₁ ≠ q₂) :
    WellQuoted (joined o₁ q₁ body₁ op o₂ q₂ body₂) := by
  intro parts hparts part hpart hstraddles
  rw [dottedInto_joined_iff h₁ h₂ body₁ body₂ hne hop] at hparts
  obtain rfl := List.mem_singleton.mp (hparts ▸ hpart)
  rw [(trimmed_joined h₁ h₂ body₁ body₂ op).1.trim] at hstraddles
  obtain ⟨o, q, inner, hcloser, heq, -⟩ := hstraddles
  refine hq ((isName_joined h₁ h₂ body₁ body₂ op).mp ?_)
  rw [isQuotedName_iff.mpr ⟨o, q, inner, hcloser, heq⟩, Bool.or_true]

theorem runtimeName_joined
    (hnone : (splitAlias (joined o₁ q₁ body₁ op o₂ q₂ body₂)).2 = none) :
    runtimeName (joined o₁ q₁ body₁ op o₂ q₂ body₂) = none ↔ q₁ ≠ q₂ := by
  have hparts := (dottedInto_joined_iff h₁ h₂ body₁ body₂ hne hop).mpr
    (List.nil_append [joined o₁ q₁ body₁ op o₂ q₂ body₂])
  have hname (name : List Char) : runtimeName _ = some name ↔ _ :=
    runtimeName_dotted hnone hparts
  rw [(trimmed_joined h₁ h₂ body₁ body₂ op).1.trim, isName_joined h₁ h₂] at hname
  simp [Option.eq_none_iff_forall_ne_some, hname]

end

/-! ## In a request -/

section
variable {request : Request} {before after : List Line} {line : Line}
variable (hlines : request.namedSelects = before ++ line :: after)
variable (hbefore : ∀ other ∈ before, other.columnName?.isSome = true)
variable (hunnamed : runtimeName line.text.toList = none)
include hlines hbefore hunnamed

/-- Of the named selects the first without a name is the one reported. -/
theorem findSome?_unnamed :
    request.namedSelects.findSome? Line.unnamed? = some (.ambiguousAlias line.text) := by
  have hnone : before.findSome? Line.unnamed? = none :=
    List.findSome?_eq_none_iff.mpr fun other hother => if_pos (hbefore other hother)
  have hline : line.unnamed? = some (.ambiguousAlias line.text) := by
    simp [Line.unnamed?, Line.columnName?, hunnamed]
  rw [hlines, List.findSome?_append, hnone, List.findSome?_cons, hline, Option.none_or]

theorem resolve_unnamed (haxis : request.axisSelect?.isSome = true)
    (hcount : request.countSelect?.isSome = true) (shape : Shape) :
    DatasetNames.resolve request shape = .error (.ambiguousAlias line.text) := by
  obtain ⟨axis, haxis⟩ := Option.isSome_iff_exists.mp haxis
  obtain ⟨count, hcount⟩ := Option.isSome_iff_exists.mp hcount
  rw [← fault?_eq_some, fault?_resolve haxis hcount]
  exact findSome?_unnamed hlines hbefore hunnamed

theorem build_unnamed {db : Database} (hvalid : request.validate = .ok ())
    (hcomplete : (Shape.classify request).checkRequirements request = .ok ())
    (haxis : (Shape.classify request).usesAxis = true)
    (hrun : (Shape.classify request).usesPivot = true → db ≠ .sqlite) (config : Config) :
    build config db request = .error (.ambiguousAlias line.text) := by
  have hname : (Shape.classify request).nameFault? request = some (.ambiguousAlias line.text) :=
    (if_pos haxis).trans (findSome?_unnamed hlines hbefore hunnamed)
  rw [← fault?_eq_some, fault?_build, firstFault?, fault?_unit.mpr hvalid,
    fault?_unit.mpr hcomplete, runFault?_eq_none.mpr hrun, hname]
  rfl

end

/-! ## The headline -/

/-- **A fragment has a name to be read off only if it is a column reference**, as long as no part of
it straddles. Two quoted identifiers around an operator have none, if they are quoted differently;
and over an axis the first select without a name stops both the dataset and the whole synthesis. -/
theorem computed_columns_unnamed {cs : List Char} (hnone : (splitAlias cs).2 = none) :
    (WellQuoted cs → ∀ name, runtimeName cs = some name ↔ References (tidy cs) name) ∧
    (∀ o₁ q₁ body₁ op o₂ q₂ body₂, identCloser? o₁ = some q₁ → identCloser? o₂ = some q₂ →
      op ≠ [] → (∀ c ∈ op, isInert c = true ∧ c ≠ '.') → cs = joined o₁ q₁ body₁ op o₂ q₂ body₂ →
      Computed cs ∧ (q₁ ≠ q₂ → WellQuoted cs) ∧ (runtimeName cs = none ↔ q₁ ≠ q₂)) ∧
    (WellQuoted cs → Computed cs → ∀ (request : Request) before line after,
      line.text.toList = cs → request.namedSelects = before ++ line :: after →
      (∀ other ∈ before, other.columnName?.isSome = true) →
      (∀ shape, request.axisSelect?.isSome = true → request.countSelect?.isSome = true →
        DatasetNames.resolve request shape = .error (.ambiguousAlias line.text)) ∧
      (∀ config db, request.validate = .ok () →
        (Shape.classify request).checkRequirements request = .ok () →
        (Shape.classify request).usesAxis = true →
        ((Shape.classify request).usesPivot = true → db ≠ .sqlite) →
        build config db request = .error (.ambiguousAlias line.text))) := by
  refine ⟨fun hquoted name => ⟨fun hname => ?_, (·.runtimeName hnone)⟩, ?_, ?_⟩
  · exact references_of_runtimeName hnone hname hquoted
  · rintro o₁ q₁ body₁ op o₂ q₂ body₂ h₁ h₂ hne hop rfl
    exact ⟨computed_joined h₁ h₂ body₁ body₂ hne hop hnone,
      wellQuoted_joined h₁ h₂ body₁ body₂ hne hop,
      runtimeName_joined h₁ h₂ body₁ body₂ hne hop hnone⟩
  · rintro hquoted hcomputed request before line after rfl hlines hbefore
    have hunnamed := hcomputed.runtimeName hquoted
    refine ⟨fun shape haxis hcount => ?_, fun config db hvalid hcomplete haxis hrun => ?_⟩
    · exact resolve_unnamed hlines hbefore hunnamed haxis hcount shape
    · exact build_unnamed hlines hbefore hunnamed hvalid hcomplete haxis hrun config

/-- A qualified column, and a sum of two that are quoted differently as the count over an axis. -/
theorem computed_columns_unnamed_sum :
    let count : Line := ⟨"[hits] + \"misses\"", .select, .count⟩
    let request : Request := ⟨[⟨"[day]", .select, .axis⟩, count, .plain .table "events",
      ⟨"[day]", .groupBy, .axis⟩], some ⟨"'2001-01-01'", "'2002-01-01'", .year⟩⟩
    References "t.[a]]b]".toList "a]b".toList ∧ Computed count.text.toList ∧
      WellQuoted count.text.toList ∧
      build {} .sqlServer request = .error (.ambiguousAlias count.text) := by
  intro count request
  have hcolumn : WellQuoted "t.[a]]b]".toList := by
    intro parts hparts part hpart ⟨o, q, inner, hq, heq, hnone⟩
    have hcut : parts = [['t'], "[a]]b]".toList] :=
      (dottedInto_iff.mp hparts).trans (by decide +kernel)
    rw [hcut, List.mem_pair] at hpart
    rcases hpart with rfl | rfl
    · obtain ⟨rfl, -⟩ := List.cons.inj heq
      cases hq
    · obtain ⟨rfl, htail⟩ := List.cons.inj heq
      cases hq
      exact hnone "a]b".toList (List.append_cancel_right htail.symm)
  obtain ⟨hrefers, -⟩ := @computed_columns_unnamed "t.[a]]b]".toList (by decide +kernel)
  obtain ⟨-, hjoined, hrefused⟩ := @computed_columns_unnamed count.text.toList (by decide +kernel)
  obtain ⟨hcomputed, hquoted, -⟩ := hjoined '[' ']' "hits".toList " + ".toList '"' '"'
    "misses".toList rfl rfl (by simp) (by simp [isInert, structural]) (by decide +kernel)
  have hquoted := hquoted (by decide)
  refine ⟨(hrefers hcolumn _).mp (by decide +kernel), hcomputed, hquoted, ?_⟩
  exact (hrefused hquoted hcomputed request [_] count [] rfl rfl (by decide +kernel)).2
    {} .sqlServer (by rfl) (by rfl) (by decide) (by decide)

/-- Quoted alike, the same sum is called by what stands between its outer quotes, and is built. -/
theorem bracketed_sum_named :
    let count : Line := ⟨"[hits] + [misses]", .select, .count⟩
    let request : Request := ⟨[⟨"[day]", .select, .axis⟩, count, .plain .table "events",
      ⟨"[day]", .groupBy, .axis⟩], some ⟨"'2001-01-01'", "'2002-01-01'", .year⟩⟩
    Computed count.text.toList ∧ columnName count.text = .ok "hits] + [misses" ∧
      ∃ sql, build {} .sqlServer request = .ok sql := by
  intro count request
  have hcount : count.text.toList =
      joined '[' ']' "hits".toList " + ".toList '[' ']' "misses".toList := by decide +kernel
  refine ⟨?_, by decide +kernel, ?_⟩
  · rw [hcount]
    exact computed_joined rfl rfl _ _ (by simp) (by simp [isInert, structural])
      (by decide +kernel)
  · rw [← fault?_eq_none, fault?_build]
    decide +kernel

end Crosstab
