import Crosstab.Stored.Request

/-!
# Decoding what was encoded

Each decoder undoes its encoder, whatever its notation is lenient about. A record without an
optional field is decoded like one in which the field has its default, at whichever position.
`InsertsField` says what that field does to the numbered fields, and a decoder that asks for fields
by their number passes over it (`demand_insert`) or reads the default (`orElse_insert`).
-/

namespace Crosstab

/-! ## Encoders and decoders -/

section
variable (rules : Leniency)

theorem Slot.word?_word (slot : Slot) :
    ((Value.text slot.word).word? rules (Slot.all.map Slot.word)).bind (Slot.all[·]?) =
      some slot := by
  show ((Slot.all.map Slot.word).idxOf? slot.word).bind (Slot.all[·]?) = some slot
  cases slot <;> decide +kernel

theorem Role.word?_word (role : Role) :
    ((Value.text role.word).word? rules (Role.all.map Role.word)).bind (Role.all[·]?) =
      some role := by
  show ((Role.all.map Role.word).idxOf? role.word).bind (Role.all[·]?) = some role
  cases role <;> decide +kernel

theorem Increment.parse_word (increment : Increment) :
    Increment.parse increment.word = .ok increment := by
  cases increment <;> rfl

theorem Line.ofValue?_toValue (line : Line) : ofValue? rules line.toValue = some line := by
  have hkeys : Value.fieldNumber? fieldNames (.text "text") = some (some 0) ∧
      Value.fieldNumber? fieldNames (.text "slot") = some (some 1) ∧
      Value.fieldNumber? fieldNames (.text "role") = some (some 2) := by decide +kernel
  have hfields : line.toValue.fields? rules fieldNames =
      some [(0, .text line.text), (1, .text line.slot.word), (2, .text line.role.word)] := by
    simp [toValue, Value.record, Value.fields?, Value.numberEntries, hkeys]
  simp [ofValue?, hfields, Fields.demand, Fields.orElse, Fields.get?, Value.text?,
    Slot.word?_word, Role.word?_word]

theorem AxisSpec.ofValue?_toValue (axis : AxisSpec) : ofValue? rules axis.toValue = some axis := by
  have hkeys : Value.fieldNumber? fieldNames (.text "start_date") = some (some 0) ∧
      Value.fieldNumber? fieldNames (.text "end_date") = some (some 1) ∧
      Value.fieldNumber? fieldNames (.text "increment") = some (some 2) := by decide +kernel
  have hfields : axis.toValue.fields? rules fieldNames =
      some [(0, .text axis.startDate), (1, .text axis.endDate),
        (2, .text axis.increment.word)] := by
    simp [toValue, Value.record, Value.fields?, Value.numberEntries, hkeys]
  simp [ofValue?, hfields, Fields.demand, Fields.get?, Value.text?, Increment.parse_word,
    Except.toOption]

theorem Request.linesOfValue?_map (lines : List Line) :
    linesOfValue? rules (.list (lines.map Line.toValue)) = some lines := by
  show (lines.map Line.toValue).mapM (Line.ofValue? rules) = some lines
  induction lines with
  | nil => rfl
  | cons line lines ih => simp [List.mapM_cons, Line.ofValue?_toValue, ih]

theorem optional?_axis (axis : Option AxisSpec) :
    Value.optional? (AxisSpec.ofValue? rules) (optionValue AxisSpec.toValue axis) = some axis := by
  cases axis with
  | none => rfl
  | some axis =>
      have hnull : axis.toValue ≠ .null := fun h => nomatch h
      rw [optionValue, Value.optional?.eq_2 _ _ hnull, AxisSpec.ofValue?_toValue]
      rfl

theorem optional?_description (description : Option String) :
    Value.optional? Value.text? (optionValue .text description) = some description := by
  cases description <;> rfl

theorem Request.ofFields?_toFields (request : Request) :
    ofFields? rules [(0, .list (request.lines.map Line.toValue)),
      (1, optionValue AxisSpec.toValue request.axis)] = some request := by
  simp [ofFields?, Fields.demand, Fields.orElse, Fields.get?, linesOfValue?_map, optional?_axis]

theorem Request.fieldNumber?_toFields :
    Value.fieldNumber? fieldNames (.text "lines") = some (some 0) ∧
      Value.fieldNumber? fieldNames (.text "axis") = some (some 1) := by
  decide +kernel

theorem Request.ofValue?_toValue (request : Request) :
    ofValue? rules request.toValue = some request := by
  have hfields : request.toValue.fields? rules fieldNames =
      some [(0, .list (request.lines.map Line.toValue)),
        (1, optionValue AxisSpec.toValue request.axis)] := by
    simp [toValue, toFields, Value.record, Value.fields?, Value.numberEntries,
      fieldNumber?_toFields]
  simp [ofValue?, hfields, ofFields?_toFields]

/-- The fields of a named request and those of its request are told apart by their names. -/
theorem NamedRequest.ofValue?_toValue (named : NamedRequest) :
    ofValue? named.toValue = some named := by
  have hown : Value.fieldNumber? fieldNames (.text "name") = some (some 0) ∧
      Value.fieldNumber? fieldNames (.text "description") = some (some 1) ∧
      Value.fieldNumber? fieldNames (.text "lines") = some none ∧
      Value.fieldNumber? fieldNames (.text "axis") = some none := by decide +kernel
  have hshared : Value.fieldNumber? Request.fieldNames (.text "name") = some none ∧
      Value.fieldNumber? Request.fieldNames (.text "description") = some none := by decide +kernel
  simp [ofValue?, toValue, Request.toFields, Value.record, Value.numberEntries, hown, hshared,
    Request.fieldNumber?_toFields, Fields.demand, Fields.orElse, Fields.get?, Value.text?,
    optional?_description, Request.ofFields?_toFields]

end

/-! ## Fields that are absent -/

theorem getElem?_of_fieldNumber? {names : List String} {key : String} {i : Nat}
    (h : Value.fieldNumber? names (.text key) = some (some i)) : names[i]? = some key := by
  have hfound : names.idxOf? key = some i := Option.some.inj h
  rw [List.idxOf?, List.findIdx?_eq_some_iff_getElem] at hfound
  obtain ⟨hlt, hkey, -⟩ := hfound
  rw [List.getElem?_eq_getElem hlt, beq_iff_eq.mp hkey]

section
variable {names : List String} {i : Nat}

theorem number_of_mem_numberEntries {entries : List (Value × Value)} {fields : Fields}
    (h : Value.numberEntries names entries = some fields) {field : Nat × Value}
    (hfield : field ∈ fields) :
    ∃ entry ∈ entries, Value.fieldNumber? names entry.1 = some (some field.1) := by
  induction entries generalizing fields with
  | nil =>
      cases h
      cases hfield
  | cons entry entries ih =>
      obtain ⟨key, value⟩ := entry
      rw [Value.numberEntries] at h
      split at h
      · rename_i j rest hkey hrest
        split at h
        · cases h
        · cases h
          rcases List.mem_cons.mp hfield with rfl | hmem
          · exact ⟨_, List.mem_cons_self, hkey⟩
          · obtain ⟨entry, hentry, hnumber⟩ := ih hrest hmem
            exact ⟨entry, List.mem_cons_of_mem _ hentry, hnumber⟩
      · rename_i rest _ hrest
        cases h
        obtain ⟨entry, hentry, hnumber⟩ := ih hrest hfield
        exact ⟨entry, List.mem_cons_of_mem _ hentry, hnumber⟩
      · cases h

/-- Both numberings fail, or the second has one field more, of a new number. -/
inductive InsertsField (i : Nat) (value : Value) : Option Fields → Option Fields → Prop where
  | refused : InsertsField i value none none
  | inserted (left right : Fields) (hother : ∀ field ∈ left ++ right, field.1 ≠ i) :
      InsertsField i value (some (left ++ right)) (some (left ++ (i, value) :: right))

theorem InsertsField.bind_eq {α : Type} {value : Value} {without given : Option Fields}
    (h : InsertsField i value without given) {f : Fields → Option α}
    (hf : ∀ left right, (∀ field ∈ left ++ right, field.1 ≠ i) →
      f (left ++ (i, value) :: right) = f (left ++ right)) :
    given.bind f = without.bind f := by
  cases h with
  | refused => rfl
  | inserted left right hother => exact hf left right hother

theorem numberEntries_insert {key : String}
    (hkey : Value.fieldNumber? names (.text key) = some (some i))
    {before after : List (Value × Value)}
    (hnone : ∀ entry ∈ before ++ after, Value.fieldNumber? names entry.1 ≠ some (some i))
    (value : Value) :
    InsertsField i value (Value.numberEntries names (before ++ after))
      (Value.numberEntries names (before ++ (.text key, value) :: after)) := by
  induction before with
  | nil =>
      rw [List.nil_append] at hnone ⊢
      rw [List.nil_append, Value.numberEntries, hkey]
      cases hafter : Value.numberEntries names after with
      | none => exact .refused
      | some fields =>
          have hother : ∀ field ∈ fields, field.1 ≠ i := by
            rintro field hfield rfl
            obtain ⟨entry, hentry, hnumber⟩ := number_of_mem_numberEntries hafter hfield
            exact hnone entry hentry hnumber
          have hany : fields.any (·.1 == i) = false := by simpa using hother
          simp only [hany, Bool.false_eq_true, if_false]
          exact .inserted [] fields hother
  | cons entry before ih =>
      obtain ⟨hentry, hentries⟩ := List.forall_mem_cons.mp hnone
      obtain ⟨first, firstValue⟩ := entry
      -- The first entry is numbered alike in both, and refused in both if its number is taken.
      have hinserted := ih hentries
      rw [List.cons_append, List.cons_append, Value.numberEntries, Value.numberEntries]
      generalize Value.numberEntries names (before ++ after) = without at hinserted ⊢
      generalize Value.numberEntries names (before ++ (.text key, value) :: after) = given
        at hinserted ⊢
      cases hfirst : Value.fieldNumber? names first with
      | none => exact .refused
      | some number =>
          cases hinserted with
          | refused => cases number <;> exact .refused
          | inserted left right hother =>
            cases number with
            | none => exact .inserted left right hother
            | some j =>
                have hne : i ≠ j := by
                  rintro rfl
                  exact hentry hfirst
                simp only [List.any_append, List.any_cons, beq_eq_false_iff_ne.mpr hne,
                  Bool.false_or]
                split
                · exact .refused
                · refine .inserted ((j, firstValue) :: left) right fun field hfield => ?_
                  rcases List.mem_cons.mp hfield with rfl | hfield
                  · exact hne.symm
                  · exact hother field hfield

theorem get?_insert {left right : Fields} (hother : ∀ field ∈ left ++ right, field.1 ≠ i)
    (value : Value) :
    Fields.get? (left ++ right) i = none ∧
      Fields.get? (left ++ (i, value) :: right) i = some value ∧
      ∀ j, j ≠ i → Fields.get? (left ++ (i, value) :: right) j = Fields.get? (left ++ right) j := by
  have hfind : ∀ fields : Fields, (∀ field ∈ fields, field.1 ≠ i) →
      fields.find? (·.1 == i) = none :=
    fun fields h => List.find?_eq_none.mpr fun field hfield => by simp [h field hfield]
  have hleft := hfind left fun field hfield => hother field (List.mem_append_left _ hfield)
  refine ⟨?_, ?_, fun j hj => ?_⟩
  · rw [Fields.get?, hfind _ hother, Option.map_none]
  · simp [Fields.get?, hleft]
  · simp [Fields.get?, List.find?_append, hj.symm]

end

section
variable {left right : Fields} {i : Nat} (hother : ∀ field ∈ left ++ right, field.1 ≠ i)
  (value : Value)
include hother

theorem demand_insert {α : Type} {j : Nat} (hj : j ≠ i) (decode : Value → Option α) :
    Fields.demand (left ++ (i, value) :: right) j decode =
      Fields.demand (left ++ right) j decode := by
  rw [Fields.demand, (get?_insert hother value).2.2 j hj, Fields.demand]

/-- The default is what its written form is decoded as. -/
theorem orElse_insert {α : Type} {default : α} (decode : Value → Option α)
    (h : decode value = some default) :
    Fields.orElse (left ++ (i, value) :: right) i default decode =
      Fields.orElse (left ++ right) i default decode := by
  obtain ⟨habsent, hgiven, -⟩ := get?_insert hother value
  rw [Fields.orElse, hgiven, Fields.orElse, habsent]
  exact h

end

section
variable {names : List String} {key : String} {before after : List (String × Value)}

/-- A field that is not in the record, written somewhere in it. -/
theorem numberEntries_absent {i : Nat}
    (hkey : Value.fieldNumber? names (.text key) = some (some i))
    (habsent : key ∉ (before ++ after).map Prod.fst) (value : Value) :
    InsertsField i value
      (Value.numberEntries names ((before ++ after).map fun field => (.text field.1, field.2)))
      (Value.numberEntries names
        ((before ++ (key, value) :: after).map fun field => (.text field.1, field.2))) := by
  rw [List.map_append, List.map_append, List.map_cons]
  refine numberEntries_insert hkey (fun entry hentry hnumber => ?_) value
  rw [← List.map_append] at hentry
  obtain ⟨field, hfield, rfl⟩ := List.mem_map.mp hentry
  have hsame := getElem?_of_fieldNumber? hkey
  rw [getElem?_of_fieldNumber? hnumber, Option.some.injEq] at hsame
  exact habsent (hsame ▸ List.mem_map_of_mem hfield)

theorem numberEntries_unknown (hkey : Value.fieldNumber? names (.text key) = some none)
    (value : Value) :
    Value.numberEntries names
        ((before ++ (key, value) :: after).map fun field => (.text field.1, field.2)) =
      Value.numberEntries names
        ((before ++ after).map fun field => (.text field.1, field.2)) := by
  induction before with
  | nil =>
      rw [List.nil_append, List.map_cons, Value.numberEntries, hkey, List.nil_append]
      cases Value.numberEntries names (after.map fun field => (.text field.1, field.2)) <;> rfl
  | cons field before ih =>
      rw [List.cons_append, List.map_cons, Value.numberEntries, ih, List.cons_append, List.map_cons,
        Value.numberEntries]

end

section
variable (rules : Leniency) {before after : List (String × Value)}

theorem Line.ofValue?_withoutRole (habsent : "role" ∉ (before ++ after).map Prod.fst) :
    ofValue? rules (.record (before ++ ("role", .text Role.ordinary.word) :: after)) =
      ofValue? rules (.record (before ++ after)) := by
  have hkey : Value.fieldNumber? fieldNames (.text "role") = some (some 2) := by decide +kernel
  refine (numberEntries_absent hkey habsent (.text Role.ordinary.word)).bind_eq ?_
  intro left right hother
  have hrole := orElse_insert hother _
    (fun v => (v.word? rules (Role.all.map Role.word)).bind (Role.all[·]?))
    (Role.word?_word rules .ordinary)
  rw [demand_insert hother _ (show (0 : Nat) ≠ 2 by decide),
    demand_insert hother _ (show (1 : Nat) ≠ 2 by decide), hrole]

theorem Request.ofFields?_withoutAxis {left right : Fields}
    (hother : ∀ field ∈ left ++ right, field.1 ≠ 1) :
    ofFields? rules (left ++ (1, .null) :: right) = ofFields? rules (left ++ right) := by
  have haxis := orElse_insert hother .null (Value.optional? (AxisSpec.ofValue? rules)) rfl
  rw [ofFields?, demand_insert hother _ (show (0 : Nat) ≠ 1 by decide), haxis, ofFields?]

theorem Request.ofValue?_withoutAxis (habsent : "axis" ∉ (before ++ after).map Prod.fst) :
    ofValue? rules (.record (before ++ ("axis", .null) :: after)) =
      ofValue? rules (.record (before ++ after)) :=
  (numberEntries_absent fieldNumber?_toFields.2 habsent .null).bind_eq
    fun _ _ => ofFields?_withoutAxis rules

end

theorem NamedRequest.ofValue?_withoutAxis {before after : List (String × Value)}
    (habsent : "axis" ∉ (before ++ after).map Prod.fst) :
    ofValue? (.record (before ++ ("axis", .null) :: after)) =
      ofValue? (.record (before ++ after)) := by
  have hown : Value.fieldNumber? fieldNames (.text "axis") = some none := by decide +kernel
  have hshared := numberEntries_absent Request.fieldNumber?_toFields.2 habsent .null
  simp only [ofValue?, Value.record, numberEntries_unknown hown]
  refine Option.bind_congr fun own _ => hshared.bind_eq fun left right hother => ?_
  rw [Request.ofFields?_withoutAxis .stored hother]

end Crosstab
