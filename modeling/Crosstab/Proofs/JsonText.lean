import Crosstab.Json.Printer
import Crosstab.Json.Reader

/-!
# JSON that was written here

Reading undoes writing. The two halves of the reader are followed apart, and both one piece at a
time, with whatever comes after the piece left open:

- characters: `tokensFrom_escapeChar` for one character of a string, whichever way it is escaped,
  and from it the token of a whole string;
- tokens: `ReadsBack n v` says that the text of `v` has tokens that hand `v` to whatever is open. It
  holds of texts and of null, and a list or a record of such values is one more level deep.

Only null needs to know what comes after it, since an atom goes on up to the next punctuation.
-/

namespace Crosstab.Json

/-! ## Strings -/

theorem digit_hexDigit {n : Nat} (h : n < 16) :
    (digitValue? (hexDigit n)).filter (· < 16) = some n := by
  have hall : ∀ n < 16, (digitValue? (hexDigit n)).filter (· < 16) = some n := by decide
  exact hall n h

theorem tokensFrom_silent (next : Reading) {reading : Reading} {c : Char}
    (h : reading.step c = some (next, [])) (cs : List Char) :
    tokensFrom reading (c :: cs) = tokensFrom next cs := by
  simp [tokensFrom, h]

theorem tokensFrom_digit (gathered : List Char) {count value n : Nat} (hn : n < 16)
    (hcount : count ≠ 3) (cs : List Char) :
    tokensFrom (.unit gathered none count value) (hexDigit n :: cs) =
      tokensFrom (.unit gathered none (count + 1) (value * 16 + n)) cs := by
  refine tokensFrom_silent _ ?_ cs
  simp [Reading.step, digit_hexDigit hn, hcount]

theorem tokensFrom_lastDigit (gathered : List Char) {value n : Nat} (hn : n < 16)
    (hvalue : value * 16 + n < 0xD800) (cs : List Char) :
    tokensFrom (.unit gathered none 3 value) (hexDigit n :: cs) =
      tokensFrom (.inText (Char.ofNat (value * 16 + n) :: gathered)) cs := by
  refine tokensFrom_silent _ ?_ cs
  have hhigh : ¬ 0xD800 ≤ value * 16 + n := Nat.not_le.mpr hvalue
  have hlow : ¬ 0xDC00 ≤ value * 16 + n := by omega
  simp [Reading.step, digit_hexDigit hn, finishUnit, hhigh, hlow]

/-- A character of a string is read back, however it was escaped. -/
theorem tokensFrom_escapeChar (gathered : List Char) (c : Char) (cs : List Char) :
    tokensFrom (.inText gathered) (escapeChar c ++ cs) =
      tokensFrom (.inText (c :: gathered)) cs := by
  have hshort {d : Char} (hd : d ≠ 'u') (hc : shortEscape? d = some c) :
      tokensFrom (.inText gathered) ('\\' :: d :: cs) =
        tokensFrom (.inText (c :: gathered)) cs := by
    rw [tokensFrom_silent (.escape gathered) rfl]
    refine tokensFrom_silent _ ?_ cs
    simp [Reading.step, hd, hc]
  unfold escapeChar
  iterate 7
    split
    · next h => exact hshort (by decide) (by rw [h]; rfl)
  split
  · next hcontrol =>
      -- The digits are those of the code point, which is far below the surrogates.
      have hhigh : c.toNat / 16 < 16 := by omega
      have hlow : c.toNat % 16 < 16 := Nat.mod_lt _ (by decide)
      have hvalue : (((0 * 16 + 0) * 16 + 0) * 16 + c.toNat / 16) * 16 + c.toNat % 16 =
          c.toNat := by omega
      show tokensFrom (.inText gathered) ('\\' :: 'u' :: hexDigit 0 :: hexDigit 0 ::
        hexDigit (c.toNat / 16) :: hexDigit (c.toNat % 16) :: cs) = _
      rw [tokensFrom_silent (.escape gathered) rfl,
        tokensFrom_silent (.unit gathered none 0 0) rfl,
        tokensFrom_digit gathered (by decide) (by decide),
        tokensFrom_digit gathered (by decide) (by decide),
        tokensFrom_digit gathered hhigh (by decide),
        tokensFrom_lastDigit gathered hlow (by omega), hvalue, Char.ofNat_toNat]
  · next hquote hslash _ _ _ _ _ hcontrol =>
      refine tokensFrom_silent _ ?_ cs
      simp [Reading.step, hquote, hslash, hcontrol]

theorem tokensFrom_text (gathered cs rest : List Char) :
    tokensFrom (.inText gathered) (cs.flatMap escapeChar ++ '"' :: rest) =
      (tokensFrom .between rest).map (.text (String.ofList (gathered.reverse ++ cs)) :: ·) := by
  induction cs generalizing gathered with
  | nil =>
      rw [List.append_nil]
      rfl
  | cons c cs ih =>
      rw [List.flatMap_cons, List.append_assoc, tokensFrom_escapeChar, ih, List.reverse_cons,
        List.append_assoc]
      rfl

theorem tokensFrom_quote (s : String) (rest : List Char) :
    tokensFrom .between (quote s ++ rest) = (tokensFrom .between rest).map (.text s :: ·) := by
  have hopen : quote s ++ rest = '"' :: (s.toList.flatMap escapeChar ++ '"' :: rest) := by
    simp [quote]
  rw [hopen, tokensFrom_silent (.inText []) rfl, tokensFrom_text, List.reverse_nil,
    List.nil_append, String.ofList_toList]

/-! ## Texts and their tokens -/

/-- Text ahead of which an atom ends. -/
def Delimited (rest : List Char) : Prop :=
  ∀ c, rest.head? = some c → (isJsonBlank c || c == '"' || (punctuation? c).isSome) = true

theorem delimited_nil : Delimited [] := fun _ h => nomatch h

theorem delimited_cons {c : Char} {token : Token} (h : punctuation? c = some token)
    (rest : List Char) : Delimited (c :: rest) := by
  rintro d hd
  cases hd
  simp [h]

/-- The text has these tokens, whatever comes after it. -/
def Lexes (cs : List Char) (tokens : List Token) : Prop :=
  ∀ rest, Delimited rest →
    tokensFrom .between (cs ++ rest) = (tokensFrom .between rest).map (tokens ++ ·)

theorem lexes_quote (s : String) : Lexes (quote s) [.text s] :=
  fun rest _ => tokensFrom_quote s rest

theorem lexes_null : Lexes "null".toList [.atom .null] := by
  intro rest h
  show tokensFrom .between ('n' :: 'u' :: 'l' :: 'l' :: rest) = _
  rw [tokensFrom_silent (.inAtom ['n']) rfl,
    tokensFrom_silent (.inAtom ['u', 'n']) rfl,
    tokensFrom_silent (.inAtom ['l', 'u', 'n']) rfl,
    tokensFrom_silent (.inAtom ['l', 'l', 'u', 'n']) rfl]
  cases rest with
  | nil => rfl
  | cons c cs =>
      have hstep : Reading.step (.inAtom ['l', 'l', 'u', 'n']) c =
          some ((stepBetween c).1, .atom .null :: (stepBetween c).2) := if_pos (h c rfl)
      have hbetween : Reading.step .between c = some (stepBetween c) := rfl
      simp only [tokensFrom, hstep, hbetween, Option.map_map]
      rfl

theorem tokensFrom_punctuation {c : Char} {token : Token} (h : punctuation? c = some token)
    (rest : List Char) :
    tokensFrom .between (c :: rest) = (tokensFrom .between rest).map (token :: ·) := by
  have hplain : isJsonBlank c = false ∧ c ≠ '"' := by
    unfold punctuation? at h
    split at h <;> cases h <;> decide
  have hstep : stepBetween c = (.between, [token]) := by
    rw [stepBetween, hplain.1, if_neg Bool.false_ne_true, if_neg hplain.2, h]
  rw [tokensFrom, Reading.step, hstep]
  rfl

theorem Lexes.append {as bs : List Char} {left right : List Token} (ha : Lexes as left)
    (hb : Lexes bs right) {c : Char} {token : Token} (hc : punctuation? c = some token) :
    Lexes (as ++ c :: bs) (left ++ token :: right) := by
  intro rest hrest
  rw [List.append_assoc, List.cons_append, ha _ (delimited_cons hc _),
    tokensFrom_punctuation hc, hb rest hrest, Option.map_map, Option.map_map]
  simp [Function.comp_def]

theorem lexes_nil : Lexes [] [] := by
  intro rest _
  simp

theorem Lexes.enclose {cs : List Char} {tokens : List Token} (h : Lexes cs tokens) {b e : Char}
    {opening closing : Token} (hb : punctuation? b = some opening)
    (he : punctuation? e = some closing) :
    Lexes (b :: cs ++ [e]) (opening :: tokens ++ [closing]) :=
  (lexes_nil.append h hb).append lexes_nil he

/-! ## Values -/

/-- The text of `v` has tokens that hand `v` to whatever is open, with `n` levels to spare. -/
def ReadsBack (n : Nat) (v : Value) : Prop :=
  ∃ tokens, Lexes (print v) tokens ∧
    ∀ stack need, need = .value ∨ need = .item → stack.length + n < depthLimit →
      ∀ more, State.run (.reading stack need) (tokens ++ more) = (deliver v stack).run more

theorem readsBack_text (n : Nat) (s : String) : ReadsBack n (.text s) := by
  refine ⟨[.text s], lexes_quote s, ?_⟩
  rintro stack need (rfl | rfl) - more <;> rfl

theorem readsBack_null (n : Nat) : ReadsBack n .null := by
  refine ⟨[.atom .null], lexes_null, ?_⟩
  rintro stack need (rfl | rfl) - more <;> rfl

theorem ReadsBack.mono {n m : Nat} {v : Value} (h : ReadsBack n v) (hle : n ≤ m) :
    ReadsBack m v := by
  obtain ⟨tokens, hlex, hrun⟩ := h
  exact ⟨tokens, hlex, fun stack need hneed hdepth => hrun stack need hneed (by omega)⟩

/-- The text has tokens that take an open list or map from one state to another. -/
def Extends (n : Nat) (cs : List Char) (need : Need) (frame next : Frame) : Prop :=
  ∃ tokens, Lexes cs tokens ∧
    ∀ stack : List Frame, stack.length + 1 + n < depthLimit → ∀ more,
      State.run (.reading (frame :: stack) need) (tokens ++ more) =
        State.run (.reading (next :: stack) .next) more

/-- Pieces with a comma between them, which asks for the next piece. -/
theorem Extends.append {n : Nat} {as bs : List Char} {need again : Need} {frame mid next : Frame}
    (ha : Extends n as need frame mid) (hb : Extends n bs again mid next)
    (hcomma : ∀ stack, State.step (.reading (mid :: stack) .next) .comma =
      some (.reading (mid :: stack) again)) :
    Extends n (as ++ ',' :: bs) need frame next := by
  obtain ⟨left, hleft, hrunLeft⟩ := ha
  obtain ⟨right, hright, hrunRight⟩ := hb
  refine ⟨_, hleft.append hright (c := ',') rfl, fun stack hdepth more => ?_⟩
  rw [List.append_assoc, hrunLeft stack hdepth, List.cons_append, State.run, hcomma,
    Option.bind_some, hrunRight stack hdepth]

theorem extends_items {n : Nat} {items : List Value} (h : ∀ v ∈ items, ReadsBack n v)
    (hne : items ≠ []) (held : List Value) (need : Need) (hneed : need = .value ∨ need = .item) :
    Extends n (printItems items) need (.list held) (.list (items.reverse ++ held)) := by
  induction items generalizing held need with
  | nil => exact absurd rfl hne
  | cons v items ih =>
      obtain ⟨hv, hitems⟩ := List.forall_mem_cons.mp h
      have hfirst : Extends n (print v) need (.list held) (.list (v :: held)) := by
        obtain ⟨tokens, hlex, hrun⟩ := hv
        exact ⟨tokens, hlex, fun stack hdepth => hrun (.list held :: stack) need hneed hdepth⟩
      cases items with
      | nil => exact hfirst
      | cons w items =>
          have hrest := hfirst.append (ih hitems (List.cons_ne_nil _ _) (v :: held) .value
            (Or.inl rfl))
            fun _ => rfl
          rw [List.reverse_cons, List.append_assoc]
          exact hrest

theorem extends_entries {n : Nat} {fields : List (String × Value)}
    (h : ∀ field ∈ fields, ReadsBack n field.2) (hne : fields ≠ [])
    (held : List (Value × Value)) (need : Need) (hneed : need = .key ∨ need = .firstKey) :
    Extends n (printEntries (fields.map fun field => (.text field.1, field.2))) need (.map held)
      (.map ((fields.map fun field => (Value.text field.1, field.2)).reverse ++ held)) := by
  induction fields generalizing held need with
  | nil => exact absurd rfl hne
  | cons field fields ih =>
      obtain ⟨hv, hfields⟩ := List.forall_mem_cons.mp h
      have hfirst : Extends n (print (.text field.1) ++ ':' :: print field.2) need (.map held)
          (.map ((.text field.1, field.2) :: held)) := by
        obtain ⟨tokens, hlex, hrun⟩ := hv
        refine ⟨_, (lexes_quote field.1).append hlex (c := ':') rfl, fun stack hdepth more => ?_⟩
        have hvalue := hrun (.entry held field.1 :: stack) .value (Or.inl rfl) hdepth more
        rcases hneed with rfl | rfl <;> exact hvalue
      cases fields with
      | nil => exact hfirst
      | cons next fields =>
          have hrest := hfirst.append (ih hfields (List.cons_ne_nil _ _)
            ((.text field.1, field.2) :: held) .key (Or.inl rfl)) fun _ => rfl
          rw [List.map_cons, List.reverse_cons, List.append_assoc]
          simp only [List.map_cons, printEntries, List.append_assoc, List.cons_append] at hrest ⊢
          exact hrest

theorem step_enter {frame : Frame} {need first : Need} {token : Token} {stack : List Frame}
    (hneed : need = .value ∨ need = .item)
    (htoken : token = .openList ∧ frame = .list [] ∧ first = .item ∨
      token = .openMap ∧ frame = .map [] ∧ first = .firstKey)
    (hdepth : stack.length + 1 < depthLimit) :
    State.step (.reading stack need) token = some (.reading (frame :: stack) first) := by
  rcases hneed with rfl | rfl <;> rcases htoken with ⟨rfl, rfl, rfl⟩ | ⟨rfl, rfl, rfl⟩ <;>
    exact if_pos hdepth

/-- A list is one level deeper than its items. -/
theorem readsBack_list {n : Nat} {items : List Value} (h : ∀ v ∈ items, ReadsBack n v) :
    ReadsBack (n + 1) (.list items) := by
  cases items with
  | nil =>
      refine ⟨_, lexes_nil.enclose (b := '[') (e := ']') rfl rfl, ?_⟩
      intro stack need hneed hdepth more
      rw [List.cons_append, List.cons_append, State.run, step_enter hneed
        (.inl ⟨rfl, rfl, rfl⟩) (by omega)]
      rfl
  | cons v items =>
      obtain ⟨tokens, hlex, hrun⟩ :=
        extends_items h (List.cons_ne_nil _ _) [] .item (Or.inr rfl)
      refine ⟨_, hlex.enclose (b := '[') (e := ']') rfl rfl, ?_⟩
      intro stack need hneed hdepth more
      rw [List.cons_append, List.cons_append, List.append_assoc, State.run, step_enter hneed
        (.inl ⟨rfl, rfl, rfl⟩) (by omega), Option.bind_some, hrun stack (by omega),
        List.append_nil]
      show (deliver (.list (v :: items).reverse.reverse) stack).run more = _
      rw [List.reverse_reverse]

/-- A record is one level deeper than its fields. -/
theorem readsBack_record {n : Nat} {fields : List (String × Value)}
    (h : ∀ field ∈ fields, ReadsBack n field.2) : ReadsBack (n + 1) (.record fields) := by
  cases fields with
  | nil =>
      refine ⟨_, lexes_nil.enclose (b := '\x7b') (e := '\x7d') rfl rfl, ?_⟩
      intro stack need hneed hdepth more
      rw [List.cons_append, List.cons_append, State.run, step_enter hneed
        (.inr ⟨rfl, rfl, rfl⟩) (by omega)]
      rfl
  | cons field fields =>
      obtain ⟨tokens, hlex, hrun⟩ :=
        extends_entries h (List.cons_ne_nil _ _) [] .firstKey (Or.inr rfl)
      refine ⟨_, hlex.enclose (b := '\x7b') (e := '\x7d') rfl rfl, ?_⟩
      intro stack need hneed hdepth more
      rw [List.cons_append, List.cons_append, List.append_assoc, State.run, step_enter hneed
        (.inr ⟨rfl, rfl, rfl⟩) (by omega), Option.bind_some, hrun stack (by omega),
        List.append_nil]
      show (deliver (.map (List.reverse _).reverse) stack).run more = _
      rw [List.reverse_reverse]
      rfl

theorem parse?_render {n : Nat} {v : Value} (h : ReadsBack n v) (hn : n < depthLimit) :
    parse? (render v) = some v := by
  obtain ⟨tokens, hlex, hrun⟩ := h
  have htokens : tokens? (print v) = some tokens := by
    have hall := hlex [] delimited_nil
    rw [List.append_nil] at hall
    rw [tokens?, hall]
    exact congrArg some (List.append_nil tokens)
  have hdone := hrun [] .value (Or.inl rfl) (by simpa using hn) []
  rw [List.append_nil] at hdone
  rw [parse?, render, String.toList_ofList, htokens, Option.bind_some, ofTokens?, hdone]
  rfl

end Crosstab.Json
