import Crosstab.Proofs.ByteOffsets

/-!
# Matched parentheses

`Matched` says by the bytes of a text which two parentheses of it belong together: the text between
them is well nested. `matchingParen` reads from the one on, and what it finds is the other
(`matching_parens_found`).
-/

namespace Crosstab

/-- The parentheses at two byte offsets belong together: what stands between them is well nested,
read from outside of any quoted run. -/
structure Matched (text : String) (opening closing : Nat) : Prop where
  opens : text.toUTF8.data[opening]? = some '('.toUInt8
  closes : text.toUTF8.data[closing]? = some ')'.toUInt8
  before : opening < closing
  nested : ∃ inner : String, Nested inner.toList ∧
    text.toUTF8.extract (opening + 1) closing = inner.toUTF8

theorem byte_toUTF8 (text : String) (n : Nat) : text.toUTF8.data[n]? = (utf8 text.toList)[n]? := by
  rw [← toList_toUTF8, Array.getElem?_toList]

/-- What stands between two offsets, by characters. -/
theorem extract_eq_iff {text inner : String} {before mid after : List Char}
    (h : text.toList = before ++ mid ++ after) :
    text.toUTF8.extract (byteLength before) (byteLength (before ++ mid)) = inner.toUTF8 ↔
      mid = inner.toList := by
  have hextract : (text.toUTF8.extract (byteLength before) (byteLength (before ++ mid))).data.toList =
      utf8 mid := by
    rw [ByteArray.data_extract, Array.toList_extract, toList_toUTF8, h, List.extract_eq_take_drop,
      utf8_append, utf8_append, List.append_assoc, ← length_utf8 before, List.drop_left,
      length_utf8, byteLength_append, Nat.add_sub_cancel_left, ← length_utf8 mid, List.take_left]
  constructor
  · intro heq
    rw [heq, toList_toUTF8] at hextract
    exact utf8_inj hextract.symm
  · intro heq
    refine ByteArray.ext (Array.toList_inj.mp ?_)
    rw [hextract, heq, toList_toUTF8]

/-- Two offsets hold parentheses around the text between them exactly if the text is so composed. -/
theorem matched_iff {text : String} {opening closing : Nat} :
    Matched text opening closing ↔ ∃ before inner after,
      text.toList = before ++ '(' :: (inner ++ ')' :: after) ∧ Nested inner ∧
        opening = byteLength before ∧ closing = opening + 1 + byteLength inner := by
  have hparen : '('.toNat < 128 ∧ ')'.toNat < 128 := ⟨by decide, by decide⟩
  constructor
  · rintro ⟨hopens, hcloses, hlt, inner, hnested, hinner⟩
    rw [byte_toUTF8] at hopens hcloses
    obtain ⟨before, rest, htext, rfl⟩ := exists_of_byte hparen.1 hopens
    obtain ⟨before', after, htext', rfl⟩ := exists_of_byte hparen.2 hcloses
    have hone := byteLength_ascii hparen.1 []
    -- The later cut lies behind the opening parenthesis.
    have hcuts : (before ++ ['(']) ++ rest = before' ++ ')' :: after := by
      rw [← htext', htext, List.append_assoc, List.singleton_append]
    obtain ⟨mid, rfl, hrest⟩ := exists_between hcuts (by
      rw [byteLength_append, hone]
      exact hlt)
    have hstart : byteLength before + 1 = byteLength (before ++ ['(']) := by
      rw [byteLength_append, hone]
      rfl
    rw [hstart, extract_eq_iff htext'] at hinner
    subst hinner
    refine ⟨before, inner.toList, after, by rw [htext, hrest], hnested, rfl, ?_⟩
    rw [byteLength_append, ← hstart]
  · rintro ⟨before, inner, after, htext, hnested, rfl, rfl⟩
    have hlist : text.toList = (before ++ ['(']) ++ inner ++ ')' :: after := by simp [htext]
    have hstart : byteLength before + 1 = byteLength (before ++ ['(']) := by
      rw [byteLength_append, byteLength_ascii hparen.1]
      rfl
    rw [hstart, ← byteLength_append]
    refine ⟨?_, ?_, ?_, String.ofList inner, by rwa [String.toList_ofList], ?_⟩
    · rw [byte_toUTF8, htext]
      exact byte_at hparen.1 before _
    · rw [byte_toUTF8, hlist]
      exact byte_at hparen.2 _ after
    · rw [byteLength_append, ← hstart]
      omega
    · rw [hstart, extract_eq_iff hlist, String.toList_ofList]

theorem matchingParen_iff {text : String} {opening closing : Nat} :
    matchingParen text opening = some closing ↔ Matched text opening closing := by
  rw [matched_iff]
  constructor
  · intro h
    unfold matchingParen at h
    split at h
    · rename_i rest hdrop
      obtain ⟨before, htext, rfl⟩ := dropBytes?_iff.mp hdrop
      obtain ⟨⟨inner, after⟩, henclosed, rfl⟩ := Option.map_eq_some_iff.mp h
      obtain ⟨hclosed, rfl⟩ := enclosed?_some henclosed
      exact ⟨before, inner, after, htext, isClosed_iff_nested.mp hclosed, rfl, rfl⟩
    · cases h
  · rintro ⟨before, inner, after, htext, hnested, rfl, rfl⟩
    rw [matchingParen, htext, dropBytes?_append]
    simp [enclosed?_closed hnested.isClosed]

/-! ## The headline -/

/-- **The parenthesis that is found is the one that belongs to it, and it is found whenever there is
one**: no other offset qualifies, and where none does, or no parenthesis opens, nothing is found. -/
theorem matching_parens_found (text : String) (opening : Nat) :
    (∀ closing, matchingParen text opening = some closing ↔ Matched text opening closing) ∧
    (∀ closing closing', Matched text opening closing → Matched text opening closing' →
      closing = closing') ∧
    (matchingParen text opening = none ↔ ∀ closing, ¬ Matched text opening closing) ∧
    (text.toUTF8.data[opening]? ≠ some '('.toUInt8 → matchingParen text opening = none) := by
  have hnone : matchingParen text opening = none ↔ ∀ closing, ¬ Matched text opening closing := by
    simp only [Option.eq_none_iff_forall_ne_some, ne_eq, matchingParen_iff]
  refine ⟨fun _ => matchingParen_iff, fun closing closing' h h' => ?_, hnone, fun hbyte => ?_⟩
  · have hfound := matchingParen_iff.mpr h
    rw [matchingParen_iff.mpr h'] at hfound
    exact (Option.some.inj hfound).symm
  · exact hnone.mpr fun closing h => hbyte h.opens

/-- The parenthesis behind a quoted run that holds a doubled closer and characters of several
bytes; and an offset inside of one of those. -/
theorem matching_parens_found_quoted :
    let text := "é(['€]])'], f(x))"
    (Matched text 2 19 ∧ ∀ closing, Matched text 2 closing → closing = 19) ∧
      (text.toUTF8.data[1]? ≠ some '('.toUInt8 ∧ matchingParen text 1 = none) := by
  intro text
  obtain ⟨hiff, hunique, -, -⟩ := matching_parens_found text 2
  obtain ⟨-, -, -, hnone⟩ := matching_parens_found text 1
  have hfound : Matched text 2 19 := (hiff 19).mp (by decide +kernel)
  have hbyte : text.toUTF8.data[1]? ≠ some '('.toUInt8 := by decide +kernel
  exact ⟨⟨hfound, fun closing h => hunique closing 19 h hfound⟩, hbyte, hnone hbyte⟩

end Crosstab
