import Crosstab.Proofs.Nesting

/-!
# Byte offsets

Callers point into a fragment by offsets into its UTF-8 form. A cut at such an offset can go wrong
(`Fault`), and it goes well exactly at the length of a beginning (`dropBytes?_iff`, `slice_iff`).

The offset of an ASCII character is always one: its byte occurs in the form of no other character
(`exists_of_byte`). So looking at a byte is enough to know that a character begins there.
-/

namespace Crosstab

/-! ## Cuts -/

@[simp] theorem byteLength_nil : byteLength [] = 0 := rfl

theorem byteLength_cons (c : Char) (cs : List Char) :
    byteLength (c :: cs) = c.utf8Size + byteLength cs := rfl

theorem byteLength_eq_zero {cs : List Char} (h : byteLength cs = 0) : cs = [] := by
  cases cs with
  | nil => rfl
  | cons c cs =>
      have hpos := c.utf8Size_pos
      rw [byteLength_cons] at h
      omega

/-- A text is cut at an offset exactly if some beginning of it is that long. -/
theorem dropBytes?_iff {n : Nat} {cs rest : List Char} :
    dropBytes? n cs = some rest ↔ ∃ before, cs = before ++ rest ∧ byteLength before = n := by
  constructor
  · intro h
    induction cs generalizing n with
    | nil =>
        cases n with
        | zero => exact ⟨[], Option.some.inj h, rfl⟩
        | succ n => cases h
    | cons c cs ih =>
        cases n with
        | zero => exact ⟨[], Option.some.inj h, rfl⟩
        | succ n =>
            rw [dropBytes?] at h
            split at h
            · rename_i hle
              obtain ⟨before, rfl, hlength⟩ := ih h
              refine ⟨c :: before, rfl, ?_⟩
              rw [byteLength_cons]
              omega
            · cases h
  · rintro ⟨before, rfl, rfl⟩
    exact dropBytes?_append before rest

/-- Two cuts of one text: the later one cuts what the earlier one left. -/
theorem exists_between {as bs as' bs' : List Char} (h : as ++ bs = as' ++ bs')
    (hle : byteLength as ≤ byteLength as') : ∃ mid, as' = as ++ mid ∧ bs = mid ++ bs' := by
  rcases List.append_eq_append_iff.mp h with ⟨mid, rfl, rfl⟩ | ⟨mid, rfl, rfl⟩
  · exact ⟨mid, rfl, rfl⟩
  · rw [byteLength_append] at hle
    obtain rfl : mid = [] := byteLength_eq_zero (by omega)
    exact ⟨[], by simp, by simp⟩

/-! ## Cuts that can fail -/

/-- What goes wrong when a text is cut or an offset is computed. -/
inductive Fault where
  /-- The offset lies past the end of the text or ahead of where the cut begins. -/
  | outOfRange
  /-- The offset lies inside of a character. -/
  | insideCharacter
  /-- The difference lies below zero. -/
  | belowZero
  deriving Repr, DecidableEq

/-- The text between two byte offsets. -/
def slice (cs : List Char) (first last : Nat) : Except Fault (List Char) :=
  if last < first ∨ byteLength cs < last then .error .outOfRange
  else
    match dropBytes? first cs, dropBytes? last cs with
    | some rest, some after => .ok (rest.take (rest.length - after.length))
    | _, _ => .error .insideCharacter

/-- The text from a byte offset on. -/
def sliceFrom (cs : List Char) (first : Nat) : Except Fault (List Char) :=
  slice cs first (byteLength cs)

/-- The text up to a byte offset. -/
def sliceTo (cs : List Char) (last : Nat) : Except Fault (List Char) := slice cs 0 last

/-- A difference of offsets. -/
def less (m n : Nat) : Except Fault Nat := if m < n then .error .belowZero else .ok (m - n)

theorem less_of_le {m n : Nat} (h : n ≤ m) : less m n = .ok (m - n) := if_neg (by omega)

theorem Fault.ok_bind {α β : Type} (a : α) (f : α → Except Fault β) :
    ((Except.ok a : Except Fault α) >>= f) = f a := rfl

theorem slice_append (before part after : List Char) :
    slice (before ++ part ++ after) (byteLength before) (byteLength (before ++ part)) =
      .ok part := by
  have hrest : dropBytes? (byteLength before) (before ++ part ++ after) = some (part ++ after) := by
    rw [List.append_assoc, dropBytes?_append]
  have hrange : ¬ (byteLength (before ++ part) < byteLength before ∨
      byteLength (before ++ part ++ after) < byteLength (before ++ part)) := by
    simp only [byteLength_append]
    omega
  rw [slice, if_neg hrange, hrest, dropBytes?_append]
  simp

/-- A cut goes well exactly if both offsets are lengths of beginnings, in this order. -/
theorem slice_iff {cs part : List Char} {first last : Nat} :
    slice cs first last = .ok part ↔ ∃ before after, cs = before ++ part ++ after ∧
      byteLength before = first ∧ byteLength (before ++ part) = last := by
  constructor
  · intro h
    unfold slice at h
    split at h
    · cases h
    · rename_i hrange
      split at h
      · rename_i rest after hrest hafter
        cases h
        obtain ⟨before, hcs, rfl⟩ := dropBytes?_iff.mp hrest
        obtain ⟨before', hcs', rfl⟩ := dropBytes?_iff.mp hafter
        obtain ⟨mid, rfl, rfl⟩ := exists_between (hcs.symm.trans hcs') (by omega)
        exact ⟨before, after, by simp [hcs'], rfl, by simp⟩
      · cases h
  · rintro ⟨before, after, rfl, rfl, rfl⟩
    exact slice_append before part after

example : slice "(é)".toList 1 3 = .ok "é".toList ∧
    slice "(é)".toList 2 3 = .error .insideCharacter ∧
    slice "(é)".toList 3 5 = .error .outOfRange := by decide +kernel

theorem sliceFrom_append (before rest : List Char) :
    sliceFrom (before ++ rest) (byteLength before) = .ok rest :=
  slice_iff.mpr ⟨before, [], by simp, rfl, rfl⟩

theorem sliceTo_append (part after : List Char) :
    sliceTo (part ++ after) (byteLength part) = .ok part :=
  slice_iff.mpr ⟨[], after, rfl, rfl, rfl⟩

/-! ## Bytes -/

/-- The UTF-8 form of a text. -/
def utf8 (cs : List Char) : List UInt8 := cs.flatMap String.utf8EncodeChar

theorem toList_toUTF8 (text : String) : text.toUTF8.data.toList = utf8 text.toList := by
  conv_lhs => rw [← String.ofList_toList (s := text)]
  rw [String.toUTF8_eq_toByteArray, String.toByteArray_ofList, List.utf8Encode,
    List.data_toByteArray, utf8]

theorem utf8_append (as bs : List Char) : utf8 (as ++ bs) = utf8 as ++ utf8 bs :=
  List.flatMap_append

theorem utf8_cons (c : Char) (cs : List Char) :
    utf8 (c :: cs) = String.utf8EncodeChar c ++ utf8 cs := List.flatMap_cons

theorem length_utf8 (cs : List Char) : (utf8 cs).length = byteLength cs := by
  induction cs with
  | nil => rfl
  | cons c cs ih => rw [utf8_cons, List.length_append, String.length_utf8EncodeChar, ih,
      byteLength_cons]

theorem utf8_inj {as bs : List Char} (h : utf8 as = utf8 bs) : as = bs := by
  have hbytes : (String.ofList as).toByteArray = (String.ofList bs).toByteArray := by
    rw [String.toByteArray_ofList, String.toByteArray_ofList, List.utf8Encode, List.utf8Encode,
      show as.flatMap String.utf8EncodeChar = bs.flatMap String.utf8EncodeChar from h]
  simpa using congrArg String.toList (String.toByteArray_inj.mp hbytes)

/-- The bytes of a character beyond ASCII all lie beyond ASCII. -/
theorem le_of_mem_utf8EncodeChar {c : Char} {b : UInt8} (hc : 128 ≤ c.toNat)
    (hb : b ∈ String.utf8EncodeChar c) : 128 ≤ b.toNat := by
  have hval : c.val.toNat = c.toNat := rfl
  simp only [String.utf8EncodeChar, hval] at hb
  rw [if_neg (by omega)] at hb
  split at hb
  · simp only [List.mem_cons, List.not_mem_nil, or_false] at hb
    rcases hb with rfl | rfl <;> rw [UInt8.toNat_ofNat'] <;> omega
  split at hb
  · simp only [List.mem_cons, List.not_mem_nil, or_false] at hb
    rcases hb with rfl | rfl | rfl <;> rw [UInt8.toNat_ofNat'] <;> omega
  · simp only [List.mem_cons, List.not_mem_nil, or_false] at hb
    rcases hb with rfl | rfl | rfl | rfl <;> rw [UInt8.toNat_ofNat'] <;> omega

theorem utf8EncodeChar_ascii {c : Char} (h : c.toNat < 128) :
    String.utf8EncodeChar c = [UInt8.ofNat c.toNat] := by
  have hval : c.val.toNat = c.toNat := rfl
  simp only [String.utf8EncodeChar, hval]
  exact if_pos (by omega)

section
variable {a : Char} (ha : a.toNat < 128)
include ha

theorem byteLength_ascii (cs : List Char) : byteLength (a :: cs) = 1 + byteLength cs := by
  have hsize := String.length_utf8EncodeChar a
  rw [utf8EncodeChar_ascii ha] at hsize
  rw [byteLength_cons, ← hsize]
  rfl

theorem byte_at (before rest : List Char) :
    (utf8 (before ++ a :: rest))[byteLength before]? = some (UInt8.ofNat a.toNat) := by
  rw [utf8_append, List.getElem?_append_right (length_utf8 before).le, length_utf8, Nat.sub_self,
    utf8_cons, utf8EncodeChar_ascii ha]
  rfl

/-- Where the byte of an ASCII character stands, the character stands. -/
theorem exists_of_byte {cs : List Char} {n : Nat}
    (h : (utf8 cs)[n]? = some (UInt8.ofNat a.toNat)) :
    ∃ before rest, cs = before ++ a :: rest ∧ byteLength before = n := by
  have hsmall : (UInt8.ofNat a.toNat).toNat = a.toNat := by
    rw [UInt8.toNat_ofNat']
    omega
  induction cs generalizing n with
  | nil => cases h
  | cons c cs ih =>
      rw [utf8_cons] at h
      by_cases hn : n < (String.utf8EncodeChar c).length
      · rw [List.getElem?_append_left hn] at h
        have hmem := List.mem_of_getElem? h
        -- A byte within one character: an ASCII byte is all that the character has.
        have hc : c.toNat < 128 := by
          by_contra hge
          have hhigh := le_of_mem_utf8EncodeChar (by omega) hmem
          omega
        rw [utf8EncodeChar_ascii hc, List.mem_singleton] at hmem
        have hval : c.toNat = a.toNat := by
          have hbyte := congrArg UInt8.toNat hmem
          rw [hsmall, UInt8.toNat_ofNat'] at hbyte
          omega
        obtain rfl : c = a := Char.toNat_inj.mp hval
        rw [utf8EncodeChar_ascii hc, List.length_singleton] at hn
        obtain rfl : n = 0 := by omega
        exact ⟨[], cs, rfl, rfl⟩
      · rw [List.getElem?_append_right (by omega)] at h
        obtain ⟨before, rest, rfl, hlength⟩ := ih h
        refine ⟨c :: before, rest, rfl, ?_⟩
        rw [String.length_utf8EncodeChar] at hn hlength
        rw [byteLength_cons]
        omega

end

end Crosstab
