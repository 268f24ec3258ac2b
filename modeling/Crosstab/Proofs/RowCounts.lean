import Mathlib.Tactic.IntervalCases
import Crosstab.Proofs.Acceptance
import Crosstab.Proofs.Calls
import Crosstab.Text.Letters

/-!
# How a row count is read

A TopX limit is a text that ends in a number. `EndsInCount` is what the reader makes of it: the last
word, with a plus sign or leading zeros if it has them, and nothing is asked about what comes ahead.
`IsRowCount` is what is meant to stand there: the number alone or behind one keyword.

Every row count that is meant is read (`IsRowCount.endsInCount`). The converse holds where at most
one keyword comes ahead of the last word and that word has no sign and no zeros to spare
(`Unadorned`); elsewhere an offset is taken for the count (`offset_read_as_count`).
-/

namespace Crosstab

/-! ## Digits -/

theorem isDigitOf_ten {c : Char} : isDigitOf 10 c = true ↔ c.isDigit = true := by
  have hle {a b : Char} : a ≤ b ↔ a.toNat ≤ b.toNat := UInt32.le_iff_toNat_le
  unfold isDigitOf digitValue?
  split
  · rename_i hdigit
    have hrange := Char.isDigit_iff_toNat.mp hdigit
    simp only [Char.reduceToNat] at hrange
    simp [hdigit]
    omega
  · rename_i hdigit
    -- The letters go on from ten.
    simp only [Bool.and_eq_true, decide_eq_true_eq, hle, Char.reduceToNat, hdigit]
    split
    · simp
      omega
    · split
      · simp
        omega
      · simp

theorem toDigits_digit {c : Char} (h : c.isDigit = true) :
    c.toNat - 48 < 10 ∧ Nat.toDigits 10 (c.toNat - 48) = [c] := by
  obtain ⟨hlow, hhigh⟩ := Char.isDigit_iff_toNat.mp h
  simp only [Char.reduceToNat] at hlow hhigh
  have hlt : c.toNat - 48 < 10 := by omega
  refine ⟨hlt, ?_⟩
  rw [Nat.toDigits_of_lt_base hlt, List.cons.injEq, eq_self, and_true, ← Char.ofNat_toNat c]
  generalize c.toNat = n at *
  interval_cases n <;> rfl

theorem numberOf_ten {cs : List Char} (h : ∀ c ∈ cs, c.isDigit = true) :
    numberOf 10 cs = Nat.ofDigitChars 10 cs 0 := by
  rw [Nat.ofDigitChars_eq_foldl, numberOf]
  refine List.foldl_ext _ _ _ fun n c hc => ?_
  rw [digitValue?, if_pos (h c hc), Option.getD_some, Nat.mul_comm]
  rfl

theorem ofDigitChars_zeros {zeros : List Char} (h : ∀ c ∈ zeros, c = '0') (cs : List Char) :
    Nat.ofDigitChars 10 (zeros ++ cs) 0 = Nat.ofDigitChars 10 cs 0 := by
  induction zeros with
  | nil => rfl
  | cons c zeros ih =>
      obtain ⟨rfl, hzeros⟩ := List.forall_mem_cons.mp h
      exact ih hzeros

/-- A number is written in no other way than with zeros ahead of its own digits. -/
theorem eq_zeros_toDigits {cs : List Char} (hne : cs ≠ []) (h : ∀ c ∈ cs, c.isDigit = true) :
    ∃ zeros, (∀ c ∈ zeros, c = '0') ∧
      cs = zeros ++ Nat.toDigits 10 (Nat.ofDigitChars 10 cs 0) := by
  induction cs using List.reverseRecOn with
  | nil => exact absurd rfl hne
  | append_singleton cs c ih =>
      obtain ⟨hcs, hc⟩ := List.forall_mem_append.mp h
      obtain ⟨hlt, hdigit⟩ := toDigits_digit (hc c (List.mem_singleton_self c))
      have hvalue : Nat.ofDigitChars 10 (cs ++ [c]) 0 =
          10 * Nat.ofDigitChars 10 cs 0 + (c.toNat - 48) := by
        simp [Nat.ofDigitChars_eq_foldl]
      rw [hvalue]
      by_cases hempty : cs = []
      · subst hempty
        exact ⟨[], by simp, by simp [Nat.ofDigitChars, hdigit]⟩
      · obtain ⟨zeros, hzeros, hdigits⟩ := ih hempty hcs
        rcases Nat.eq_zero_or_pos (Nat.ofDigitChars 10 cs 0) with hzero | hpos
        · -- Nothing but zeros came ahead, and they stay ahead.
          rw [hzero, Nat.toDigits_zero] at hdigits
          refine ⟨cs, ?_, by rw [hzero, Nat.mul_zero, Nat.zero_add, hdigit]⟩
          rw [hdigits]
          exact List.forall_mem_append.mpr ⟨hzeros, List.forall_mem_singleton.mpr rfl⟩
        · refine ⟨zeros, hzeros, ?_⟩
          rw [← Nat.toDigits_append_toDigits (by decide) hpos hlt, hdigit, ← List.append_assoc,
            ← hdigits]

theorem numberOf?_ten {cs : List Char} {n : Nat} : numberOf? 10 cs = some n ↔
    ∃ zeros, (∀ c ∈ zeros, c = '0') ∧ cs = zeros ++ Nat.toDigits 10 n := by
  unfold numberOf?
  rw [Option.ite_none_right_eq_some, Option.some.injEq, Bool.and_eq_true, List.all_eq_true]
  simp only [isDigitOf_ten, Bool.not_eq_true', List.isEmpty_eq_false_iff]
  constructor
  · rintro ⟨⟨hne, hdigits⟩, rfl⟩
    rw [numberOf_ten hdigits]
    exact eq_zeros_toDigits hne hdigits
  · rintro ⟨zeros, hzeros, rfl⟩
    have hdigits : ∀ c ∈ zeros ++ Nat.toDigits 10 n, c.isDigit = true := by
      refine List.forall_mem_append.mpr ⟨fun c hc => ?_, fun c hc => ?_⟩
      · rw [hzeros c hc]
        rfl
      · exact Nat.isDigit_of_mem_toDigits (by decide) (by decide) hc
    refine ⟨⟨by simp, hdigits⟩, ?_⟩
    rw [numberOf_ten hdigits, ofDigitChars_zeros hzeros, Nat.ofDigitChars_ten_toDigits]

/-! ## Numbers as they are accepted -/

/-- A word that is read as `n`: its digits, with zeros and one plus sign ahead of them if any. -/
def Numeral (word : List Char) (n : Nat) : Prop :=
  ∃ sign zeros, (sign = [] ∨ sign = ['+']) ∧ (∀ c ∈ zeros, c = '0') ∧
    word = sign ++ zeros ++ Nat.toDigits 10 n

theorem parseCount_iff {word : List Char} {n : Nat} :
    parseCount word = some n ↔ Numeral word n ∧ n < 2 ^ 64 := by
  have hbound : n ≤ maxCount ↔ n < 2 ^ 64 := Nat.lt_succ_iff.symm
  unfold parseCount
  rw [Option.filter_eq_some_iff, decide_eq_true_eq, hbound, numberOf?_ten, and_congr_left_iff]
  intro _
  constructor
  · rintro ⟨zeros, hzeros, hword⟩
    split at hword
    · exact ⟨['+'], zeros, Or.inr rfl, hzeros, congrArg ('+' :: ·) hword⟩
    · exact ⟨[], zeros, Or.inl rfl, hzeros, hword⟩
  · rintro ⟨sign, zeros, rfl | rfl, hzeros, rfl⟩
    · refine ⟨zeros, hzeros, ?_⟩
      split
      · -- A digit is no plus sign.
        rename_i rest heq
        have hplus : numberOf? 10 ('+' :: rest) = some n :=
          numberOf?_ten.mpr ⟨zeros, hzeros, heq.symm⟩
        cases hplus
      · rfl
    · exact ⟨zeros, hzeros, rfl⟩

theorem Numeral.word {word : List Char} {n : Nat} (h : Numeral word n) :
    word ≠ [] ∧ ∀ c ∈ word, isBlank c = false := by
  obtain ⟨sign, zeros, hsign, hzeros, rfl⟩ := h
  refine ⟨by simp, fun c hc => ?_⟩
  rcases List.mem_append.mp hc with hc | hc
  · rcases List.mem_append.mp hc with hc | hc
    · rcases hsign with rfl | rfl
      · cases hc
      · rw [List.mem_singleton.mp hc]
        rfl
    · rw [hzeros c hc]
      rfl
  · have hdigit := Nat.isDigit_of_mem_toDigits (by decide) (by decide) hc
    exact isBlank_of_isCallNameChar (by simp [isCallNameChar, Char.isAlphanum, hdigit])

/-! ## The last word -/

/-- A word begins behind `before`. -/
def EndsInBlank (before : List Char) : Prop :=
  ∀ c, before.getLast? = some c → isBlank c = true

theorem EndsInBlank.behind {blanks before : List Char} (h : EndsInBlank before)
    (hblanks : ∀ c ∈ blanks, isBlank c = true) : EndsInBlank (blanks ++ before) := by
  intro c hc
  rw [List.getLast?_append] at hc
  cases hlast : before.getLast? with
  | some d =>
      rw [hlast] at hc
      cases hc
      exact h c hlast
  | none =>
      rw [hlast] at hc
      exact hblanks c (List.mem_of_getLast? hc)

theorem rtakeWhile_word {before word : List Char} (hbefore : EndsInBlank before)
    (hword : ∀ c ∈ word, isBlank c = false) :
    (before ++ word).rtakeWhile (fun c => !isBlank c) = word := by
  have hstop : before.reverse.takeWhile (fun c => !isBlank c) = [] := by
    cases hlast : before.reverse with
    | nil => rfl
    | cons c rest =>
        have hc : before.getLast? = some c := by rw [← List.head?_reverse, hlast]; rfl
        simp [hbefore c hc]
  rw [List.rtakeWhile, List.reverse_append, List.takeWhile_append_of_pos, hstop, List.append_nil,
    List.reverse_reverse]
  intro c hc
  rw [hword c (List.mem_reverse.mp hc)]
  rfl

theorem cut_lastWord (cs : List Char) : EndsInBlank (cs.rdropWhile fun c => !isBlank c) ∧
    ∀ c ∈ cs.rtakeWhile fun c => !isBlank c, isBlank c = false := by
  refine ⟨fun c hc => ?_, fun c hc => by simpa using List.mem_rtakeWhile_imp hc⟩
  rw [← dropTailWhile_eq_rdropWhile] at hc
  simpa using getLast?_dropTailWhile hc

/-- The last word of a text is the last word of the text trimmed. -/
theorem lastWord?_eq (cs : List Char) : lastWord? cs =
    if trim cs = [] then none else some ((trim cs).rtakeWhile fun c => !isBlank c) := by
  obtain ⟨blanks, after, hcs, hblanks, hafter⟩ := trim_parts cs
  split
  · rename_i hempty
    have hall : ∀ c ∈ cs, isBlank c = true := by
      rw [hcs, hempty, List.append_nil]
      exact List.forall_mem_append.mpr ⟨hblanks, hafter⟩
    have hnil : trimEnd cs = [] := @dropTailWhile_append _ _ [] cs (fun _ h => nomatch h) hall
    rw [lastWord?, hnil]
  · rename_i hne
    have hlast : ∀ c, (blanks ++ trim cs).getLast? = some c → isBlank c = false := by
      intro c hc
      rw [List.getLast?_append_of_ne_nil _ hne] at hc
      exact (trimmed_trim cs).2 c hc
    have hend : trimEnd cs = blanks ++ trim cs := by
      conv_lhs => rw [hcs]
      exact dropTailWhile_append hlast hafter
    obtain ⟨hbefore, hword⟩ := cut_lastWord (trim cs)
    have hsame : (blanks ++ trim cs).rtakeWhile (fun c => !isBlank c) =
        (trim cs).rtakeWhile fun c => !isBlank c := by
      conv_lhs => rw [← List.rdropWhile_append_rtakeWhile (p := fun c => !isBlank c) (l := trim cs),
        ← List.append_assoc, rtakeWhile_word (hbefore.behind hblanks) hword]
    rw [← hsame, ← hend, lastWord?]
    split
    · rename_i hnil
      simp [hend, hne] at hnil
    · rfl

theorem lastWord?_iff {cs word : List Char} : lastWord? cs = some word ↔
    word ≠ [] ∧ (∀ c ∈ word, isBlank c = false) ∧
      ∃ before, EndsInBlank before ∧ trim cs = before ++ word := by
  rw [lastWord?_eq, Option.ite_none_left_eq_some, Option.some.injEq]
  constructor
  · rintro ⟨hne, rfl⟩
    obtain ⟨hbefore, hword⟩ := cut_lastWord (trim cs)
    refine ⟨?_, hword, _, hbefore, (List.rdropWhile_append_rtakeWhile ..).symm⟩
    rw [Ne, List.rtakeWhile_eq_nil_iff]
    intro hlast
    have := (trimmed_trim cs).2 _ (List.getLast?_eq_getLast_of_ne_nil hne)
    exact hlast hne (by simp [this])
  · rintro ⟨hne, hword, before, hbefore, hcs⟩
    rw [hcs]
    exact ⟨by simp [hne], rtakeWhile_word hbefore hword⟩

/-! ## What is read, and what is meant -/

/-- The last word of the text is read as `n`. -/
def EndsInCount (cs : List Char) (n : Nat) : Prop :=
  ∃ before word, EndsInBlank before ∧ trim cs = before ++ word ∧ Numeral word n

theorem trailingCount_iff {cs : List Char} {n : Nat} :
    trailingCount cs = some n ↔ EndsInCount cs n ∧ n < 2 ^ 64 := by
  simp only [trailingCount, Option.bind_eq_some_iff, parseCount_iff, lastWord?_iff]
  constructor
  · rintro ⟨word, ⟨-, -, before, hbefore, hcs⟩, hnumeral, hn⟩
    exact ⟨⟨before, word, hbefore, hcs, hnumeral⟩, hn⟩
  · rintro ⟨⟨before, word, hbefore, hcs, hnumeral⟩, hn⟩
    obtain ⟨hne, hword⟩ := hnumeral.word
    exact ⟨word, ⟨hne, hword, before, hbefore, hcs⟩, hnumeral, hn⟩

/-- Nothing, or one keyword and blanks. -/
def IsLead (lead : List Char) : Prop :=
  lead = [] ∨ ∃ keyword gap, keyword ≠ [] ∧ (∀ c ∈ keyword, isLetter c = true) ∧ IsGap gap ∧
    lead = keyword ++ gap

theorem IsLead.endsInBlank {lead : List Char} (h : IsLead lead) : EndsInBlank lead := by
  rintro c hc
  rcases h with rfl | ⟨keyword, gap, -, -, ⟨hne, hgap⟩, rfl⟩
  · cases hc
  · rw [List.getLast?_append_of_ne_nil _ hne] at hc
    exact hgap c (List.mem_of_getLast? hc)

/-- The digits of `n`, perhaps behind a keyword, and nothing else but outer blanks. -/
def IsRowCount (cs : List Char) (n : Nat) : Prop :=
  ∃ lead, IsLead lead ∧ trim cs = lead ++ Nat.toDigits 10 n

theorem numeral_toDigits (n : Nat) : Numeral (Nat.toDigits 10 n) n :=
  ⟨[], [], Or.inl rfl, by simp, rfl⟩

theorem IsRowCount.endsInCount {cs : List Char} {n : Nat} (h : IsRowCount cs n) :
    EndsInCount cs n := by
  obtain ⟨lead, hlead, hcs⟩ := h
  exact ⟨lead, Nat.toDigits 10 n, hlead.endsInBlank, hcs, numeral_toDigits n⟩

/-- At most one keyword comes ahead of the last word, and that word begins with no plus sign and no
zero that others follow. -/
def Unadorned (cs : List Char) : Prop :=
  ∃ lead word, IsLead lead ∧ trim cs = lead ++ word ∧ (∀ c ∈ word, isBlank c = false) ∧
    word.head? ≠ some '+' ∧ ∀ rest, word = '0' :: rest → rest = []

theorem EndsInCount.isRowCount {cs : List Char} {n : Nat} (h : EndsInCount cs n)
    (hbare : Unadorned cs) : IsRowCount cs n := by
  obtain ⟨before, word, hbefore, hcs, hnumeral⟩ := h
  obtain ⟨lead, word', hlead, hcs', hword', hplus, hzero⟩ := hbare
  -- Both are the last word of the same text.
  obtain rfl : word = word' := by
    rw [← rtakeWhile_word hbefore hnumeral.word.2, ← hcs, hcs',
      rtakeWhile_word hlead.endsInBlank hword']
  obtain ⟨sign, zeros, hsign, hzeros, rfl⟩ := hnumeral
  refine ⟨lead, hlead, ?_⟩
  rcases hsign with rfl | rfl
  · cases zeros with
    | nil => exact hcs'
    | cons c zeros =>
        obtain rfl := hzeros c (List.mem_cons_self ..)
        have hnil := hzero _ rfl
        simp at hnil
  · exact absurd rfl hplus

/-! ## In a request -/

section
variable {request : Request}

theorem topXLimit_of_line {line : Line} (hline : request.topXLine? = some line) :
    request.topXLimit =
      match (trailingCount line.text.toList).filter (0 < ·) with
      | some n => .ok (some n)
      | none => .error (.invalidTopX line.text) := by
  simp only [Request.topXLimit, hline]
  cases trailingCount line.text.toList with
  | none => rfl
  | some n => cases n <;> rfl

theorem topXLimit_some {n : Nat} : request.topXLimit = .ok (some n) ↔
    ∃ line, request.topXLine? = some line ∧ EndsInCount line.text.toList n ∧
      0 < n ∧ n < 2 ^ 64 := by
  cases hline : request.topXLine? with
  | none => simp [Request.topXLimit, hline]
  | some line =>
      have hcount : (trailingCount line.text.toList).filter (0 < ·) = some n ↔
          EndsInCount line.text.toList n ∧ 0 < n ∧ n < 2 ^ 64 := by
        rw [Option.filter_eq_some_iff, trailingCount_iff, decide_eq_true_eq]
        tauto
      rw [topXLimit_of_line hline]
      simp only [Option.some.injEq, exists_eq_left', ← hcount]
      split <;> simp_all

theorem topXLimit_error {line : Line} (hline : request.topXLine? = some line)
    (hnone : ∀ n, 0 < n → n < 2 ^ 64 → ¬ EndsInCount line.text.toList n) :
    request.topXLimit = .error (.invalidTopX line.text) ∧
      ((∃ fault, request.validate = .error (.invalidRequest fault)) ∨
        request.validate = .error (.invalidTopX line.text)) := by
  have hcount : (trailingCount line.text.toList).filter (0 < ·) = none := by
    rw [Option.eq_none_iff_forall_ne_some]
    intro n hn
    rw [Option.filter_eq_some_iff, trailingCount_iff, decide_eq_true_eq] at hn
    exact hnone n hn.2 hn.1.2 hn.1.1
  have hlimit : request.topXLimit = .error (.invalidTopX line.text) := by
    rw [topXLimit_of_line hline, hcount]
  refine ⟨hlimit, ?_⟩
  cases hvalid : request.validate with
  | ok u =>
      obtain ⟨limit, hok⟩ := (validate_ok.mp hvalid).limit
      rw [hlimit] at hok
      cases hok
  | error failure =>
      rcases invalidRequest_or_of_validate hvalid with ⟨fault, rfl⟩ | hfault
      · exact Or.inl ⟨fault, rfl⟩
      · rw [hlimit] at hfault
        cases hfault
        exact Or.inr rfl

/-- The first line that carries a limit is the one that is read. -/
theorem topXLine?_of_lines {before after : List Line} {line : Line}
    (hlines : request.lines = before ++ line :: after) (hline : Request.isTopXLimit line = true)
    (hbefore : ∀ other ∈ before, Request.isTopXLimit other = false) :
    request.topXLine? = some line := by
  have hnone : before.find? Request.isTopXLimit = none :=
    List.find?_eq_none.mpr fun other hother => Bool.eq_false_iff.mp (hbefore other hother)
  rw [Request.topXLine?, hlines, List.find?_append, hnone, List.find?_cons_of_pos hline]
  rfl

end

theorem isRowCount_rowCap (n : Nat) : IsRowCount (Line.rowCap n).text.toList n := by
  have htext : (Line.rowCap n).text.toList = Nat.toDigits 10 n := by
    simp [Line.rowCap]
  have hword := (numeral_toDigits n).word.2
  refine ⟨[], Or.inl rfl, ?_⟩
  rw [htext, List.nil_append]
  exact Trimmed.trim ⟨fun c hc => hword c (List.mem_of_head? hc),
    fun c hc => hword c (List.mem_of_getLast? hc)⟩

/-! ## The headline -/

/-- **A row count is read wherever one is written**, and what is read is the last word of the line.
A line that ends in no count in range is refused by its text, by validation too unless that stops
earlier. Where the text is plain, nothing but a row count is read; and a cap that was written as a
number is read back. -/
theorem row_counts_read (request : Request) :
    (∀ n, request.topXLimit = .ok (some n) ↔ ∃ line, request.topXLine? = some line ∧
      EndsInCount line.text.toList n ∧ 0 < n ∧ n < 2 ^ 64) ∧
    (∀ line, request.topXLine? = some line →
      (∀ n, 0 < n → n < 2 ^ 64 → ¬ EndsInCount line.text.toList n) →
      request.topXLimit = .error (.invalidTopX line.text) ∧
        ((∃ fault, request.validate = .error (.invalidRequest fault)) ∨
          request.validate = .error (.invalidTopX line.text))) ∧
    (∀ line n, request.topXLine? = some line → IsRowCount line.text.toList n →
      0 < n → n < 2 ^ 64 → request.topXLimit = .ok (some n)) ∧
    (∀ line, request.topXLine? = some line → Unadorned line.text.toList →
      (∀ n, request.topXLimit = .ok (some n) ↔
        IsRowCount line.text.toList n ∧ 0 < n ∧ n < 2 ^ 64) ∧
      ((∀ n, 0 < n → n < 2 ^ 64 → ¬ IsRowCount line.text.toList n) →
        request.topXLimit = .error (.invalidTopX line.text))) ∧
    (∀ n before after, request.lines = before ++ .rowCap n :: after →
      (∀ other ∈ before, Request.isTopXLimit other = false) → 0 < n → n < 2 ^ 64 →
      request.topXLimit = .ok (some n)) := by
  have hread (line : Line) (n : Nat) (hline : request.topXLine? = some line)
      (hcount : IsRowCount line.text.toList n) (hpos : 0 < n) (hn : n < 2 ^ 64) :
      request.topXLimit = .ok (some n) :=
    topXLimit_some.mpr ⟨line, hline, hcount.endsInCount, hpos, hn⟩
  refine ⟨fun n => topXLimit_some, fun line => topXLimit_error, hread, ?_, ?_⟩
  · intro line hline hbare
    refine ⟨fun n => ⟨fun hlimit => ?_, fun ⟨hcount, hpos, hn⟩ => ?_⟩, fun hnone => ?_⟩
    · obtain ⟨line', hline', hends, hrange⟩ := topXLimit_some.mp hlimit
      rw [hline, Option.some.injEq] at hline'
      subst hline'
      exact ⟨hends.isRowCount hbare, hrange⟩
    · exact hread line n hline hcount hpos hn
    · exact (topXLimit_error hline fun n hpos hn hends =>
        hnone n hpos hn (hends.isRowCount hbare)).1
  · intro n before after hlines hbefore hpos hn
    exact hread _ n (topXLine?_of_lines hlines rfl hbefore) (isRowCount_rowCap n) hpos hn

/-- A count behind a keyword, one written as a number, and a word that is none. -/
theorem row_counts_read_limit :
    let request (line : Line) : Request := ⟨[.plain .select "a", line], none⟩
    (request ⟨" LIMIT\t5 ", .trailing, .topX⟩).topXLimit = .ok (some 5) ∧
      (request (.rowCap 18446744073709551615)).topXLimit = .ok (some 18446744073709551615) ∧
      (request ⟨"LIMIT 18446744073709551616", .select, .topX⟩).topXLimit =
        .error (.invalidTopX "LIMIT 18446744073709551616") := by
  intro request
  refine ⟨?_, ?_, ?_⟩
  · obtain ⟨-, -, -, hbare, -⟩ := row_counts_read (request ⟨" LIMIT\t5 ", .trailing, .topX⟩)
    have hlead : IsLead "LIMIT\t".toList :=
      Or.inr ⟨"LIMIT".toList, ['\t'], by simp, List.all_eq_true.mp (by decide),
        ⟨by simp, List.forall_mem_singleton.mpr rfl⟩, rfl⟩
    have htrim : trim " LIMIT\t5 ".toList = "LIMIT\t".toList ++ ['5'] := by decide
    refine ((hbare _ rfl ⟨_, ['5'], hlead, htrim, ?_⟩).1 5).mpr ⟨⟨_, hlead, htrim⟩, ?_⟩
    · exact ⟨List.forall_mem_singleton.mpr rfl, by simp, fun rest h => nomatch h⟩
    · exact ⟨by decide, by decide⟩
  · obtain ⟨-, -, -, -, hcap⟩ := row_counts_read (request (.rowCap 18446744073709551615))
    exact hcap _ [.plain .select "a"] [] rfl (by decide) (by decide) (by decide)
  · obtain ⟨-, hrefused, -⟩ :=
      row_counts_read (request ⟨"LIMIT 18446744073709551616", .select, .topX⟩)
    refine (hrefused _ rfl fun n _ hn hends => ?_).1
    have hnone : trailingCount "LIMIT 18446744073709551616".toList = none := by decide +kernel
    rw [trailingCount_iff.mpr ⟨hends, hn⟩] at hnone
    cases hnone

/-- Behind an offset, the offset is what is read. -/
theorem offset_read_as_count :
    let line : Line := ⟨"LIMIT 5 OFFSET 10", .trailing, .topX⟩
    let request : Request := ⟨[.plain .select "a", .plain .table "t", line], none⟩
    request.topXLine? = some line ∧ (∀ n, ¬ IsRowCount line.text.toList n) ∧
      request.topXLimit = .ok (some 10) ∧ request.validate = .ok () := by
  intro line request
  refine ⟨by decide, ?_, by decide +kernel, by decide +kernel⟩
  rintro n ⟨lead, hlead, hcs⟩
  have hword : (trim line.text.toList).rtakeWhile (fun c => !isBlank c) = Nat.toDigits 10 n := by
    rw [hcs, rtakeWhile_word hlead.endsInBlank (numeral_toDigits n).word.2]
  have hlast : (trim line.text.toList).rtakeWhile (fun c => !isBlank c) = ['1', '0'] := by decide
  have hcut : trim line.text.toList = "LIMIT 5 OFFSET ".toList ++ ['1', '0'] := by decide
  rw [← hword, hlast, hcut] at hcs
  have hfive : '5' ∈ lead := by
    rw [← List.append_cancel_right hcs]
    decide
  rcases hlead with rfl | ⟨keyword, gap, -, hletters, ⟨-, hgap⟩, rfl⟩
  · cases hfive
  · rcases List.mem_append.mp hfive with hkeyword | hblank
    · cases hletters _ hkeyword
    · cases hgap _ hblank

end Crosstab
