import Crosstab.Line
import Crosstab.Proofs.Nesting

/-!
# Closed parts of a call

A count is taken apart and written anew around a condition. What was inside its parentheses is
closed for the reason that the parentheses were found to match (`enclosed?_some`), and its name
and a leading `DISTINCT` are words without structure.

`IsCall` is the grammar of what is taken apart, and `splitCall_grammar` says that nothing else is.
-/

namespace Crosstab

/-! ## Words without structure -/

theorem isClosed_drop_inert {n : Nat} {cs : List Char} (hn : ∀ c ∈ cs.take n, isInert c = true)
    (h : isClosed cs = true) : isClosed (cs.drop n) = true := by
  induction n generalizing cs with
  | zero => exact h
  | succ n ih =>
      cases cs with
      | nil => exact h
      | cons c cs =>
          rw [List.take_succ_cons, List.forall_mem_cons] at hn
          rw [isClosed_cons_inert hn.1] at h
          exact ih hn.2 h

/-! ## Calls -/

/-- A fragment that is one call and nothing else: a name of ASCII letters, digits, `_` and `.`,
perhaps blanks, and well nested text in the parentheses that end the fragment. -/
structure IsCall (cs name argument : List Char) : Prop where
  named : name ≠ []
  word : ∀ c ∈ name, c.isAlphanum = true ∨ c = '_' ∨ c = '.'
  spelled : ∃ blanks inner, (∀ c ∈ blanks, isBlank c = true) ∧ Nested inner ∧
    trim cs = name ++ blanks ++ '(' :: (inner ++ [')']) ∧ argument = trim inner

theorem isCallNameChar_iff {c : Char} :
    isCallNameChar c = true ↔ c.isAlphanum = true ∨ c = '_' ∨ c = '.' := by
  simp [isCallNameChar, or_assoc]

theorem isBlank_of_isCallNameChar {c : Char} (h : isCallNameChar c = true) :
    isBlank c = false := by
  have hclass : (decide ('A'.val ≤ c.val ∧ c.val ≤ 'Z'.val) ||
      (decide ('a'.val ≤ c.val) && decide (c.val ≤ 'z'.val)) ||
      (decide ('0'.val ≤ c.val) && decide (c.val ≤ '9'.val)) || c == '_' || c == '.') = true := h
  -- Everything that a name is made of lies between the dot and the last small letter.
  have hrange : '.'.val.toNat ≤ c.toNat ∧ c.toNat ≤ 'z'.val.toNat := by
    simp only [Bool.or_eq_true, Bool.and_eq_true, decide_eq_true_eq, beq_iff_eq,
      UInt32.le_iff_toNat_le] at hclass
    have hval : c.toNat = c.val.toNat := rfl
    have hdot : '.'.val.toNat = 46 ∧ '0'.val.toNat = 48 ∧ 'A'.val.toNat = 65 ∧
        'a'.val.toNat = 97 := ⟨rfl, rfl, rfl, rfl⟩
    have hlast : '9'.val.toNat = 57 ∧ 'Z'.val.toNat = 90 ∧ 'z'.val.toNat = 122 := ⟨rfl, rfl, rfl⟩
    rcases hclass with (((hupper | hlower) | hdigit) | rfl) | rfl
    · omega
    · omega
    · omega
    · decide
    · decide
  have hdot : '.'.val.toNat = 46 := rfl
  have hlast : 'z'.val.toNat = 122 := rfl
  simp only [isBlank, Bool.or_eq_false_iff, Bool.and_eq_false_iff, decide_eq_false_iff_not,
    beq_eq_false_iff_ne]
  omega

theorem trimmed_callName {name : List Char} (hname : ∀ c ∈ name, isCallNameChar c = true) :
    Trimmed name := by
  constructor
  · intro c hc
    exact isBlank_of_isCallNameChar (hname c (List.mem_of_head? hc))
  · intro c hc
    exact isBlank_of_isCallNameChar (hname c (List.mem_of_getLast? hc))

/-- A call that was split has a name that is one word, and its argument stood in the parentheses at
its end. -/
theorem splitCall_some {cs name argument : List Char}
    (h : splitCall cs = some (name, argument)) : IsCall cs name argument := by
  rw [splitCall] at h
  split at h
  · cases h
  · rename_i c rest hrest
    dsimp only at h
    split at h
    · cases h
    · rename_i hname
      simp only [Bool.or_eq_true, not_or, Bool.not_eq_true', Bool.not_eq_false] at hname
      split at h
      · rename_i inner hinner
        cases h
        obtain ⟨hclosed, rfl⟩ := enclosed?_some hinner
        have hopen : c = '(' := by
          have hhead := List.head?_dropWhile_not (· != '(') (trim cs)
          simpa [hrest] using hhead
        subst hopen
        refine ⟨by simpa using hname.1,
          fun c hc => isCallNameChar_iff.mp (List.all_eq_true.mp hname.2 c hc),
          ((trim cs).takeWhile (· != '(')).rtakeWhile isBlank, inner,
          fun c hc => List.mem_rtakeWhile_imp hc, isClosed_iff_nested.mp hclosed, ?_, rfl⟩
        -- The name begins the trimmed fragment, so there are blanks only behind it.
        rw [trim_append_rtakeWhile (List.takeWhile_prefix _) (trimmed_trim cs).1, ← hrest,
          List.takeWhile_append_dropWhile]
      · cases h

/-- A call is split into its name and what stands between its parentheses. -/
theorem IsCall.splitCall {cs name argument : List Char} (h : IsCall cs name argument) :
    splitCall cs = some (name, argument) := by
  obtain ⟨hne, hname, blanks, inner, hblanks, hnested, hcs, rfl⟩ := h
  have hword : ∀ c ∈ name, isCallNameChar c = true :=
    fun c hc => isCallNameChar_iff.mpr (hname c hc)
  have hopen : ∀ c ∈ name ++ blanks, (c != '(') = true := by
    intro c hc
    rw [bne_iff_ne]
    rintro rfl
    rcases List.mem_append.mp hc with hc | hc
    · cases hword _ hc
    · cases hblanks _ hc
  have hvalid : (name.isEmpty || !name.all isCallNameChar) = false := by
    simpa [hne] using hword
  rw [Crosstab.splitCall, hcs, List.dropWhile_append_of_pos hopen,
    List.takeWhile_append_of_pos hopen]
  simp [trim_append_blanks (trimmed_callName hword) hblanks, enclosed?_closed hnested.isClosed,
    hvalid]

/-- A name before a closed text in parentheses is the call that it looks like. -/
theorem isCall_of_closed {name inner : List Char} (hne : name ≠ [])
    (hname : ∀ c ∈ name, isCallNameChar c = true) (hinner : isClosed inner = true) :
    IsCall (name ++ '(' :: (inner ++ [')'])) name (trim inner) := by
  have htrimmed : Trimmed (name ++ '(' :: (inner ++ [')'])) := by
    constructor
    · obtain ⟨c, rest, rfl⟩ := List.exists_cons_of_ne_nil hne
      exact (trimmed_callName hname).1
    · intro c hc
      rw [← List.cons_append, ← List.append_assoc, List.getLast?_concat, Option.some.injEq] at hc
      exact hc ▸ rfl
  refine ⟨hne, fun c hc => isCallNameChar_iff.mp (hname c hc), [], inner, ?_,
    isClosed_iff_nested.mp hinner, ?_, rfl⟩
  · exact fun c hc => absurd hc List.not_mem_nil
  · rw [htrimmed.trim, List.append_nil]

theorem isClosed_callName {name : List Char} (h : ∀ c ∈ name, isCallNameChar c = true) :
    isClosed name = true :=
  isClosed_inert fun c hc => isInert_of (p := isCallNameChar) (by decide) (h c hc)

theorem isClosed_splitCall {cs function argument : List Char}
    (h : splitCall cs = some (function, argument)) :
    isClosed function = true ∧ isClosed argument = true := by
  obtain ⟨-, hname, _, inner, -, hinner, -, rfl⟩ := splitCall_some h
  exact ⟨isClosed_callName fun c hc => isCallNameChar_iff.mpr (hname c hc),
    isClosed_trim hinner.isClosed⟩

theorem call?_iff {line : Line} {function argument : String} :
    line.call? = some (function, argument) ↔
      splitCall line.expression.toList = some (function.toList, argument.toList) := by
  unfold Line.call?
  constructor
  · intro h
    obtain ⟨⟨name, inner⟩, hsplit, heq⟩ := Option.map_eq_some_iff.mp h
    cases heq
    rw [hsplit, String.toList_ofList, String.toList_ofList]
  · intro h
    rw [h, Option.map_some, String.ofList_toList, String.ofList_toList]

theorem closed_call? {line : Line} {function argument : String}
    (h : line.call? = some (function, argument)) : Closed function ∧ Closed argument :=
  isClosed_splitCall (call?_iff.mp h)

theorem callName_of_call? {line : Line} {function argument : String}
    (h : line.call? = some (function, argument)) :
    function.toList ≠ [] ∧ ∀ c ∈ function.toList, isCallNameChar c = true := by
  obtain ⟨hne, hname, -⟩ := splitCall_some (call?_iff.mp h)
  exact ⟨hne, fun c hc => isCallNameChar_iff.mpr (hname c hc)⟩

theorem isInert_of_toUpper {c : Char} (h : isInert c.toUpper = true) : isInert c = true := by
  refine isInert_of (p := fun c => isInert c.toUpper) ?_ h
  decide

theorem isClosed_stripDistinct {cs inner : List Char} (h : stripDistinct cs = some inner)
    (hcs : isClosed cs = true) : isClosed inner = true := by
  rw [stripDistinct] at h
  split at h
  · rename_i hword
    cases h
    refine isClosed_dropWhile (fun _ => isInert_of_isBlank) (isClosed_drop_inert ?_ hcs)
    intro c hc
    have hupper : c.toUpper ∈ "DISTINCT ".toList := hword ▸ List.mem_map_of_mem hc
    have hinert : "DISTINCT ".toList.all isInert = true := by decide
    exact isInert_of_toUpper (List.all_eq_true.mp hinert _ hupper)
  · cases h

/-! ## The headline -/

/-- **A fragment is split as a call exactly when it is one**, whatever is quoted in it, and
everything else is refused. A line is split as its expression is. -/
theorem splitCall_grammar :
    (∀ cs name argument, splitCall cs = some (name, argument) ↔ IsCall cs name argument) ∧
    (∀ cs, splitCall cs = none ↔ ∀ name argument, ¬ IsCall cs name argument) ∧
    (∀ cs, isClosed cs = true ↔ Nested cs) ∧
    (∀ (line : Line) function argument, line.call? = some (function, argument) ↔
      IsCall line.expression.toList function.toList argument.toList) := by
  have hiff (cs name argument : List Char) :
      splitCall cs = some (name, argument) ↔ IsCall cs name argument :=
    ⟨splitCall_some, IsCall.splitCall⟩
  refine ⟨hiff, fun cs => ?_, fun _ => isClosed_iff_nested, fun line function argument => ?_⟩
  · simp [Option.eq_none_iff_forall_ne_some, hiff]
  · rw [call?_iff, hiff]

/-- Quotes in the argument do not count, a closer that is doubled in them ends nothing. -/
example : splitCall " max (f(a, ')'), [b)]]]) ".toList =
      some ("max".toList, "f(a, ')'), [b)]]]".toList) ∧
    splitCall "(SUM(x))".toList = none ∧ splitCall "SUM(x) / SUM(y)".toList = none ∧
    splitCall "SUM([x]])".toList = none := by
  decide +kernel

end Crosstab
