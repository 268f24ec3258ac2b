import Crosstab.Proofs.LookAhead
import Crosstab.Proofs.NamesReadBack

/-!
# Cuts in range

The readers of `Fragment` pass on what they have not read yet, so they cannot cut a text where it
must not be cut. Here the same readers work as they would on bytes: they remember offsets from a
scan, compute others from them, and cut another view of the text there, each time at the risk of a
`Fault`. `cuts_in_range` says that none of them ever takes it: on every text they come to an end,
and to the same one as the readers of `Fragment`.

An offset stays on the edge of a character for one of three reasons. A scan has put it there
(`lastBreak_scan`, `cutParts_placed`), it was computed from the widths of the characters that it
steps over (`slice_between`), or these are ASCII and take one byte each (`slice_parens`,
`byteLength_of_toUpper`).
-/

namespace Crosstab

namespace Checked

open LookAhead (Scanned scan placed offsets)

/-! ## Readers that cut at offsets -/

/-- The name that a trimmed text spells, cut out between its quotes. -/
def unquote (cs : List Char) : Except Fault (List Char) :=
  let ident := trim cs
  match ident.head?, ident.getLast? with
  | some first, some last =>
    if byteLength ident < 2 then .ok ident
    else
      match identCloser? first with
      | none => .ok ident
      | some closer =>
        if last ≠ closer then .ok ident
        else do
          let stop ← less (byteLength ident) last.utf8Size
          let inner ← slice ident first.utf8Size stop
          .ok (undouble closer inner)
  | _, _ => .ok ident

/-- Whether the entries begin with `AS` between blanks: the offsets of the two blanks. -/
def breakAt : List Scanned → Option (Nat × Nat)
  | s :: a :: b :: after :: _ =>
    if s.top && isBlank s.ch && a.top && b.top && (a.ch == 'a' || a.ch == 'A') &&
        (b.ch == 's' || b.ch == 'S') && isBlank after.ch
    then some (s.pos, after.pos)
    else none
  | _ => none

/-- The last `AS` between blanks; a later one replaces the one that was found before. -/
def lastBreak (found : Option (Nat × Nat)) : List Scanned → Option (Nat × Nat)
  | [] => found
  | entry :: entries => lastBreak ((breakAt (entry :: entries)).or found) entries

/-- The expression of a fragment and its alias, cut at the offsets of the blanks around the `AS`. -/
def splitAlias (cs : List Char) : Except Fault (List Char × Option (List Char)) :=
  let trimmed := tidy cs
  match lastBreak none (scan trimmed) with
  | none => .ok (trimmed, none)
  | some (exprEnd, aliasStart) => do
    let behind ← sliceFrom trimmed aliasStart
    if trim behind = [] then .ok (trimmed, none)
    else
      let ahead ← sliceTo trimmed exprEnd
      let name ← unquote (trim behind)
      .ok (trimEnd ahead, some name)

/-- The name and the argument of a call, cut at the offsets of its parentheses. -/
def splitCall (cs : List Char) : Except Fault (Option (List Char × List Char)) :=
  let expr := trim cs
  match (offsets 0 expr).find? (·.2 == '(') with
  | none => .ok none
  | some (opening, _) => do
    let ahead ← sliceTo expr opening
    let name := trim ahead
    if name.isEmpty || !name.all isCallNameChar then .ok none
    else
      match ← LookAhead.matchingParen expr opening with
      | none => .ok none
      | some closing =>
        let last ← less (byteLength expr) 1
        if closing ≠ last then .ok none
        else
          let argument ← slice expr (opening + 1) closing
          .ok (some (name, trim argument))

/-- Whether the parenthesis that begins the trimmed text is closed at its last byte. -/
def isWrapped (cs : List Char) : Except Fault Bool :=
  let text := trim cs
  if text.head? = some '(' then do
    let closing ← LookAhead.matchingParen text 0
    let last ← less (byteLength text) 1
    .ok (closing == some last)
  else .ok false

/-- The parts between the dots of the entries; the one being read began at the offset `start`. -/
def cutParts (expr : List Char) (start : Nat) : List Scanned → Except Fault (List (List Char))
  | [] => do
    let part ← sliceFrom expr start
    .ok [part]
  | s :: entries =>
    if s.top && s.ch == '.' then do
      let part ← slice expr start s.pos
      let parts ← cutParts expr (s.pos + 1) entries
      .ok (part :: parts)
    else cutParts expr start entries

/-- The name of a column, cut out between the dots of a reference. -/
def runtimeName (cs : List Char) : Except Fault (Option (List Char)) := do
  match ← splitAlias cs with
  | (_, some name) => .ok (some name)
  | (expr, none) =>
    let parts ← cutParts expr 0 (scan expr)
    match parts.getLast? with
    | none => .ok none
    | some part =>
      let last := trim part
      if last.isEmpty then .ok none
      else if !(parts.map trim).all (fun p => p.isEmpty || isBareName p || isQuotedName p) ||
          !(isBareName last || isQuotedName last) then .ok none
      else
        let name ← unquote last
        .ok (some name)

/-- The argument behind the nine bytes of `DISTINCT` and a space, if it has as many. -/
def stripDistinct (cs : List Char) : Except Fault (Option (List Char)) :=
  match sliceTo cs 9 with
  | .error _ => .ok none
  | .ok head =>
    if head.map Char.toUpper = "DISTINCT ".toList then do
      let behind ← sliceFrom cs 9
      .ok (some (trimStart behind))
    else .ok none

/-! ## Names -/

theorem utf8Size_of_identCloser? {o q : Char} (h : identCloser? o = some q) : o.utf8Size = 1 := by
  unfold identCloser? at h
  split at h <;> cases h <;> rfl

/-- What stands between the first and the last character is cut out by their widths. -/
theorem slice_between (first last : Char) (inner : List Char) :
    ∃ stop, less (byteLength (first :: (inner ++ [last]))) last.utf8Size = .ok stop ∧
      slice (first :: (inner ++ [last])) first.utf8Size stop = .ok inner := by
  have hlength : byteLength (first :: (inner ++ [last])) =
      byteLength (first :: inner) + last.utf8Size := byteLength_append (first :: inner) [last]
  refine ⟨byteLength (first :: inner), ?_, slice_append [first] inner [last]⟩
  rw [less_of_le (by omega), hlength, Nat.add_sub_cancel]

theorem two_le_byteLength (first last : Char) (inner : List Char) :
    2 ≤ byteLength (first :: (inner ++ [last])) := by
  have hfirst := first.utf8Size_pos
  have hlast := last.utf8Size_pos
  rw [byteLength_cons, byteLength_append, byteLength_cons]
  omega

theorem unquote_eq (cs : List Char) : unquote cs = .ok (Crosstab.unquote cs) := by
  unfold unquote Crosstab.unquote
  cases trim cs with
  | nil => rfl
  | cons c rest =>
      dsimp only [List.head?_cons]
      cases hcloser : identCloser? c with
      | none => simp [List.getLast?_cons, hcloser]
      | some q =>
          rcases List.eq_nil_or_concat rest with rfl | ⟨inner, last, rfl⟩
          · -- One quote is both ends of the text, and only its width tells that it is no pair.
            have hshort : byteLength [c] < 2 := by
              rw [byteLength_cons, utf8Size_of_identCloser? hcloser]
              decide
            simp [hshort]
          · obtain ⟨stop, hstop, hinner⟩ := slice_between c last inner
            have hlong := (two_le_byteLength c last inner).not_gt
            rw [List.concat_eq_append, ← List.cons_append, List.getLast?_concat, List.cons_append]
            by_cases hlast : last = q
            · subst hlast
              simp [hcloser, hlong, hstop, hinner, Fault.ok_bind]
            · simp [hcloser, hlast]

/-! ## The alias -/

/-- The entries begin with an `AS` where the marks do, and the offsets are those of the blanks. -/
theorem breakAt_placed (pos : Nat) (ms : List (Char × Bool)) :
    breakAt (placed pos ms) =
      if startsAs ms then some (pos, pos + byteLength ((ms.take 3).map Prod.fst)) else none := by
  rcases ms with _ | ⟨⟨b, top⟩, _ | ⟨⟨a, atop⟩, _ | ⟨⟨s, stop⟩, _ | ⟨⟨b', btop⟩, rest⟩⟩⟩⟩
  · rfl
  · cases top <;> rfl
  · cases top <;> cases atop <;> rfl
  · cases top <;> cases atop <;> cases stop <;> rfl
  · cases top <;> cases atop <;> cases stop <;>
      simp [placed, breakAt, startsAs, byteLength, Nat.add_assoc]

theorem lastBreak_placed (found : Option (Nat × Nat)) (pos : Nat) (ms : List (Char × Bool)) :
    lastBreak found (placed pos ms) = ((splitLast startsAs ms).map fun cut =>
      (pos + byteLength (cut.1.map Prod.fst),
        pos + byteLength ((cut.1 ++ cut.2.take 3).map Prod.fst))).or found := by
  induction ms generalizing found pos with
  | nil => rfl
  | cons m ms ih =>
      have hplaced : placed pos (m :: ms) = ⟨pos, m.1, m.2⟩ :: placed (pos + m.1.utf8Size) ms := rfl
      rw [hplaced, lastBreak, ← hplaced, ih, breakAt_placed, splitLast]
      cases splitLast startsAs ms with
      | some cut => simp [byteLength_cons, Nat.add_assoc]
      | none => cases startsAs (m :: ms) <;> simp [byteLength]

theorem lastBreak_scan (cs : List Char) :
    lastBreak none (scan cs) = (splitLast startsAs (marks cs)).map fun cut =>
      (byteLength (cut.1.map Prod.fst), byteLength ((cut.1 ++ cut.2.take 3).map Prod.fst)) := by
  simp [LookAhead.scan_eq, lastBreak_placed]

/-- What ends a text without a blank at its end is more than blanks. -/
theorem trim_ne_nil_of_isSuffix {as bs : List Char} (h : as <:+ bs) (hne : as ≠ [])
    (hb : ∀ c, bs.getLast? = some c → isBlank c = false) : trim as ≠ [] := by
  intro hnil
  have hblanks := takeWhile_append_trim h hb
  rw [hnil, List.append_nil] at hblanks
  have hlast := List.getLast?_eq_getLast_of_ne_nil hne
  have hmem : as.getLast hne ∈ as.takeWhile isBlank := by
    rw [hblanks]
    exact List.getLast_mem hne
  have hsolid := hb _ (getLast?_of_isSuffix h hlast)
  rw [List.mem_takeWhile_imp hmem] at hsolid
  cases hsolid

/-- Something follows the blank behind the last `AS`: no tidied fragment ends in a blank. -/
theorem name_ne_nil {cs : List Char} {before tail : List (Char × Bool)}
    (h : splitLast startsAs (marks (tidy cs)) = some (before, tail)) :
    trim ((tail.map Prod.fst).drop 3) ≠ [] := by
  obtain ⟨-, b, word, b', rest, htail, hcs, -, ⟨a, s, rfl, -⟩, -⟩ := splitLast_marks h
  have hdrop : (tail.map Prod.fst).drop 3 = b' :: rest := by
    rw [htail]
    rfl
  have hsuffix : b' :: rest <:+ tidy cs := ⟨before.map Prod.fst ++ [b, a, s], by simp [hcs]⟩
  rw [hdrop]
  exact trim_ne_nil_of_isSuffix hsuffix (List.cons_ne_nil _ _) (trimmed_tidy cs).2

/-- The offsets at which an alias is cut off, and what stands on either side of them. -/
theorem cuts_of_lastBreak {cs : List Char} {before tail : List (Char × Bool)}
    (h : splitLast startsAs (marks (tidy cs)) = some (before, tail)) :
    sliceTo (tidy cs) (byteLength (before.map Prod.fst)) = .ok (before.map Prod.fst) ∧
      sliceFrom (tidy cs) (byteLength ((before ++ tail.take 3).map Prod.fst)) =
        .ok ((tail.map Prod.fst).drop 3) := by
  have hcs : tidy cs = (before ++ tail).map Prod.fst := by
    rw [← (splitLast_some h).1, marks, Cursor.map_fst_marks]
  have hcut : tidy cs = (before ++ tail.take 3).map Prod.fst ++ (tail.map Prod.fst).drop 3 := by
    rw [hcs, ← List.map_drop, ← List.map_append, List.append_assoc, List.take_append_drop]
  constructor
  · rw [hcs, List.map_append]
    exact sliceTo_append _ _
  · rw [hcut]
    exact sliceFrom_append _ _

theorem splitAlias_eq (cs : List Char) : splitAlias cs = .ok (Crosstab.splitAlias cs) := by
  unfold splitAlias
  dsimp only
  rw [lastBreak_scan]
  cases h : splitLast startsAs (marks (tidy cs)) with
  | none =>
      rw [Crosstab.splitAlias, h]
      rfl
  | some cut =>
      obtain ⟨before, tail⟩ := cut
      obtain ⟨hahead, hbehind⟩ := cuts_of_lastBreak h
      have hname := name_ne_nil h
      rw [splitAlias_of_split h hname]
      simp only [Option.map_some, hbehind, Fault.ok_bind, if_neg hname, hahead, unquote_eq]

/-! ## Calls -/

theorem find?_offsets (pos : Nat) (c : Char) (cs : List Char) :
    (offsets pos cs).find? (·.2 == c) = (cs.dropWhile (· != c)).head?.map fun d =>
      (pos + byteLength (cs.takeWhile (· != c)), d) := by
  induction cs generalizing pos with
  | nil => rfl
  | cons d cs ih =>
      by_cases hd : d = c
      · simp [offsets, hd, byteLength]
      · have hoffsets : offsets pos (d :: cs) = (pos, d) :: offsets (pos + d.utf8Size) cs := rfl
        rw [hoffsets, List.find?_cons_of_neg (by simpa using hd), ih,
          List.dropWhile_cons_of_pos (by simpa using hd),
          List.takeWhile_cons_of_pos (by simpa using hd), byteLength_cons, Nat.add_assoc]

/-- The offset of the last byte of a text with a parenthesis, and when the partner of the
parenthesis stands there. -/
theorem exists_last (before rest : List Char) :
    ∃ last, less (byteLength (before ++ '(' :: rest)) 1 = .ok last ∧
      ∀ inner after, rest = inner ++ ')' :: after →
        (byteLength (before ++ '(' :: inner) = last ↔ after = []) := by
  have hascii : '('.toNat < 128 ∧ ')'.toNat < 128 := by decide
  have hlength (cs : List Char) :
      byteLength (before ++ '(' :: cs) = byteLength before + 1 + byteLength cs := by
    rw [byteLength_append, byteLength_ascii hascii.1, Nat.add_assoc]
  refine ⟨byteLength before + byteLength rest, ?_, ?_⟩
  · rw [hlength, less_of_le (by omega)]
    exact congrArg _ (by omega)
  · rintro inner after rfl
    rw [hlength, byteLength_append, byteLength_ascii hascii.2]
    constructor
    · exact fun h => byteLength_eq_zero (by omega)
    · rintro rfl
      rw [byteLength_nil]
      omega

/-- What stands between two parentheses is cut out one byte behind the first. -/
theorem slice_parens (before inner after : List Char) :
    slice (before ++ '(' :: (inner ++ ')' :: after)) (byteLength before + 1)
      (byteLength (before ++ '(' :: inner)) = .ok inner := by
  refine slice_iff.mpr ⟨before ++ ['('], ')' :: after, by simp, ?_, by simp⟩
  rw [byteLength_append]
  rfl

theorem splitCall_eq (cs : List Char) : splitCall cs = .ok (Crosstab.splitCall cs) := by
  unfold splitCall Crosstab.splitCall
  dsimp only
  rw [find?_offsets]
  cases hrest : (trim cs).dropWhile (· != '(') with
  | nil => rfl
  | cons c rest =>
      obtain rfl : c = '(' := by
        have hhead := List.head?_dropWhile_not (· != '(') (trim cs)
        simpa [hrest] using hhead
      have hcs : trim cs = (trim cs).takeWhile (· != '(') ++ '(' :: rest := by
        rw [← hrest, List.takeWhile_append_dropWhile]
      generalize (trim cs).takeWhile (· != '(') = before at hcs ⊢
      obtain ⟨last, hlast, hends⟩ := exists_last before rest
      simp only [List.head?_cons, Option.map_some, Nat.zero_add, hcs, sliceTo_append,
        Fault.ok_bind, LookAhead.matchingParen_cons, hlast]
      split
      · rfl
      · cases henclosed : enclosed? rest with
        | none => rfl
        | some found =>
            obtain ⟨inner, after⟩ := found
            obtain ⟨-, rfl⟩ := enclosed?_some henclosed
            have hends := hends inner after rfl
            have hinner := slice_parens before inner after
            cases after with
            | nil => simp [hends, hinner, Fault.ok_bind]
            | cons d after => simp [hends]

theorem isWrapped_eq (cs : List Char) : isWrapped cs = .ok (Crosstab.isWrapped cs) := by
  unfold isWrapped Crosstab.isWrapped
  dsimp only
  split
  · rename_i hhead
    obtain ⟨rest, hrest⟩ := List.head?_eq_some_iff.mp hhead
    obtain ⟨last, hlast, hends⟩ := exists_last [] rest
    have hfound := LookAhead.matchingParen_cons [] rest
    simp only [List.nil_append, byteLength_nil] at hlast hends hfound
    rw [hrest, hfound, hlast]
    cases henclosed : enclosed? rest with
    | none => simp [henclosed, Fault.ok_bind]
    | some found =>
        obtain ⟨inner, after⟩ := found
        have hends := hends inner after (enclosed?_some henclosed).2
        cases after with
        | nil => simp [henclosed, hends, Fault.ok_bind]
        | cons d after => simp [henclosed, hends, Fault.ok_bind]
  · rename_i hhead
    split
    · rename_i rest hrest
      exact absurd (congrArg List.head? hrest) hhead
    · rfl

/-! ## Names between dots -/

/-- A text of which `done` is cut already and `current` is read: the entries that remain cut what
the marks cut, and the first part begins with `current`. -/
theorem cutParts_placed {expr done current : List Char} {ms : List (Char × Bool)}
    (h : expr = done ++ current ++ ms.map Prod.fst) :
    cutParts expr (byteLength done) (placed (byteLength (done ++ current)) ms) =
      .ok ((splitDots ms).modifyHead (current ++ ·)) := by
  induction ms generalizing done current with
  | nil =>
      have hpart : sliceFrom expr (byteLength done) = .ok current := by
        rw [h, List.map_nil, List.append_nil, sliceFrom_append]
      simp [placed, cutParts, splitDots, hpart, Fault.ok_bind]
  | cons m ms ih =>
      obtain ⟨c, top⟩ := m
      obtain ⟨part, parts, hparts⟩ := List.exists_cons_of_ne_nil (splitDots_ne_nil ms)
      rw [placed, cutParts, splitDots]
      by_cases hdot : (top && c == '.') = true
      · obtain rfl : c = '.' := by simpa using (Bool.and_eq_true_iff.mp hdot).2
        have hlength : byteLength (done ++ current ++ ['.']) =
            byteLength (done ++ current) + 1 := byteLength_append ..
        have hpart : slice expr (byteLength done) (byteLength (done ++ current)) = .ok current := by
          rw [h, slice_append]
        have hafter : expr = (done ++ current ++ ['.']) ++ [] ++ ms.map Prod.fst := by simp [h]
        have hrest := ih hafter
        rw [List.append_nil, hlength] at hrest
        have hdotsize : '.'.utf8Size = 1 := rfl
        rw [if_pos hdot, if_pos hdot, hpart, Fault.ok_bind, hdotsize, hrest]
        simp [hparts, Fault.ok_bind]
      · have hlength : byteLength (done ++ (current ++ [c])) =
            byteLength (done ++ current) + c.utf8Size := by
          rw [← List.append_assoc, byteLength_append]
          rfl
        have hafter : expr = done ++ (current ++ [c]) ++ ms.map Prod.fst := by simp [h]
        have hrest := ih hafter
        rw [hlength] at hrest
        rw [if_neg hdot, if_neg hdot, hrest, hparts]
        simp

theorem cutParts_eq (cs : List Char) : cutParts cs 0 (scan cs) = .ok (splitDots (marks cs)) := by
  have hcs : cs = [] ++ [] ++ (marks cs).map Prod.fst := by simp [marks]
  have h := cutParts_placed hcs
  obtain ⟨part, parts, hparts⟩ := List.exists_cons_of_ne_nil (splitDots_ne_nil (marks cs))
  rw [LookAhead.scan_eq]
  simpa [hparts] using h

theorem isName_nil : isBareName [] = false ∧ isQuotedName [] = false := ⟨rfl, rfl⟩

theorem runtimeName_eq (cs : List Char) : runtimeName cs = .ok (Crosstab.runtimeName cs) := by
  unfold runtimeName Crosstab.runtimeName
  rw [splitAlias_eq, Fault.ok_bind]
  obtain ⟨body, name?⟩ := Crosstab.splitAlias cs
  cases name? with
  | some name => rfl
  | none =>
      dsimp only
      rw [cutParts_eq, Fault.ok_bind, List.getLast?_map]
      cases (splitDots (marks body)).getLast? with
      | none => rfl
      | some part =>
          rw [Option.map_some]
          dsimp only
          by_cases hempty : trim part = []
          · simp [hempty, isName_nil]
          · rw [if_neg (by simpa using hempty), unquote_eq, Fault.ok_bind]
            generalize (isBareName (trim part) || isQuotedName (trim part)) = isName
            generalize List.all _ _ = areNames
            cases isName <;> cases areNames <;> rfl

/-! ## The keyword of a distinct count -/

/-- Only an ASCII letter has another capital than itself. -/
theorem ascii_of_toUpper {c : Char} (h : c.toUpper.toNat < 128) : c.toNat < 128 := by
  unfold Char.toUpper at h
  split at h
  · rename_i hletter
    have hsmall : 'z'.val.toNat = 122 := rfl
    have hval : c.val.toNat = c.toNat := rfl
    rw [UInt32.le_iff_toNat_le, UInt32.le_iff_toNat_le] at hletter
    omega
  · exact h

theorem byteLength_of_toUpper {word upper : List Char} (h : word.map Char.toUpper = upper)
    (hupper : ∀ c ∈ upper, c.toNat < 128) : byteLength word = upper.length := by
  subst h
  induction word with
  | nil => rfl
  | cons c word ih =>
      have hc := ascii_of_toUpper (hupper c.toUpper (List.mem_cons_self ..))
      rw [byteLength_ascii hc, ih fun d hd => hupper d (List.mem_cons_of_mem _ hd)]
      simp [Nat.add_comm]

theorem stripDistinct_eq (cs : List Char) :
    stripDistinct cs = .ok (Crosstab.stripDistinct cs) := by
  have hall : ("DISTINCT ".toList.all fun c => decide (c.toNat < 128)) = true := by decide
  have hascii : ∀ c ∈ "DISTINCT ".toList, c.toNat < 128 :=
    fun c hc => of_decide_eq_true (List.all_eq_true.mp hall c hc)
  have hlength : "DISTINCT ".toList.length = 9 := rfl
  unfold stripDistinct Crosstab.stripDistinct
  split_ifs with hword
  · have hnine : byteLength (cs.take 9) = 9 :=
      (byteLength_of_toUpper hword hascii).trans hlength
    have hhead : sliceTo cs 9 = .ok (cs.take 9) :=
      slice_iff.mpr ⟨[], cs.drop 9, by simp, rfl, hnine⟩
    have hbehind : sliceFrom cs 9 = .ok (cs.drop 9) :=
      slice_iff.mpr ⟨cs.take 9, [], by simp, hnine, by simp⟩
    rw [hhead]
    simp [hword, hbehind, Fault.ok_bind]
  · split
    · rfl
    · rename_i head hhead
      obtain ⟨before, after, rfl, hbefore, -⟩ := slice_iff.mp hhead
      obtain rfl := byteLength_eq_zero hbefore
      have hne : ¬ head.map Char.toUpper = "DISTINCT ".toList := by
        intro hupper
        have hnine : head.length = 9 := by
          rw [← List.length_map (f := Char.toUpper), hupper, hlength]
        refine hword ?_
        rw [List.nil_append, ← hnine, List.take_left, hupper]
      rw [if_neg hne]

/-! ## The headline -/

/-- **No reader that cuts a text by byte offsets takes a fault**, whatever the text and whatever
offset it is asked about: each comes to an end, and to the same one as the reader that never cuts.
And behind the `AS` at which an alias is cut off there always is one. -/
theorem cuts_in_range (cs : List Char) :
    (∀ opening, LookAhead.matchingParen cs opening =
      .ok (matchingParen (String.ofList cs) opening)) ∧
    unquote cs = .ok (Crosstab.unquote cs) ∧
    splitAlias cs = .ok (Crosstab.splitAlias cs) ∧
    splitCall cs = .ok (Crosstab.splitCall cs) ∧
    isWrapped cs = .ok (Crosstab.isWrapped cs) ∧
    runtimeName cs = .ok (Crosstab.runtimeName cs) ∧
    stripDistinct cs = .ok (Crosstab.stripDistinct cs) ∧
    ∀ exprEnd aliasStart, lastBreak none (scan (tidy cs)) = some (exprEnd, aliasStart) →
      ∃ behind, sliceFrom (tidy cs) aliasStart = .ok behind ∧ trim behind ≠ [] := by
  refine ⟨LookAhead.matchingParen_eq cs, unquote_eq cs, splitAlias_eq cs, splitCall_eq cs,
    isWrapped_eq cs, runtimeName_eq cs, stripDistinct_eq cs, fun exprEnd aliasStart h => ?_⟩
  rw [lastBreak_scan] at h
  obtain ⟨⟨before, tail⟩, hsplit, hcut⟩ := Option.map_eq_some_iff.mp h
  obtain ⟨-, rfl⟩ := Prod.mk.inj hcut
  exact ⟨_, (cuts_of_lastBreak hsplit).2, name_ne_nil hsplit⟩

/-- Blanks of one, two and three bytes, and a letter of two bytes on either side of the `AS`. -/
theorem cuts_in_range_wide :
    let cs := "\u00a0s.[né](x)\u2003aS\u3000\"ñ\" ,".toList
    lastBreak none (scan (tidy cs)) = some (10, 15) ∧
      ∃ behind, sliceFrom (tidy cs) 15 = .ok behind ∧ trim behind ≠ [] := by
  intro cs
  obtain ⟨-, -, -, -, -, -, -, hbehind⟩ := cuts_in_range cs
  have hcut : lastBreak none (scan (tidy cs)) = some (10, 15) := by decide +kernel
  exact ⟨hcut, hbehind 10 15 hcut⟩

end Checked

end Crosstab
