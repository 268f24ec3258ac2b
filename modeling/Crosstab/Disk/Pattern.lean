import Crosstab.Failure

/-!
# File name patterns

A pattern is a path whose components may hold `?`, `*` and classes such as `[a-z]` or `[!abc]`. A
component `**` stands for any number of directories. The pattern is checked as a whole before it is
cut into components, and each component is checked again on its own.
-/

namespace Crosstab.Disk

/-- A piece of a pattern. -/
inductive Glyph where
  | char (c : Char)
  /-- Any one character. -/
  | anyChar
  /-- Any characters, also none. -/
  | anyChars
  /-- A whole component `**`. -/
  | anyDirectories
  /-- One character of a class, or outside it. A single member is a range of one. -/
  | oneOf (negated : Bool) (ranges : List (Char × Char))
  deriving Repr, DecidableEq

/-- The members of a class. A dash between two characters makes a range of them. -/
def classRanges : List Char → List (Char × Char)
  | a :: '-' :: b :: rest => (a, b) :: classRanges rest
  | a :: rest => (a, a) :: classRanges rest
  | [] => []

/-- Cut a class at its closing bracket. A bracket in the first place is a member. -/
def classBody : List Char → Option (List Char × List Char)
  | [] => none
  | first :: rest =>
    if rest.contains ']' then
      some (first :: rest.takeWhile (· != ']'), (rest.dropWhile (· != ']')).drop 1)
    else none

/-- The class after an opening bracket, and what follows it. -/
def readClass : List Char → Option (Glyph × List Char)
  | '!' :: rest => (classBody rest).map fun r => (.oneOf true (classRanges r.1), r.2)
  | rest => (classBody rest).map fun r => (.oneOf false (classRanges r.1), r.2)

theorem classBody_length {cs body rest : List Char} (h : classBody cs = some (body, rest)) :
    rest.length < cs.length := by
  cases cs with
  | nil => simp [classBody] at h
  | cons first more =>
    simp only [classBody] at h
    split at h
    · simp only [Option.some.injEq, Prod.mk.injEq] at h
      rw [← h.2, List.length_drop, List.length_cons]
      have := (List.dropWhile_sublist (l := more) (· != ']')).length_le
      omega
    · simp at h

theorem readClass_length {cs rest : List Char} {glyph : Glyph}
    (h : readClass cs = some (glyph, rest)) : rest.length < cs.length := by
  have shorter {negated : Bool} {cs : List Char}
      (h : (classBody cs).map (fun r => (Glyph.oneOf negated (classRanges r.1), r.2)) =
        some (glyph, rest)) : rest.length < cs.length := by
    obtain ⟨r, hr, he⟩ := Option.map_eq_some_iff.1 h
    rw [← (Prod.mk.inj he).2]
    exact classBody_length hr
  unfold readClass at h
  split at h
  · exact Nat.lt_succ_of_lt (shorter h)
  · exact shorter h

/-- The glyphs of a pattern from a position on; `before` is the character before it. Reports the
first fault with its position. -/
def glyphsFrom (position : Nat) (before : Option Char) : List Char → Outcome (List Glyph)
  | [] => .ok []
  | '?' :: rest => (glyphsFrom (position + 1) (some '?') rest).map (.anyChar :: ·)
  | '*' :: '*' :: '*' :: _ => .error (.pattern (position + 2) .stars)
  | '*' :: '*' :: rest =>
    if before.isSome && before != some '/' then .error (.pattern (position - 1) .recursion)
    else
      match rest with
      | [] => .ok [.anyDirectories]
      | '/' :: rest => (glyphsFrom (position + 3) (some '/') rest).map (.anyDirectories :: ·)
      | _ => .error (.pattern (position + 2) .recursion)
  | '*' :: rest => (glyphsFrom (position + 1) (some '*') rest).map (.anyChars :: ·)
  | '[' :: rest =>
    match _h : readClass rest with
    | none => .error (.pattern position .range)
    | some (glyph, after) =>
      (glyphsFrom (position + 1 + (rest.length - after.length)) (some ']') after).map (glyph :: ·)
  | c :: rest => (glyphsFrom (position + 1) (some c) rest).map (.char c :: ·)
termination_by cs => cs.length
decreasing_by
  all_goals simp_wf
  all_goals try omega
  have := readClass_length _h
  omega

/-- The glyphs of a pattern. -/
def glyphs (cs : List Char) : Outcome (List Glyph) := glyphsFrom 0 none cs

/-- Whether some tail of a text, the text itself included, satisfies `p`. -/
def someTail (p : List Char → Bool) : List Char → Bool
  | [] => p []
  | c :: cs => p (c :: cs) || someTail p cs

/-- Whether a class holds a character. -/
def inClass (ranges : List (Char × Char)) (c : Char) : Bool :=
  ranges.any fun r => r.1 ≤ c && c ≤ r.2

/-- Whether the glyphs spell out a whole name. -/
def spells : List Glyph → List Char → Bool
  | [], name => name.isEmpty
  | .anyChars :: rest, name => someTail (spells rest) name
  | .anyDirectories :: rest, name => someTail (spells rest) name
  | .char c :: rest, d :: name => c == d && spells rest name
  | .anyChar :: rest, _ :: name => spells rest name
  | .oneOf negated ranges :: rest, d :: name => inClass ranges d != negated && spells rest name
  | _ :: _, [] => false

/-- The text of glyphs that are plain characters. -/
def literal? : List Glyph → Option (List Char)
  | [] => some []
  | .char c :: rest => (literal? rest).map (c :: ·)
  | _ :: _ => none

/-- One component of a pattern. -/
inductive Component where
  /-- A name without wildcards, which is looked up and not searched for. -/
  | name (text : String)
  | wild (glyphs : List Glyph)
  /-- Any number of directories. -/
  | directories
  deriving Repr, DecidableEq

/-- The component that glyphs make. -/
def Component.ofGlyphs (glyphs : List Glyph) : Component :=
  match literal? glyphs with
  | some text => .name (String.ofList text)
  | none => if glyphs = [.anyDirectories] then .directories else .wild glyphs

/-- Whether a component spells out a name. -/
def Component.spells (component : Component) (name : String) : Bool :=
  match component with
  | .name text => text == name
  | .wild glyphs => Disk.spells glyphs name.toList
  | .directories => true

end Crosstab.Disk
