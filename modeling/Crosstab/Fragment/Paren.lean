import Crosstab.Text.Blank
import Crosstab.Fragment.Cursor

/-!
# Matching parentheses

The text from an opening parenthesis is cut at the parenthesis that closes it. `matchingParen` says
where that is in byte offsets of the UTF-8 form, which is how callers point into a fragment.
-/

namespace Crosstab

/-- The number of bytes of the UTF-8 form. -/
def byteLength (cs : List Char) : Nat := cs.foldr (fun c n => c.utf8Size + n) 0

/-- The text from a byte offset on; `none` off the end or inside a character. -/
def dropBytes? : Nat → List Char → Option (List Char)
  | 0, cs => some cs
  | _ + 1, [] => none
  | n + 1, c :: cs => if c.utf8Size ≤ n + 1 then dropBytes? (n + 1 - c.utf8Size) cs else none

/-- What stands inside the parenthesis that opened just before `cs`, and what follows its closing
partner. -/
def enclosed? (cs : List Char) : Option (List Char × List Char) :=
  Cursor.untilShut ⟨1, .plain⟩ cs

/-- The byte offset of the `)` that closes the `(` at byte offset `opening`. -/
def matchingParen (text : String) (opening : Nat) : Option Nat :=
  match dropBytes? opening text.toList with
  | some ('(' :: rest) => (enclosed? rest).map fun r => opening + 1 + byteLength r.1
  | _ => none

/-- Whether the trimmed text is one pair of parentheses around everything else. -/
def isWrapped (cs : List Char) : Bool :=
  match trim cs with
  | '(' :: rest =>
    match enclosed? rest with
    | some (_, []) => true
    | _ => false
  | _ => false

end Crosstab
