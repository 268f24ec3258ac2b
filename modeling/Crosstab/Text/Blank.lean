/-!
# Blank characters and trimming

`isBlank` is the Unicode property White_Space. Every reader of caller text trims by it, so two
texts that differ only in outer blanks are the same fragment. The functions work on `List Char`,
where a trimmed text is a plain `dropWhile`, and lift to `String` at the end.
-/

namespace Crosstab

/-- The Unicode property White_Space: twenty-five characters in ten ranges. -/
def isBlank (c : Char) : Bool :=
  let n := c.toNat
  (9 ≤ n && n ≤ 13) || n == 0x20 || n == 0x85 || n == 0xA0 || n == 0x1680 ||
    (0x2000 ≤ n && n ≤ 0x200A) || n == 0x2028 || n == 0x2029 || n == 0x202F || n == 0x205F ||
    n == 0x3000

/-- Drop the longest tail whose members all satisfy `p`. -/
def dropTailWhile {α : Type} (p : α → Bool) : List α → List α
  | [] => []
  | a :: as =>
    match dropTailWhile p as with
    | [] => if p a then [] else [a]
    | b :: bs => a :: b :: bs

/-- The text without its leading blanks. -/
def trimStart (cs : List Char) : List Char := cs.dropWhile isBlank

/-- The text without its trailing blanks. -/
def trimEnd (cs : List Char) : List Char := dropTailWhile isBlank cs

/-- The text without its outer blanks. -/
def trim (cs : List Char) : List Char := trimEnd (trimStart cs)

/-- The last blank-separated word, if the text has a word at all. -/
def lastWord? (cs : List Char) : Option (List Char) :=
  match trimEnd cs with
  | [] => none
  | word => some (word.reverse.takeWhile (fun c => !isBlank c)).reverse

/-- `trim` on strings. -/
def trimText (s : String) : String := String.ofList (trim s.toList)

/-- Lower-case the ASCII letters and keep every other character. -/
def lowerAscii (s : String) : String := String.ofList (s.toList.map Char.toLower)

end Crosstab
