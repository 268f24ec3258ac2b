/-!
# Places in a YAML text

A place is what is still to be read, with the line and the column it begins at: indentation is
structure in YAML, so every reader has to know its column. Line breaks are the five of YAML, and all
but the last two read as a line feed.
-/

namespace Crosstab.Yaml

/-- Whether a character may stand in a YAML text at all. -/
def isAllowed (c : Char) : Bool :=
  let n := c.toNat
  n == 0x09 || n == 0x0A || n == 0x0D || (0x20 ≤ n && n ≤ 0x7E) || n == 0x85 ||
    (0xA0 ≤ n && n ≤ 0xFFFD) || 0x10000 ≤ n

/-- A line break. -/
def isBreak (c : Char) : Bool :=
  c == '\r' || c == '\n' || c == '\u0085' || c == '\u2028' || c == '\u2029'

/-- A blank within a line. -/
def isSpace (c : Char) : Bool := c == ' ' || c == '\t'

/-- Whether a text is at its end or at a character that satisfies `p`. -/
def endsOr (p : Char → Bool) : List Char → Bool
  | [] => true
  | c :: _ => p c

/-- Whether a text is at a blank, at a line break or at its end. -/
def atGap (cs : List Char) : Bool := endsOr (fun c => isSpace c || isBreak c) cs

/-- Whether a text is at a line break or at its end. -/
def atLineEnd (cs : List Char) : Bool := endsOr isBreak cs

/-- The rest of a text and where it begins. -/
structure Place where
  rest : List Char
  /-- Characters of the whole text. -/
  size : Nat
  /-- Characters before this place. -/
  index : Nat
  line : Nat
  column : Nat

namespace Place

/-- Past a number of characters of this line. -/
def skip (place : Place) (n : Nat) : Place :=
  let n := (place.rest.take n).length
  { place with rest := place.rest.drop n, index := place.index + n, column := place.column + n }

/-- Past the characters of this line that satisfy `p`. -/
def skipWhile (place : Place) (p : Char → Bool) : Place :=
  place.skip (place.rest.takeWhile p).length

/-- Past a line break, with the text that the break stands for. -/
def readBreak (place : Place) : List Char × Place :=
  match place.rest with
  | '\r' :: '\n' :: rest => (['\n'], ⟨rest, place.size, place.index + 2, place.line + 1, 0⟩)
  | c :: rest =>
    if isBreak c then
      (if c == '\u2028' || c == '\u2029' then [c] else ['\n'],
        ⟨rest, place.size, place.index + 1, place.line + 1, 0⟩)
    else ([], place)
  | [] => ([], place)

/-- Past a line break. -/
def skipBreak (place : Place) : Place := place.readBreak.2

/-- Past a comment, if one starts here. -/
def skipComment (place : Place) : Place :=
  match place.rest with
  | '#' :: _ => place.skipWhile fun c => !isBreak c
  | _ => place

/-- Past blanks and a comment, where nothing but the end of the line may follow. -/
def finishLine? (place : Place) : Option Place :=
  let place := (place.skipWhile isSpace).skipComment
  if atLineEnd place.rest then some place.skipBreak else none

/-- Whether the mark of a document's start stands here. -/
def atStartMark (place : Place) : Bool :=
  match place.rest with
  | '-' :: '-' :: '-' :: rest => place.column == 0 && atGap rest
  | _ => false

/-- Whether the mark of a document's end stands here. -/
def atEndMark (place : Place) : Bool :=
  match place.rest with
  | '.' :: '.' :: '.' :: rest => place.column == 0 && atGap rest
  | _ => false

/-- Whether either mark of a document stands here. -/
def atMark (place : Place) : Bool := place.atStartMark || place.atEndMark

end Place

end Crosstab.Yaml
