import Crosstab.Yaml.Place
import Crosstab.Text.Digits

/-!
# Scalars of YAML

A scalar is plain, in single or double quotes, or a block of lines. In all but literal blocks a line
break between two words is folded into a space, and further breaks are kept. The readers count down
a budget that no text of their length can use up.
-/

namespace Crosstab.Yaml

/-- Blanks and line breaks between two words of a scalar. -/
structure Gap where
  /-- The blanks, as long as no break was met. -/
  blanks : List Char
  /-- What the first break stands for. -/
  first : List Char
  /-- What the other breaks stand for. -/
  others : List Char
  /-- Whether a break was met. -/
  broken : Bool

namespace Gap

def empty : Gap := ⟨[], [], [], false⟩

/-- The gap that an escaped line break begins with. -/
def escaped : Gap := ⟨[], [], [], true⟩

/-- The text that a gap stands for. -/
def text (gap : Gap) : List Char :=
  if !gap.broken then gap.blanks
  else if gap.first = ['\n'] then (if gap.others.isEmpty then [' '] else gap.others)
  else gap.first ++ gap.others

/-- Read blanks and breaks. After a break, a tab to the left of `indent` is refused. -/
def read (indent : Nat) : Nat → Gap → Place → Option (Gap × Place)
  | 0, _, _ => none
  | budget + 1, gap, place =>
    match place.rest with
    | [] => some (gap, place)
    | c :: _ =>
      if isSpace c then
        if gap.broken && c == '\t' && place.column < indent then none
        else if gap.broken then read indent budget gap (place.skip 1)
        else read indent budget { gap with blanks := gap.blanks ++ [c] } (place.skip 1)
      else if isBreak c then
        let (text, next) := place.readBreak
        if gap.broken then read indent budget { gap with others := gap.others ++ text } next
        else read indent budget ⟨[], text, [], true⟩ next
      else some (gap, place)

end Gap

/-- The character of a one-letter escape. -/
def shortEscape? : Char → Option Char
  | '0' => some '\x00'
  | 'a' => some '\x07'
  | 'b' => some '\x08'
  | 't' => some '\t'
  | '\t' => some '\t'
  | 'n' => some '\n'
  | 'v' => some '\x0b'
  | 'f' => some '\x0c'
  | 'r' => some '\r'
  | 'e' => some '\x1b'
  | ' ' => some ' '
  | '"' => some '"'
  | '/' => some '/'
  | '\\' => some '\\'
  | 'N' => some '\u0085'
  | '_' => some '\u00a0'
  | 'L' => some '\u2028'
  | 'P' => some '\u2029'
  | _ => none

/-- The number of digits of a numeric escape. -/
def escapeWidth? : Char → Option Nat
  | 'x' => some 2
  | 'u' => some 4
  | 'U' => some 8
  | _ => none

/-- The character of an escape after its backslash, and how long the escape is. -/
def readEscape : List Char → Option (Char × Nat)
  | [] => none
  | c :: rest =>
    match escapeWidth? c with
    | some width =>
      let digits := rest.take width
      if digits.length = width then (charOfHex? digits).map fun ch => (ch, width + 1) else none
    | none => (shortEscape? c).map fun ch => (ch, 1)

/-- Read the words of a quoted scalar up to a blank, a break, the closing quote or an escaped break,
which is reported. -/
def quotedWord (single : Bool) : Nat → Place → Option (List Char × Bool × Place)
  | 0, _ => none
  | budget + 1, place =>
    let more (c : Char) (n : Nat) : Option (List Char × Bool × Place) :=
      (quotedWord single budget (place.skip n)).map fun r => (c :: r.1, r.2)
    match place.rest with
    | [] => some ([], false, place)
    | c :: rest =>
      if isSpace c || isBreak c then some ([], false, place)
      else if single && c == '\'' then
        if rest.head? = some '\'' then more '\'' 2 else some ([], false, place)
      else if !single && c == '"' then some ([], false, place)
      else if !single && c == '\\' then
        if endsOr (fun _ => false) rest then none
        else if endsOr isBreak rest then some ([], true, (place.skip 1).skipBreak)
        else (readEscape rest).bind fun r => more r.1 (r.2 + 1)
      else more c 1

/-- Read a quoted scalar after its opening quote. No mark of a document may begin one of its
lines. -/
def quoted (single : Bool) : Nat → Place → Option (List Char × Place)
  | 0, _ => none
  | budget + 1, place =>
    if place.atMark || place.rest.isEmpty then none
    else
      match quotedWord single (place.size + 1) place with
      | none => none
      | some (word, escaped, next) =>
        if !escaped && next.rest.head? = some (if single then '\'' else '"') then
          some (word, next.skip 1)
        else
          match Gap.read 0 (next.size + 1) (if escaped then .escaped else .empty) next with
          | none => none
          | some (gap, next) =>
            (quoted single budget next).map fun r => (word ++ gap.text ++ r.1, r.2)

/-- An indicator that ends a plain scalar inside a flow collection. -/
def isFlowEnd (c : Char) : Bool := c == ',' || c == '[' || c == ']' || c == '\x7b' || c == '\x7d'

/-- Read a word of a plain scalar. Inside a flow collection a colon before an indicator is
refused. -/
def plainWord (inFlow : Bool) : List Char → Option (List Char)
  | [] => some []
  | c :: rest =>
    if isSpace c || isBreak c then some []
    else if inFlow && c == ':' && !rest.isEmpty && endsOr (fun d => isFlowEnd d || d == '?') rest
    then none
    else if (c == ':' && atGap rest) || (inFlow && isFlowEnd c) then some []
    else (plainWord inFlow rest).map (c :: ·)

/-- Read a plain scalar that has to stand at `indent` or further right. `gap` is what was read since
the last word; the answer also says whether the scalar was left after a line break. -/
def plain (inFlow : Bool) (indent : Nat) : Nat → Gap → Place → Option (List Char × Bool × Place)
  | 0, _, _ => none
  | budget + 1, gap, place =>
    if place.atMark || place.rest.head? = some '#' then some ([], gap.broken, place)
    else
      match plainWord inFlow place.rest with
      | none => none
      | some word =>
        let next := place.skip word.length
        let before := if word.isEmpty then [] else gap.text ++ word
        let left := if word.isEmpty then gap.broken else false
        if !(next.rest.head?.any fun c => isSpace c || isBreak c) then some (before, left, next)
        else
          match Gap.read indent (next.size + 1) .empty next with
          | none => none
          | some (gap, next) =>
            if !inFlow && next.column < indent then some (before, gap.broken, next)
            else (plain inFlow indent budget gap next).map fun r => (before ++ r.1, r.2)

/-- What becomes of the line breaks at the end of a block. -/
inductive Chomping where
  | strip
  | clip
  | keep
  deriving DecidableEq

/-- The header of a block: chomping, and an indentation if it is given. -/
def blockHeader (place : Place) : Option (Chomping × Option Nat × Place) :=
  let chomping? : Option Char → Option Chomping
    | some '+' => some .keep
    | some '-' => some .strip
    | _ => none
  let digit? : Option Char → Option Nat
    | some c => if c.isDigit then some (c.toNat - 48) else none
    | none => none
  let header : Chomping × Option Nat × Place :=
    match chomping? place.rest.head? with
    | some chomping =>
      let place := place.skip 1
      match digit? place.rest.head? with
      | some n => (chomping, some n, place.skip 1)
      | none => (chomping, none, place)
    | none =>
      match digit? place.rest.head? with
      | some n =>
        let place := place.skip 1
        match chomping? place.rest.head? with
        | some chomping => (chomping, some n, place.skip 1)
        | none => (.clip, some n, place)
      | none => (.clip, none, place)
  if header.2.1 = some 0 then none
  else (header.2.2.finishLine?).map fun place => (header.1, header.2.1, place)

/-- Read indentation and empty lines of a block. The answer holds the largest column met and what
the breaks stand for. As long as no indentation is known (`0`), every space belongs to it. -/
def blockBreaks (indent : Nat) :
    Nat → Nat → List Char → Place → Option (Nat × List Char × Place)
  | 0, _, _, _ => none
  | budget + 1, widest, breaks, place =>
    let spaces := (place.rest.takeWhile (· == ' ')).length
    let place := place.skip (if indent = 0 then spaces else min spaces (indent - place.column))
    let widest := max widest place.column
    let isIndenting : Bool := indent = 0 || place.column < indent
    if isIndenting && place.rest.head? = some '\t' then none
    else if place.rest.head?.any isBreak then
      let (text, next) := place.readBreak
      blockBreaks indent budget widest (breaks ++ text) next
    else some (widest, breaks, place)

/-- Read the lines of a block. `lead` is the break after the last line, `others` are those of the
empty lines after it, and `wasBlank` says whether the last line began with a blank. -/
def blockLines (literal : Bool) (chomping : Chomping) (indent : Nat) :
    Nat → (lead others : List Char) → (wasBlank : Bool) → Place → Option (List Char × Place)
  | 0, _, _, _, _ => none
  | budget + 1, lead, others, wasBlank, place =>
    if place.column = indent && !place.rest.isEmpty then
      let isBlankLine := place.rest.head?.any isSpace
      let joined :=
        if !literal && lead.head? = some '\n' && !wasBlank && !isBlankLine then
          (if others.isEmpty then [' '] else []) ++ others
        else lead ++ others
      let line := place.rest.takeWhile fun c => !isBreak c
      let (lead, next) := (place.skip line.length).readBreak
      match blockBreaks indent (next.size + 1) 0 [] next with
      | none => none
      | some (_, others, next) =>
        (blockLines literal chomping indent budget lead others isBlankLine next).map fun r =>
          (joined ++ line ++ r.1, r.2)
    else
      let tail := match chomping with
        | .strip => []
        | .clip => lead
        | .keep => lead ++ others
      some (tail, place)

/-- Read a block after its indicator; `outer` is the first column inside the collection around
it. -/
def block (literal : Bool) (outer : Nat) (place : Place) : Option (List Char × Place) := do
  let (chomping, given, place) ← blockHeader place
  -- a given indentation counts from the collection's own column, which lies left of `outer`
  let indent := match given with
    | some n => (outer - 1) + n
    | none => 0
  let (widest, others, place) ← blockBreaks indent (place.size + 1) 0 [] place
  let indent := if indent = 0 then max widest (max outer 1) else indent
  blockLines literal chomping indent (place.size + 1) [] others false place

end Crosstab.Yaml
