import Crosstab.Yaml.Place
import Crosstab.Text.Digits

/-!
# Tags, anchors and directives of YAML

The small readers for everything that is named rather than written out.
-/

namespace Crosstab.Yaml

/-- A character of an anchor, of a handle or of a directive's name. -/
def isNameChar (c : Char) : Bool := c.isAlphanum || c == '_' || c == '-'

/-- A tag as written: a handle to be looked up among the directives, and a suffix. An empty
handle stands for a tag that is written out in full. -/
structure Tag where
  handle : List Char
  suffix : List Char
  deriving Repr, DecidableEq

/-- The name of an anchor or alias after its indicator. -/
def readAnchor (place : Place) : Option (List Char × Place) :=
  let name := place.rest.takeWhile isNameChar
  let next := place.skip name.length
  let isEnd (c : Char) : Bool := isSpace c || isBreak c || "?:,]\x7d%@\x60".toList.contains c
  if name.isEmpty || !endsOr isEnd next.rest then none else some (name, next)

/-- Whether a character may stand in a tag. Commas and brackets may only do so between angle
brackets and in directives. -/
def isTagChar (verbatim : Bool) (c : Char) : Bool :=
  isNameChar c || ";/?:@&=+$.%!~*'()".toList.contains c ||
    (verbatim && (c == ',' || c == '[' || c == ']'))

/-- The number of bytes in the UTF-8 form that begins with this byte. -/
def utf8Width? (byte : Nat) : Option Nat :=
  if byte < 0x80 then some 1
  else if 0xC0 ≤ byte && byte < 0xE0 then some 2
  else if 0xE0 ≤ byte && byte < 0xF0 then some 3
  else if 0xF0 ≤ byte && byte < 0xF8 then some 4
  else none

/-- A byte written as a percent sign and two digits. -/
def percentByte? : List Char → Option (Nat × List Char)
  | '%' :: a :: b :: rest => (numberOf? 16 [a, b]).map fun n => (n, rest)
  | _ => none

/-- A number of bytes written with percent signs. -/
def percentBytes? : Nat → List Char → Option (List Nat × List Char)
  | 0, cs => some ([], cs)
  | n + 1, cs => do
    let (byte, rest) ← percentByte? cs
    let (bytes, rest) ← percentBytes? n rest
    some (byte :: bytes, rest)

/-- A character written with percent signs. Bytes that only look like UTF-8 stand for the
replacement character. -/
def percentChar? (cs : List Char) : Option (List Char × List Char) := do
  let (first, _) ← percentByte? cs
  let width ← utf8Width? first
  let (bytes, rest) ← percentBytes? width cs
  if (bytes.drop 1).all fun byte => 0x80 ≤ byte && byte < 0xC0 then
    let text := (String.fromUTF8? ⟨(bytes.map UInt8.ofNat).toArray⟩).getD "\uFFFD"
    some (text.toList, rest)
  else none

/-- Read the characters of a tag. -/
def readTagChars (verbatim : Bool) : Nat → Place → Option (List Char × Place)
  | 0, _ => none
  | budget + 1, place =>
    match place.rest with
    | [] => some ([], place)
    | c :: _ =>
      if !isTagChar verbatim c then some ([], place)
      else if c == '%' then do
        let (text, rest) ← percentChar? place.rest
        let next := place.skip (place.rest.length - rest.length)
        let (more, next) ← readTagChars verbatim budget next
        some (text ++ more, next)
      else do
        let (more, next) ← readTagChars verbatim budget (place.skip 1)
        some (c :: more, next)

/-- Read a tag that may not be empty. -/
def readUri (verbatim : Bool) (place : Place) : Option (List Char × Place) :=
  match readTagChars verbatim (place.size + 1) place with
  | some ([], _) => none
  | r => r

/-- Read an exclamation mark, a name, and a second mark if there is one. -/
def readHandle (place : Place) : Option (List Char × Place) :=
  match place.rest with
  | '!' :: rest =>
    let name := rest.takeWhile isNameChar
    let closing := if (rest.drop name.length).head? = some '!' then ['!'] else []
    let handle := '!' :: name ++ closing
    some (handle, place.skip handle.length)
  | _ => none

/-- Whether what was read is a handle, and not the beginning of a local tag. -/
def isHandle (handle : List Char) : Bool := 1 < handle.length && handle.getLast? = some '!'

/-- Read a tag at its exclamation mark. -/
def readTag (inFlow : Bool) (place : Place) : Option (Tag × Place) := do
  let (tag, place) ←
    match place.rest with
    | '!' :: '<' :: _ => do
      let (uri, next) ← readUri true (place.skip 2)
      if next.rest.head? = some '>' then some (⟨[], uri⟩, next.skip 1) else none
    | _ => do
      let (handle, next) ← readHandle place
      if isHandle handle then do
        let (uri, next) ← readUri false next
        some ((⟨handle, uri⟩ : Tag), next)
      else do
        let (more, next) ← readTagChars false (next.size + 1) next
        let suffix := handle.drop 1 ++ more
        some (if suffix.isEmpty then ⟨[], ['!']⟩ else ⟨['!'], suffix⟩, next)
  if (inFlow && place.rest.head? = some ',') || atGap place.rest then some (tag, place) else none

/-- A directive before a document. -/
inductive Directive where
  | version
  | tag (handle stem : List Char)
  deriving Repr, DecidableEq

/-- A number of at most nine digits. -/
def readVersionNumber (place : Place) : Option (Nat × Place) :=
  let digits := place.rest.takeWhile Char.isDigit
  if digits.isEmpty || 9 < digits.length then none
  else some (digits.foldl (fun n c => n * 10 + (c.toNat - 48)) 0, place.skip digits.length)

/-- Read a directive after its percent sign, to the end of its line. Versions 1.1 and 1.2 are
known. -/
def readDirective (place : Place) : Option (Directive × Place) := do
  let name := place.rest.takeWhile isNameChar
  let place := place.skip name.length
  if name.isEmpty || !atGap place.rest then none
  else if name = "YAML".toList then do
    let (major, place) ← readVersionNumber (place.skipWhile isSpace)
    if place.rest.head? = some '.' then do
      let (minor, place) ← readVersionNumber (place.skip 1)
      let place ← place.finishLine?
      if major = 1 && (minor = 1 || minor = 2) then some (.version, place) else none
    else none
  else if name = "TAG".toList then do
    let (handle, place) ← readHandle (place.skipWhile isSpace)
    if handle != ['!'] && !isHandle handle then none
    else if !(place.rest.head?.any isSpace) then none
    else do
      let (stem, place) ← readUri true (place.skipWhile isSpace)
      if atGap place.rest then do
        let place ← place.finishLine?
        some (.tag handle stem, place)
      else none
  else none

end Crosstab.Yaml
