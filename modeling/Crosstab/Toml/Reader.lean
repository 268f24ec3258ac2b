import Crosstab.Toml.Atom
import Crosstab.Toml.Table

/-!
# Reading TOML

A document is read line by line into a table; lists and inline tables are read where they stand.
The recursive readers count down a budget that a document of its length cannot use up, since every
second step takes a character.
-/

namespace Crosstab.Toml

/-- Drop blanks within a line. -/
def skipLineBlanks (cs : List Char) : List Char := cs.dropWhile isLineBlank

/-- What follows a comment; `none` if a control character stands in it. -/
def skipComment (cs : List Char) : Option (List Char) :=
  match cs.dropWhile isTextChar with
  | [] => some []
  | '\n' :: rest => some ('\n' :: rest)
  | '\r' :: '\n' :: rest => some ('\r' :: '\n' :: rest)
  | _ => none

/-- What follows the end of a line, which may hold blanks and a comment before its break. -/
def endLine (cs : List Char) : Option (List Char) :=
  let rest := match skipLineBlanks cs with
    | '#' :: rest => skipComment rest
    | rest => some rest
  match rest with
  | some [] => some []
  | some ('\n' :: rest) => some rest
  | some ('\r' :: '\n' :: rest) => some rest
  | _ => none

/-- Drop blanks, line breaks and comments. -/
def skipGaps : Nat → List Char → Option (List Char)
  | 0, _ => none
  | budget + 1, cs =>
    match skipLineBlanks cs with
    | '\n' :: rest => skipGaps budget rest
    | '\r' :: '\n' :: rest => skipGaps budget rest
    | '#' :: rest => (skipComment rest).bind (skipGaps budget)
    | rest => some rest

/-- A character of a key without quotes. -/
def isKeyChar (c : Char) : Bool := c.isAlphanum || c == '-' || c == '_'

/-- One part of a key. -/
def keyPart : List Char → Read String
  | '"' :: rest => (basicString rest).map fun r => (String.ofList r.1, r.2)
  | '\'' :: rest => (literalString rest).map fun r => (String.ofList r.1, r.2)
  | cs =>
    let part := cs.takeWhile isKeyChar
    if part.isEmpty then none else some (String.ofList part, cs.dropWhile isKeyChar)

/-- The parts of a dotted key, with blanks around them. -/
def keyParts : Nat → List Char → Option (List String × List Char)
  | 0, _ => none
  | budget + 1, cs => do
    let (part, rest) ← keyPart (skipLineBlanks cs)
    match skipLineBlanks rest with
    | '.' :: rest => do
      let (parts, rest) ← keyParts budget rest
      some (part :: parts, rest)
    | rest => some ([part], rest)

/-- Lists, inline tables and dotted keys are nested less deeply than this. -/
def depthLimit : Nat := 80

/-- A dotted key: the path before the last dot, and the last part. -/
def dottedKey (cs : List Char) : Option ((List String × String) × List Char) := do
  let (parts, rest) ← keyParts (cs.length + 1) cs
  let last ← parts.getLast?
  if parts.length < depthLimit then some ((parts.dropLast, last), rest) else none

mutual

/-- A value; `depth` lists and inline tables are open around it. -/
def value (depth : Nat) : Nat → List Char → Read Value
  | 0, _ => none
  | budget + 1, cs =>
    match cs with
    | '[' :: rest =>
      if depth + 1 < depthLimit then
        (listItems (depth + 1) budget rest).map fun r => (.list r.1, r.2)
      else none
    | '{' :: rest =>
      if depth + 1 < depthLimit then
        match skipLineBlanks rest with
        | '}' :: rest => some (.map [], rest)
        | rest => inlineEntries (depth + 1) budget [] rest
      else none
    | '"' :: _ => (anyString cs).map fun r => (.text (String.ofList r.1), r.2)
    | '\'' :: _ => (anyString cs).map fun r => (.text (String.ofList r.1), r.2)
    | _ =>
      let (atom, rest) := takeAtom cs
      (atomValue? atom).map fun v => (v, rest)

/-- The items of a list up to its closing bracket. -/
def listItems (depth : Nat) : Nat → List Char → Read (List Value)
  | 0, _ => none
  | budget + 1, cs =>
    match skipGaps (cs.length + 1) cs with
    | none => none
    | some (']' :: rest) => some ([], rest)
    | some start =>
      match value depth budget start with
      | none => none
      | some (v, rest) =>
        match skipGaps (rest.length + 1) rest with
        | some (',' :: rest) => (listItems depth budget rest).map fun r => (v :: r.1, r.2)
        | some (']' :: rest) => some ([v], rest)
        | _ => none

/-- The entries of an inline table up to its closing brace. -/
def inlineEntries (depth : Nat) : Nat → Table → List Char → Read Value
  | 0, _, _ => none
  | budget + 1, table, cs =>
    match dottedKey cs with
    | some ((path, key), '=' :: rest) =>
      match value depth budget (skipLineBlanks rest) with
      | none => none
      | some (v, rest) =>
        match table.putValue path key v, skipLineBlanks rest with
        | some table, ',' :: rest => inlineEntries depth budget table rest
        | some table, '}' :: rest => some (table.toValue, rest)
        | _, _ => none
    | _ => none

end

/-- The part of a document that is being read: all of it so far, and the path of the table that the
last header opened. -/
structure Draft where
  table : Table
  path : List String

/-- Take in the value of a key. -/
def Draft.put (draft : Draft) (path : List String) (key : String) (v : Value) : Option Draft :=
  (draft.table.update false .header draft.path fun _ inner => inner.putValue path key v).map
    fun table => { draft with table := table }

/-- Take in a header, which is all that a line holds. -/
def Draft.header (draft : Draft) : List Char → Option (Draft × List Char)
  | '[' :: '[' :: rest =>
    match dottedKey rest with
    | some ((path, key), ']' :: ']' :: rest) => do
      let table ← draft.table.openItem? path key
      let rest ← endLine rest
      some (⟨table, path ++ [key]⟩, rest)
    | _ => none
  | '[' :: rest =>
    match dottedKey rest with
    | some ((path, key), ']' :: rest) => do
      let table ← draft.table.open? path key
      let rest ← endLine rest
      some (⟨table, path ++ [key]⟩, rest)
    | _ => none
  | _ => none

/-- Take in a key and its value, which is all that a line holds. -/
def Draft.keyValue (draft : Draft) (cs : List Char) : Option (Draft × List Char) :=
  match dottedKey cs with
  | some ((path, key), '=' :: rest) => do
    let rest := skipLineBlanks rest
    let (v, rest) ← value 0 (2 * rest.length + 2) rest
    let rest ← endLine rest
    let draft ← draft.put path key v
    some (draft, rest)
  | _ => none

/-- Read the lines of a document. -/
def Draft.lines (draft : Draft) : Nat → List Char → Option Draft
  | 0, _ => none
  | budget + 1, cs =>
    match skipLineBlanks cs with
    | [] => some draft
    | '#' :: rest => (endLine ('#' :: rest)).bind (draft.lines budget)
    | '\n' :: rest => draft.lines budget rest
    | '\r' :: '\n' :: rest => draft.lines budget rest
    | '[' :: rest => (draft.header ('[' :: rest)).bind fun r => r.1.lines budget r.2
    | start => (draft.keyValue start).bind fun r => r.1.lines budget r.2

/-- The text without a byte order mark. -/
def dropMark : List Char → List Char
  | '\uFEFF' :: rest => rest
  | cs => cs

/-- The table of a TOML document. -/
def parse? (text : String) : Option Value :=
  let cs := dropMark text.toList
  ((⟨[], []⟩ : Draft).lines (cs.length + 1) cs).map fun draft => draft.table.toValue

end Crosstab.Toml
