import Crosstab.Yaml.Scalar
import Crosstab.Yaml.Tag

/-!
# The tokens of YAML

YAML leaves out the brackets of block collections and says by indentation where they are. The layout
machine puts them back: it keeps the columns of the open block collections and, for each open flow
collection, the token that would become a key if a colon followed. Such a candidate has to lie on
one line and within 1024 characters; in a block collection of the same column it has to become one.
-/

namespace Crosstab.Yaml

/-- How a scalar is written. -/
inductive Style where
  | plain
  /-- In quotes or as a block. -/
  | quoted
  deriving Repr, DecidableEq

inductive Token where
  | directive (d : Directive)
  | startMark
  | endMark
  /-- The last token. -/
  | finish
  | openBlockList
  | openBlockMap
  | closeBlock
  | openFlowList
  | closeFlowList
  | openFlowMap
  | closeFlowMap
  /-- The dash before an item. -/
  | item
  | comma
  | key
  | value
  /-- An alias: the node of an anchor stands here again. -/
  | reference (name : List Char)
  | anchor (name : List Char)
  | tag (tag : Tag)
  | scalar (style : Style) (text : List Char)
  deriving Repr, DecidableEq

/-- A token that would become a key if a colon followed. -/
structure Candidate where
  /-- Whether it has to become one. -/
  required : Bool
  /-- The number of tokens before it. -/
  number : Nat
  index : Nat
  line : Nat
  column : Nat

/-- The state of the layout machine. -/
structure Layout where
  place : Place
  /-- The tokens so far, the last one first. -/
  tokens : List Token
  /-- How many tokens there are. -/
  count : Nat
  /-- The columns of the open block collections, the innermost first. -/
  indents : List Nat
  /-- The candidates of the open flow collections, the innermost first, and last the one outside
  all of them. -/
  candidates : List (Option Candidate)
  /-- Whether a key may start here. -/
  keyAllowed : Bool

namespace Layout

/-- The state before a text. -/
def ofText (cs : List Char) : Layout := ⟨⟨cs, cs.length, 0, 0, 0⟩, [], 0, [], [none], true⟩

/-- Whether a flow collection is open. -/
def inFlow (s : Layout) : Bool := 1 < s.candidates.length

/-- The first column inside the innermost block collection. -/
def inner (s : Layout) : Nat :=
  match s.indents with
  | [] => 0
  | column :: _ => column + 1

/-- Append a token. -/
def emit (s : Layout) (token : Token) : Layout :=
  { s with tokens := token :: s.tokens, count := s.count + 1 }

/-- Insert a token before the token with this number. -/
def insertAt (s : Layout) (number : Nat) (token : Token) : Layout :=
  let after := s.count - number
  { s with
    tokens := s.tokens.take after ++ token :: s.tokens.drop after
    count := s.count + 1 }

/-- Set the innermost candidate. -/
def setCandidate (s : Layout) (candidate : Option Candidate) : Layout :=
  { s with candidates := candidate :: s.candidates.drop 1 }

/-- Give up the innermost candidate, unless it is required. -/
def dropCandidate (s : Layout) : Option Layout :=
  match s.candidates.head? with
  | some (some candidate) => if candidate.required then none else some (s.setCandidate none)
  | _ => some (s.setCandidate none)

/-- Make the next token a candidate, where a key may start. -/
def saveCandidate (s : Layout) : Option Layout :=
  if s.keyAllowed then
    let required := !s.inFlow && s.inner = s.place.column + 1
    s.dropCandidate.map fun s =>
      s.setCandidate (some ⟨required, s.count, s.place.index, s.place.line, s.place.column⟩)
  else some s

/-- Give up the candidates that lie too far back. -/
def dropStale (s : Layout) : Option Layout :=
  let isStale (c : Candidate) : Bool :=
    c.line < s.place.line || c.index + 1024 < s.place.index
  let isLost : Option Candidate → Bool
    | some c => isStale c && c.required
    | none => false
  if s.candidates.any isLost then none
  else some { s with candidates := s.candidates.map fun c => c.filter fun c => !isStale c }

/-- Open a block collection at a column further right than the innermost one; its token goes before
the token with this number. -/
def indentTo (s : Layout) (column number : Nat) (token : Token) : Layout :=
  if !s.inFlow && s.inner ≤ column then
    { s.insertAt number token with indents := column :: s.indents }
  else s

/-- Leave the collections that begin at a column or further right: those that stay open, and how
many were left. -/
def leave (column : Nat) : List Nat → List Nat × Nat
  | [] => ([], 0)
  | top :: rest =>
    if column ≤ top then
      let r := leave column rest
      (r.1, r.2 + 1)
    else (top :: rest, 0)

/-- Close the block collections that begin at a column or further right. -/
def closeFrom (s : Layout) (column : Nat) : Layout :=
  if s.inFlow then s
  else
    let r := leave column s.indents
    { s with
      indents := r.1
      tokens := List.replicate r.2 .closeBlock ++ s.tokens
      count := s.count + r.2 }

/-- Past blanks, comments and line breaks. In a block a new line may start a key; tabs count as
blanks only where no key may start. A byte order mark may begin a line and takes a column of it. -/
def skipGaps : Nat → Layout → Layout
  | 0, s => s
  | budget + 1, s =>
    let place :=
      if s.place.column = 0 && s.place.rest.head? = some '\uFEFF' then s.place.skip 1 else s.place
    let tabs := s.inFlow || !s.keyAllowed
    let place := (place.skipWhile fun c => c == ' ' || (tabs && c == '\t')).skipComment
    if place.rest.head?.any isBreak then
      skipGaps budget
        { s with place := place.skipBreak, keyAllowed := s.keyAllowed || !s.inFlow }
    else { s with place := place }

/-- Take an indicator of one character as a token. -/
def take (s : Layout) (token : Token) : Layout :=
  { s with place := s.place.skip 1 }.emit token

/-- Close everything before a directive or a mark of a document. -/
def leaveDocument (s : Layout) : Option Layout :=
  (s.closeFrom 0).dropCandidate.map fun s => { s with keyAllowed := false }

/-- The end of the text. -/
def takeEnd (s : Layout) : Option Layout :=
  s.leaveDocument.map fun s => s.emit .finish

/-- A directive. -/
def takeDirective (s : Layout) : Option Layout := do
  let s ← s.leaveDocument
  let (directive, place) ← readDirective (s.place.skip 1)
  some ({ s with place := place }.emit (.directive directive))

/-- A mark of a document. -/
def takeMark (s : Layout) (token : Token) : Option Layout :=
  s.leaveDocument.map fun s => { s with place := s.place.skip 3 }.emit token

/-- The opening bracket of a flow collection. -/
def takeFlowOpening (s : Layout) (token : Token) : Option Layout :=
  s.saveCandidate.map fun s =>
    { s with candidates := none :: s.candidates, keyAllowed := true }.take token

/-- The closing bracket of a flow collection. -/
def takeFlowClosing (s : Layout) (token : Token) : Option Layout :=
  s.dropCandidate.map fun s =>
    let candidates := if s.inFlow then s.candidates.drop 1 else s.candidates
    { s with candidates := candidates, keyAllowed := false }.take token

/-- The comma of a flow collection. -/
def takeComma (s : Layout) : Option Layout :=
  s.dropCandidate.map fun s => { s with keyAllowed := true }.take .comma

/-- The dash before an item. -/
def takeItem (s : Layout) : Option Layout :=
  if !s.inFlow && !s.keyAllowed then none
  else
    (s.indentTo s.place.column s.count .openBlockList).dropCandidate.map fun s =>
      { s with keyAllowed := true }.take .item

/-- The question mark before a key. -/
def takeKey (s : Layout) : Option Layout :=
  if !s.inFlow && !s.keyAllowed then none
  else
    (s.indentTo s.place.column s.count .openBlockMap).dropCandidate.map fun s =>
      { s with keyAllowed := !s.inFlow }.take .key

/-- The colon before a value: it makes the candidate a key, if there is one. -/
def takeValue (s : Layout) : Option Layout :=
  match s.candidates.head? with
  | some (some c) =>
    let s := (s.insertAt c.number .key).indentTo c.column c.number .openBlockMap
    some ({ s.setCandidate none with keyAllowed := false }.take .value)
  | _ =>
    if !s.inFlow && !s.keyAllowed then none
    else
      let s := s.indentTo s.place.column s.count .openBlockMap
      some ({ s with keyAllowed := !s.inFlow }.take .value)

/-- A token that may be a key, read from the text. -/
def takeNode (s : Layout) (read : Place → Option (Token × Place)) : Option Layout := do
  let s ← s.saveCandidate
  let (token, place) ← read s.place
  some ({ s with place := place, keyAllowed := false }.emit token)

/-- A plain scalar. If it was left after a line break, a key may start there. -/
def takePlain (s : Layout) : Option Layout := do
  let s ← s.saveCandidate
  let (text, broken, place) ← plain s.inFlow s.inner (s.place.size + 1) .empty s.place
  some ({ s with place := place, keyAllowed := broken }.emit (.scalar .plain text))

/-- A block scalar. -/
def takeBlock (s : Layout) (literal : Bool) : Option Layout := do
  let s ← s.dropCandidate
  let (text, place) ← block literal s.inner (s.place.skip 1)
  some ({ s with place := place, keyAllowed := true }.emit (.scalar .quoted text))

/-- A quoted scalar. -/
def takeQuoted (s : Layout) (single : Bool) : Option Layout :=
  s.takeNode fun place =>
    (quoted single (place.size + 1) (place.skip 1)).map fun r =>
      (.scalar .quoted r.1, r.2)

/-- The characters with which no plain scalar begins, whatever follows them. -/
def neverPlain : List Char := ",[]\x7b\x7d#&*!|>'\"%@\x60".toList

/-- Whether a plain scalar begins with `c` before `rest`, where no other token does. -/
def startsPlain (s : Layout) (c : Char) (rest : List Char) : Bool :=
  if c == '?' || c == ':' then !s.inFlow && !atGap rest
  else !isSpace c && !isBreak c && !neverPlain.contains c

/-- Take the next token, and whatever tokens it makes necessary. -/
def step (s : Layout) : Option Layout := do
  let s ← (s.skipGaps (s.place.size + 1)).dropStale
  match s.place.rest with
  | [] => s.takeEnd
  | c :: rest =>
    let s := s.closeFrom (s.place.column + 1)
    if s.place.column = 0 && c == '%' then s.takeDirective
    else if s.place.atStartMark then s.takeMark .startMark
    else if s.place.atEndMark then s.takeMark .endMark
    else if c == '[' then s.takeFlowOpening .openFlowList
    else if c == '\x7b' then s.takeFlowOpening .openFlowMap
    else if c == ']' then s.takeFlowClosing .closeFlowList
    else if c == '\x7d' then s.takeFlowClosing .closeFlowMap
    else if c == ',' then s.takeComma
    else if c == '-' && atGap rest then s.takeItem
    else if c == '?' && (s.inFlow || atGap rest) then s.takeKey
    else if c == ':' && (s.inFlow || atGap rest) then s.takeValue
    else if c == '*' then
      s.takeNode fun place => (readAnchor (place.skip 1)).map fun r => (.reference r.1, r.2)
    else if c == '&' then
      s.takeNode fun place => (readAnchor (place.skip 1)).map fun r => (.anchor r.1, r.2)
    else if c == '!' then
      s.takeNode fun place => (readTag s.inFlow place).map fun r => (.tag r.1, r.2)
    else if c == '|' && !s.inFlow then s.takeBlock true
    else if c == '>' && !s.inFlow then s.takeBlock false
    else if c == '\'' then s.takeQuoted true
    else if c == '"' then s.takeQuoted false
    else if s.startsPlain c rest then s.takePlain
    else none

/-- Whether the last token was taken. -/
def isFinished (s : Layout) : Bool :=
  match s.tokens with
  | .finish :: _ => true
  | _ => false

/-- Take tokens up to the last one. -/
def run : Nat → Layout → Option Layout
  | 0, _ => none
  | budget + 1, s =>
    match s.step with
    | none => none
    | some s => if s.isFinished then some s else run budget s

end Layout

/-- The tokens of a text. -/
def tokens? (cs : List Char) : Option (List Token) :=
  if cs.all isAllowed then
    (Layout.run (cs.length + 2) (.ofText cs)).map fun s => s.tokens.reverse
  else none

end Crosstab.Yaml
