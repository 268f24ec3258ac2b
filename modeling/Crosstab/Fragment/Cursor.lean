/-!
# Reading a fragment

SQL text is never parsed here; it is read character by character with just enough memory to know
what is structural. A `Cursor` holds the parenthesis depth and whether the reader is inside a quoted
run. The quoted runs are `'..'`, `".."`, `` `..` `` and `[..]`, and a doubled closer inside one
stands for itself: the reader goes to `ended` at a closer and falls back to `quoted` if the next
character repeats it. Because a step needs no look-ahead, reading `p ++ q` is reading `p` and then
`q`, which is what every statement about pasted text rests on.
-/

namespace Crosstab

/-- The character that ends the quoted run which this one opens. -/
def closer? : Char → Option Char
  | '\'' => some '\''
  | '"' => some '"'
  | '\x60' => some '\x60'
  | '[' => some ']'
  | _ => none

/-- What the next character means to a reader. -/
inductive Mode where
  /-- Outside every quoted run. -/
  | plain
  /-- Inside a run that this character ends. -/
  | quoted (closer : Char)
  /-- Just past a closer: the run is over, unless the next character is the closer again. -/
  | ended (closer : Char)
  deriving Repr, DecidableEq

/-- The memory of a reader. -/
structure Cursor where
  /-- Parentheses opened and not yet closed outside quoted runs. -/
  depth : Nat
  mode : Mode
  deriving Repr, DecidableEq

namespace Cursor

/-- The reader before the first character. -/
def start : Cursor := ⟨0, .plain⟩

/-- Whether `c` is read outside quoted runs. A repeated closer is not: it continues its run. -/
def reads (k : Cursor) (c : Char) : Bool :=
  match k.mode with
  | .plain => true
  | .quoted _ => false
  | .ended closer => c != closer

/-- Read `c` outside quoted runs. A parenthesis that closes nothing leaves the depth at zero. -/
def readPlain (depth : Nat) (c : Char) : Cursor :=
  match closer? c with
  | some closer => ⟨depth, .quoted closer⟩
  | none =>
    if c = '(' then ⟨depth + 1, .plain⟩
    else if c = ')' then ⟨depth - 1, .plain⟩
    else ⟨depth, .plain⟩

/-- Read one character. -/
def step (k : Cursor) (c : Char) : Cursor :=
  match k.mode with
  | .plain => readPlain k.depth c
  | .quoted closer => if c = closer then ⟨k.depth, .ended closer⟩ else k
  | .ended closer => if c = closer then ⟨k.depth, .quoted closer⟩ else readPlain k.depth c

/-- Read a whole text. -/
def run (k : Cursor) (cs : List Char) : Cursor := cs.foldl step k

/-- Whether `c`, read at `k`, stands at the top level: outside every parenthesis and every quoted
run, and itself neither a parenthesis nor an opening quote. -/
def isTop (k : Cursor) (c : Char) : Bool :=
  k.reads c && k.depth == 0 && (closer? c).isNone && c != '(' && c != ')'

/-- Whether the reader is outside every parenthesis and every quoted run. -/
def atTop (k : Cursor) : Bool :=
  k.depth == 0 && (match k.mode with | .quoted _ => false | _ => true)

/-- Pair every character with whether it stands at the top level. -/
def marks (k : Cursor) : List Char → List (Char × Bool)
  | [] => []
  | c :: cs => (c, k.isTop c) :: marks (k.step c) cs

/-- Whether reading on meets no parenthesis that closes nothing and ends at the top level. -/
def closes (k : Cursor) : List Char → Bool
  | [] => k.atTop
  | c :: cs => !(k.reads c && k.depth == 0 && c == ')') && closes (k.step c) cs

/-- Cut right after the character that brings the depth back to zero: the text before it and the
text after it. From inside one open parenthesis, that character is its matching `)`. -/
def untilShut (k : Cursor) : List Char → Option (List Char × List Char)
  | [] => none
  | c :: cs =>
    if (k.step c).depth = 0 then some ([], cs)
    else (untilShut (k.step c) cs).map fun r => (c :: r.1, r.2)

end Cursor

/-- The marked characters of a whole fragment. -/
def marks (cs : List Char) : List (Char × Bool) := Cursor.start.marks cs

/-- A text is closed when it opens nothing that it does not close, and closes nothing that it did
not open. Closed texts are the ones that can be pasted into a larger text without disturbing it. -/
def isClosed (cs : List Char) : Bool := Cursor.start.closes cs

/-- The last tail of a list that satisfies `p`, with what stands before it. -/
def splitLast {α : Type} (p : List α → Bool) : List α → Option (List α × List α)
  | [] => none
  | a :: as =>
    match splitLast p as with
    | some (before, tail) => some (a :: before, tail)
    | none => if p (a :: as) then some ([], a :: as) else none

end Crosstab
