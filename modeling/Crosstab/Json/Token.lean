import Crosstab.Data.Value
import Crosstab.Fragment.Count

/-!
# The tokens of JSON

A text is cut into tokens by a machine that takes one character at a time. Inside a string it
resolves escapes, and a surrogate pair of `\u` escapes becomes one character; anything else that is
no punctuation and no blank gathers into an atom, which is a number or one of three words.
-/

namespace Crosstab.Json

inductive Token where
  | openList
  | closeList
  | openMap
  | closeMap
  | comma
  | colon
  | text (s : String)
  /-- A value without structure other than a string. -/
  | atom (v : Value)
  deriving Repr

/-- A number taken apart. -/
structure Numeral where
  negative : Bool
  /-- The digits before the point. -/
  whole : List Char
  /-- The digits after the point. -/
  fraction : List Char
  exponent : Int
  /-- Whether a point or an exponent was written. -/
  isReal : Bool

/-- The exponent part, if what is left of a number is one or nothing. -/
def readExponent : List Char → Option (Option Int)
  | [] => some none
  | e :: rest =>
    if e != 'e' && e != 'E' then none
    else match rest with
      | '-' :: digits => (numberOf? 10 digits).map fun n => some (-(n : Int))
      | '+' :: digits => (numberOf? 10 digits).map fun n => some (n : Int)
      | digits => (numberOf? 10 digits).map fun n => some (n : Int)

/-- The number that a text spells out, by the grammar of JSON: no leading zero, no bare point. -/
def readNumeral (cs : List Char) : Option Numeral :=
  let (negative, rest) := match cs with
    | '-' :: rest => (true, rest)
    | _ => (false, cs)
  let whole := rest.takeWhile Char.isDigit
  let rest := rest.dropWhile Char.isDigit
  if whole.isEmpty || (whole.head? = some '0' && whole.length != 1) then none
  else match rest with
    | '.' :: rest =>
      let fraction := rest.takeWhile Char.isDigit
      if fraction.isEmpty then none
      else (readExponent (rest.dropWhile Char.isDigit)).map fun e =>
        ⟨negative, whole, fraction, e.getD 0, true⟩
    | rest => (readExponent rest).map fun e => ⟨negative, whole, [], e.getD 0, e.isSome⟩

/-- The value of a number. Integers beyond 64 bits and a negative zero are reals, and a real too
large for a double is refused. -/
def Numeral.value? (numeral : Numeral) (source : List Char) : Option Value :=
  let n := numberOf 10 numeral.whole
  if !numeral.isReal && (if numeral.negative then 0 < n && n ≤ Nat.pow 2 63 else n ≤ maxCount) then
    some (.int (if numeral.negative then -(n : Int) else n))
  else if isFiniteDecimal (numberOf 10 (numeral.whole ++ numeral.fraction))
      (numeral.exponent - numeral.fraction.length) then
    some (.real (String.ofList source))
  else none

/-- The value that an atom spells out. -/
def atomValue? (cs : List Char) : Option Value :=
  if cs = ['n', 'u', 'l', 'l'] then some .null
  else if cs = ['t', 'r', 'u', 'e'] then some (.bool true)
  else if cs = ['f', 'a', 'l', 's', 'e'] then some (.bool false)
  else (readNumeral cs).bind (·.value? cs)

/-- Where the machine stands. Gathered characters are in reverse. -/
inductive Reading where
  | between
  | inAtom (gathered : List Char)
  | inText (gathered : List Char)
  /-- Past a backslash. -/
  | escape (gathered : List Char)
  /-- In a `\u` escape with `count` digits read; `high` is a high surrogate before it. -/
  | unit (gathered : List Char) (high : Option Nat) (count : Nat) (value : Nat)
  /-- Past a high surrogate, which only a backslash may follow. -/
  | afterHigh (gathered : List Char) (high : Nat)
  /-- Past a high surrogate and a backslash, which only a `u` may follow. -/
  | lowEscape (gathered : List Char) (high : Nat)

/-- The punctuation token of a character. -/
def punctuation? : Char → Option Token
  | '[' => some .openList
  | ']' => some .closeList
  | '{' => some .openMap
  | '}' => some .closeMap
  | ',' => some .comma
  | ':' => some .colon
  | _ => none

/-- The four blanks of JSON. -/
def isJsonBlank (c : Char) : Bool := c == ' ' || c == '\t' || c == '\n' || c == '\r'

/-- Read a character between tokens. -/
def stepBetween (c : Char) : Reading × List Token :=
  if isJsonBlank c then (.between, [])
  else if c = '"' then (.inText [], [])
  else match punctuation? c with
    | some token => (.between, [token])
    | none => (.inAtom [c], [])

/-- The character of a one-letter escape. -/
def shortEscape? : Char → Option Char
  | '"' => some '"'
  | '\\' => some '\\'
  | '/' => some '/'
  | 'b' => some '\x08'
  | 'f' => some '\x0c'
  | 'n' => some '\n'
  | 'r' => some '\r'
  | 't' => some '\t'
  | _ => none

/-- Take a finished `\u` escape. -/
def finishUnit (gathered : List Char) (high : Option Nat) (value : Nat) : Option Reading :=
  match high with
  | some high =>
    if 0xDC00 ≤ value && value ≤ 0xDFFF then
      some (.inText
        (Char.ofNat (0x10000 + (high - 0xD800) * 0x400 + (value - 0xDC00)) :: gathered))
    else none
  | none =>
    if 0xD800 ≤ value && value ≤ 0xDBFF then some (.afterHigh gathered value)
    else if 0xDC00 ≤ value && value ≤ 0xDFFF then none
    else some (.inText (Char.ofNat value :: gathered))

/-- Read one character. -/
def Reading.step (reading : Reading) (c : Char) : Option (Reading × List Token) :=
  match reading with
  | .between => some (stepBetween c)
  | .inAtom gathered =>
    if isJsonBlank c || c == '"' || (punctuation? c).isSome then
      match atomValue? gathered.reverse with
      | none => none
      | some value =>
        let (reading, tokens) := stepBetween c
        some (reading, .atom value :: tokens)
    else some (.inAtom (c :: gathered), [])
  | .inText gathered =>
    if c = '"' then some (.between, [.text (String.ofList gathered.reverse)])
    else if c = '\\' then some (.escape gathered, [])
    else if c.toNat < 0x20 then none
    else some (.inText (c :: gathered), [])
  | .escape gathered =>
    if c = 'u' then some (.unit gathered none 0 0, [])
    else (shortEscape? c).map fun d => (.inText (d :: gathered), [])
  | .unit gathered high count value =>
    match (digitValue? c).filter (· < 16) with
    | none => none
    | some d =>
      let value := value * 16 + d
      if count = 3 then (finishUnit gathered high value).map fun reading => (reading, [])
      else some (.unit gathered high (count + 1) value, [])
  | .afterHigh gathered high => if c = '\\' then some (.lowEscape gathered high, []) else none
  | .lowEscape gathered high => if c = 'u' then some (.unit gathered (some high) 0 0, []) else none

/-- What a text may end in: nothing, or an atom. -/
def Reading.finish : Reading → Option (List Token)
  | .between => some []
  | .inAtom gathered => (atomValue? gathered.reverse).map fun value => [.atom value]
  | _ => none

/-- The tokens of a text read from a given state on. -/
def tokensFrom : Reading → List Char → Option (List Token)
  | reading, [] => reading.finish
  | reading, c :: cs =>
    match reading.step c with
    | none => none
    | some (reading', tokens) => (tokensFrom reading' cs).map (tokens ++ ·)

/-- The tokens of a text. -/
def tokens? (cs : List Char) : Option (List Token) := tokensFrom .between cs

end Crosstab.Json
