import Crosstab.Data.Value
import Crosstab.Toml.Text

/-!
# Numbers, dates and words of TOML

Everything that is no string, list or table is an atom: a run of letters, digits and a few signs.
Only integers and words matter to a reader of settings; reals and dates are recognised, so that an
ill-formed one is refused, and kept as written.
-/

namespace Crosstab.Toml

/-- A character of an atom. -/
def isAtomChar (c : Char) : Bool :=
  c.isAlphanum || c == '+' || c == '-' || c == '_' || c == '.' || c == ':'

/-- Digits of which any two neighbours may be parted by one underscore: the digits themselves. -/
def groupedDigits (isDigit : Char → Bool) : List Char → Option (List Char)
  | [] => none
  | [c] => if isDigit c then some [c] else none
  | c :: '_' :: rest =>
    if isDigit c then (groupedDigits isDigit rest).map (c :: ·) else none
  | c :: rest => if isDigit c then (groupedDigits isDigit rest).map (c :: ·) else none

/-- The sign of a number and what follows it. -/
def takeSign : List Char → Bool × List Char
  | '-' :: rest => (true, rest)
  | '+' :: rest => (false, rest)
  | cs => (false, cs)

/-- The digits of a decimal integer without its sign: no leading zero. -/
def wholeDigits (cs : List Char) : Option (List Char) :=
  match groupedDigits Char.isDigit cs with
  | some ('0' :: _ :: _) => none
  | digits => digits

/-- An integer of 64 bits. -/
def integer? (cs : List Char) : Option Int :=
  let based (base : Nat) (rest : List Char) : Option Int :=
    (groupedDigits (isDigitOf base) rest).map fun ds => (numberOf base ds : Int)
  let n : Option Int := match cs with
    | '0' :: 'x' :: rest => based 16 rest
    | '0' :: 'o' :: rest => based 8 rest
    | '0' :: 'b' :: rest => based 2 rest
    | _ =>
      let (negative, rest) := takeSign cs
      (wholeDigits rest).map fun ds =>
        if negative then -(numberOf 10 ds : Int) else (numberOf 10 ds : Int)
  n.filter fun n => -(Nat.pow 2 63 : Int) ≤ n && n < Nat.pow 2 63

/-- The exponent that a text spells, which is empty or begins with `e`. -/
def exponent? : List Char → Option Int
  | [] => some 0
  | e :: rest =>
    if e != 'e' && e != 'E' then none
    else
      let (negative, digits) := takeSign rest
      (groupedDigits Char.isDigit digits).map fun ds =>
        if negative then -(numberOf 10 ds : Int) else (numberOf 10 ds : Int)

/-- Whether a text is a real number. One that is too large upwards is refused. -/
def isReal (cs : List Char) : Bool :=
  let (negative, rest) := takeSign cs
  if rest = ['i', 'n', 'f'] || rest = ['n', 'a', 'n'] then true
  else
    let isE (c : Char) : Bool := c == 'e' || c == 'E'
    let mantissa := rest.takeWhile fun c => !isE c
    let tail := rest.dropWhile fun c => !isE c
    let whole := mantissa.takeWhile (· != '.')
    let fraction : Option (List Char) := match mantissa.dropWhile (· != '.') with
      | [] => some []
      | _ :: digits => groupedDigits Char.isDigit digits
    match wholeDigits whole, fraction, exponent? tail with
    | some w, some f, some e =>
      (!f.isEmpty || !tail.isEmpty) &&
        (negative || isFiniteDecimal (numberOf 10 (w ++ f)) (e - f.length))
    | _, _, _ => false

/-- The number of two digits, if it lies between the bounds. -/
def twoDigits? (low high : Nat) (a b : Char) : Option Nat :=
  if a.isDigit && b.isDigit then
    let n := numberOf 10 [a, b]
    if low ≤ n && n ≤ high then some n else none
  else none

/-- The days of a month. -/
def monthDays (year month : Nat) : Nat :=
  if month = 2 then
    if year % 4 = 0 && (year % 100 != 0 || year % 400 = 0) then 29 else 28
  else if month = 4 || month = 6 || month = 9 || month = 11 then 30
  else 31

/-- What follows a calendar date. -/
def afterDate : List Char → Option (List Char)
  | a :: b :: c :: d :: '-' :: e :: f :: '-' :: g :: h :: rest =>
    if [a, b, c, d].all Char.isDigit then
      (twoDigits? 1 12 e f).bind fun month =>
        (twoDigits? 1 (monthDays (numberOf 10 [a, b, c, d]) month) g h).map fun _ => rest
    else none
  | _ => none

/-- What follows a time of day. -/
def afterTime : List Char → Option (List Char)
  | a :: b :: ':' :: c :: d :: ':' :: e :: f :: rest => do
    let _ ← twoDigits? 0 23 a b
    let _ ← twoDigits? 0 59 c d
    let _ ← twoDigits? 0 60 e f
    match rest with
    | '.' :: g :: rest => if g.isDigit then some (rest.dropWhile Char.isDigit) else none
    | '.' :: [] => none
    | rest => some rest
  | _ => none

/-- Whether a text is empty or an offset from universal time. -/
def isOffset : List Char → Bool
  | [] => true
  | ['Z'] => true
  | ['z'] => true
  | [sign, a, b, ':', c, d] =>
    (sign == '+' || sign == '-') && (twoDigits? 0 23 a b).isSome && (twoDigits? 0 59 c d).isSome
  | _ => false

/-- Whether a text is a time of day, with or without an offset. -/
def isTimeWithOffset (cs : List Char) : Bool :=
  match afterTime cs with
  | some rest => isOffset rest
  | none => false

/-- Whether a text is a date, a time, or both. -/
def isDateTime (cs : List Char) : Bool :=
  match afterDate cs with
  | some [] => true
  | some (t :: rest) => (t == 'T' || t == 't' || t == ' ') && isTimeWithOffset rest
  | none => afterTime cs = some []

/-- The value of an atom. A date is a record of a kind that no setting has. -/
def atomValue? (cs : List Char) : Option Value :=
  if cs = ['t', 'r', 'u', 'e'] then some (.bool true)
  else if cs = ['f', 'a', 'l', 's', 'e'] then some (.bool false)
  else match integer? cs with
    | some n => some (.int n)
    | none =>
      if isReal cs then some (.real (String.ofList cs))
      else if isDateTime cs then some (.record [("date", .text (String.ofList cs))])
      else none

/-- Whether a time of day follows, as it may after a date and one space. -/
def startsTime : List Char → Bool
  | ' ' :: a :: b :: ':' :: _ => a.isDigit && b.isDigit
  | _ => false

/-- The atom that starts here. A date and a time may be parted by a space. -/
def takeAtom (cs : List Char) : List Char × List Char :=
  let atom := cs.takeWhile isAtomChar
  let rest := cs.dropWhile isAtomChar
  if afterDate atom = some [] && startsTime rest then
    (atom ++ ' ' :: (rest.drop 1).takeWhile isAtomChar, (rest.drop 1).dropWhile isAtomChar)
  else (atom, rest)

end Crosstab.Toml
