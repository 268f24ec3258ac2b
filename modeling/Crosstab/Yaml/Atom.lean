import Crosstab.Data.Value
import Crosstab.Fragment.Count
import Crosstab.Yaml.Token

/-!
# What scalars of YAML say

A plain scalar without a tag may be null, a truth value or a number; anything else is text. A tag of
the core schema makes a claim about the scalar that has to hold, and any other tag makes it a text.
-/

namespace Crosstab.Yaml

/-- The words for null. -/
def isNullWord (cs : List Char) : Bool := ["null", "Null", "NULL", "~"].contains (String.ofList cs)

/-- The truth value of a word. -/
def boolOfWord? (cs : List Char) : Option Bool :=
  let word := String.ofList cs
  if ["true", "True", "TRUE"].contains word then some true
  else if ["false", "False", "FALSE"].contains word then some false
  else none

/-- Whether digits after an optional sign begin with a zero that they could do without. -/
def hasLeadingZero (cs : List Char) : Bool :=
  let digits := match cs with
    | '-' :: rest => rest
    | '+' :: rest => rest
    | _ => cs
  1 < digits.length && digits.head? = some '0' && digits.all Char.isDigit

/-- An integer without its sign. -/
def magnitude? (cs : List Char) : Option Nat :=
  match cs with
  | '0' :: 'x' :: digits => numberOf? 16 digits
  | '0' :: 'o' :: digits => numberOf? 8 digits
  | '0' :: 'b' :: digits => numberOf? 2 digits
  | digits => if hasLeadingZero digits then none else numberOf? 10 digits

/-- The value of an integer. One that takes more than 64 bits is refused, unless it takes more than
128, when it is no integer at all. Zero with a minus sign is a real. -/
def integer? (cs : List Char) : Option (Option Value) :=
  match cs with
  | '-' :: rest =>
    (magnitude? rest).bind fun n =>
      if n = 0 then some (some (.real (String.ofList cs)))
      else if n ≤ Nat.pow 2 63 then some (some (.int (-(n : Int))))
      else if n ≤ Nat.pow 2 127 then some none
      else none
  | _ =>
    let digits := match cs with
      | '+' :: rest => rest
      | _ => cs
    (magnitude? digits).bind fun n =>
      if n ≤ maxCount then some (some (.int n))
      else if n < Nat.pow 2 128 then some none
      else none

/-- The exponent part, if what is left of a real is one or nothing. -/
def exponent? : List Char → Option Int
  | [] => some 0
  | e :: rest =>
    if e != 'e' && e != 'E' then none
    else match rest with
      | '-' :: digits => (numberOf? 10 digits).map fun n => -(n : Int)
      | '+' :: digits => (numberOf? 10 digits).map fun n => (n : Int)
      | digits => (numberOf? 10 digits).map fun n => (n : Int)

/-- Whether a text without a sign is a decimal within the range of doubles. -/
def isDecimal (cs : List Char) : Bool :=
  let whole := cs.takeWhile Char.isDigit
  let rest := cs.dropWhile Char.isDigit
  let fraction := match rest with
    | '.' :: rest => rest.takeWhile Char.isDigit
    | _ => []
  let tail := match rest with
    | '.' :: rest => rest.dropWhile Char.isDigit
    | _ => rest
  !(whole ++ fraction).isEmpty &&
    (exponent? tail).any fun e =>
      isFiniteDecimal (numberOf 10 (whole ++ fraction)) (e - fraction.length)

/-- Whether a text is a real number. -/
def isReal (cs : List Char) : Bool :=
  let body := match cs with
    | '-' :: rest => rest
    | '+' :: rest => rest
    | _ => cs
  [".inf", ".Inf", ".INF"].contains (String.ofList body) ||
    [".nan", ".NaN", ".NAN"].contains (String.ofList cs) || isDecimal body

/-- The value of a plain scalar without a tag. -/
def plainValue? (cs : List Char) : Option Value :=
  if cs.isEmpty || isNullWord cs then some .null
  else match boolOfWord? cs with
    | some b => some (.bool b)
    | none => match integer? cs with
      | some value => value
      | none =>
        let text := String.ofList cs
        some (if !hasLeadingZero cs && isReal cs then .real text else .text text)

/-- The value of a scalar. Local tags are refused. -/
def scalarValue? (tag : Option (List Char)) (style : Style) (cs : List Char) : Option Value :=
  let text := String.ofList cs
  match tag.map String.ofList with
  | none => if style = .plain then plainValue? cs else some (.text text)
  | some "tag:yaml.org,2002:null" => if isNullWord cs then some .null else none
  | some "tag:yaml.org,2002:bool" => (boolOfWord? cs).map .bool
  | some "tag:yaml.org,2002:int" => (integer? cs).join
  | some "tag:yaml.org,2002:float" => if isReal cs then some (.real text) else none
  | some name => if name.startsWith "!" then none else some (.text text)

/-- Whether a scalar may stand for nothing where a text is asked for; `none` if it claims to and
does not. -/
def isAbsent? (tag : Option (List Char)) (style : Style) (cs : List Char) : Option Bool :=
  if style != .plain then some false
  else match tag.map String.ofList with
    | none => some (cs.isEmpty || isNullWord cs)
    | some "tag:yaml.org,2002:null" => if isNullWord cs then some true else none
    | some _ => some false

end Crosstab.Yaml
