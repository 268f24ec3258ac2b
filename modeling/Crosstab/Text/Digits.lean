/-!
# Digits

Numbers as the formats write them: digits in a base, code points in hexadecimal, and the question
whether a decimal still fits a double.
-/

namespace Crosstab

/-- The value of a digit; letters of either case go on after nine. -/
def digitValue? (c : Char) : Option Nat :=
  if c.isDigit then some (c.toNat - 48)
  else if 'a' ≤ c && c ≤ 'z' then some (c.toNat - 87)
  else if 'A' ≤ c && c ≤ 'Z' then some (c.toNat - 55)
  else none

/-- Whether a character is a digit of a base. -/
def isDigitOf (base : Nat) (c : Char) : Bool := (digitValue? c).any (· < base)

/-- The number that digits of a base spell. -/
def numberOf (base : Nat) (digits : List Char) : Nat :=
  digits.foldl (fun n c => n * base + (digitValue? c).getD 0) 0

/-- The number that a text spells in a base; `none` if it is empty or holds anything else than
digits. -/
def numberOf? (base : Nat) (cs : List Char) : Option Nat :=
  if !cs.isEmpty && cs.all (isDigitOf base) then some (numberOf base cs) else none

/-- The character of a code point in hexadecimal, surrogates excluded. -/
def charOfHex? (cs : List Char) : Option Char :=
  ((numberOf? 16 cs).filter fun n => n < 0xD800 || (0xDFFF < n && n < 0x110000)).map Char.ofNat

/-- The middle between the largest double and the next power of two, from which on numbers round to
infinity. -/
def doubleBound : Nat := Nat.pow 2 1024 - Nat.pow 2 970

/-- Whether `digits` times ten to the `exponent` rounds to a finite double. -/
def isFiniteDecimal (digits : Nat) (exponent : Int) : Bool :=
  if digits = 0 then true
  else if 400 < exponent then false
  else if exponent < 0 then
    -- a negative exponent beyond the number of digits leaves less than one
    if (Nat.toDigits 10 digits).length ≤ exponent.natAbs then true
    else digits < doubleBound * Nat.pow 10 exponent.natAbs
  else digits * Nat.pow 10 exponent.toNat < doubleBound

end Crosstab
