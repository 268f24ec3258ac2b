import Crosstab.Text.Blank
import Crosstab.Text.Digits

/-!
# Row counts

A limit fragment is read by its last word alone, so `TOP 5`, `LIMIT 5` and `5` all say five.
-/

namespace Crosstab

/-- The largest count of 64 bits. -/
def maxCount : Nat := 18446744073709551615

/-- A count as written: digits after an optional plus sign, at most 64 bits wide. -/
def parseCount (cs : List Char) : Option Nat :=
  let digits := match cs with
    | '+' :: rest => rest
    | _ => cs
  (numberOf? 10 digits).filter (· ≤ maxCount)

/-- The count that ends a limit fragment. -/
def trailingCount (cs : List Char) : Option Nat := (lastWord? cs).bind parseCount

end Crosstab
