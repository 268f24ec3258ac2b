import Crosstab.Text.Blank
import Crosstab.Text.Doubled
import Crosstab.Fragment.Cursor

/-!
# Aliases

A select fragment may end in `AS name`. The alias is what follows the last `AS` that stands between
blanks at the top level, so `CAST(x AS DATE)` and `'a AS b'` carry none.
-/

namespace Crosstab

/-- The closer of a quoted identifier. -/
def identCloser? : Char → Option Char
  | '[' => some ']'
  | '\x60' => some '\x60'
  | '"' => some '"'
  | _ => none

/-- Take one layer of identifier quoting off the trimmed text and undouble its closer; a text that
is not quoted from end to end is kept. -/
def unquote (cs : List Char) : List Char :=
  match trim cs with
  | [] => []
  | c :: rest =>
    match identCloser? c with
    | none => c :: rest
    | some closer =>
      if rest.getLast? = some closer then undouble closer rest.dropLast else c :: rest

/-- A fragment without outer blanks and without the commas that hand-written lists leave behind. -/
def tidy (cs : List Char) : List Char :=
  trimEnd (dropTailWhile (· == ',') (trim cs))

/-- Whether the marked text begins with `AS` between blanks, the first three at the top level. -/
def startsAs : List (Char × Bool) → Bool
  | (b, true) :: (a, true) :: (s, true) :: (b', _) :: _ =>
    isBlank b && (a == 'a' || a == 'A') && (s == 's' || s == 'S') && isBlank b'
  | _ => false

/-- The expression of a fragment and its alias. -/
def splitAlias (cs : List Char) : List Char × Option (List Char) :=
  let body := tidy cs
  match splitLast startsAs (marks body) with
  | none => (body, none)
  | some (before, tail) =>
    match trim ((tail.map Prod.fst).drop 3) with
    | [] => (body, none)
    | name => (trimEnd (before.map Prod.fst), some (unquote name))

end Crosstab
