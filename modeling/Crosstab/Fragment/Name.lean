import Crosstab.Text.Letters
import Crosstab.Fragment.Alias

/-!
# The name of a column

A fragment names its column by an alias or by being a column reference such as `db..t.[col]`, whose
last part is the name. Anything computed has no name that could be read off it.
-/

namespace Crosstab

/-- An unquoted identifier. -/
def isBareName : List Char → Bool
  | [] => false
  | c :: cs =>
    (isLetter c || c == '_' || c == '@' || c == '#') &&
      cs.all fun c => isLetter c || isNumeral c || c == '_' || c == '$' || c == '#' || c == '@'

/-- A text that begins with an identifier quote and ends with its closer. -/
def isQuotedName (cs : List Char) : Bool :=
  match cs with
  | [] => false
  | c :: rest =>
    match identCloser? c with
    | none => false
    | some closer => rest.getLast? == some closer

/-- Cut at the dots of the top level. -/
def splitDots : List (Char × Bool) → List (List Char)
  | [] => [[]]
  | (c, top) :: rest =>
    if top && c == '.' then [] :: splitDots rest
    else
      match splitDots rest with
      | [] => [[c]]
      | part :: parts => (c :: part) :: parts

/-- The name that a fragment's value takes in a result set. -/
def runtimeName (cs : List Char) : Option (List Char) :=
  match splitAlias cs with
  | (_, some name) => some name
  | (body, none) =>
    let parts := (splitDots (marks body)).map trim
    match parts.getLast? with
    | none => none
    | some last =>
      if (isBareName last || isQuotedName last) &&
          parts.all (fun p => p.isEmpty || isBareName p || isQuotedName p)
      then some (unquote last)
      else none

end Crosstab
