import Crosstab.Fragment.Paren

/-!
# Single calls

`NAME(argument)` taken apart, and the keyword `DISTINCT` taken off an argument.
-/

namespace Crosstab

/-- A function name is made of ASCII letters and digits, `_` and `.`. -/
def isCallNameChar (c : Char) : Bool := c.isAlphanum || c == '_' || c == '.'

/-- The name and the trimmed argument of a fragment that is one call and nothing else. -/
def splitCall (cs : List Char) : Option (List Char × List Char) :=
  let body := trim cs
  match body.dropWhile (· != '(') with
  | [] => none
  | _ :: rest =>
    let name := trim (body.takeWhile (· != '('))
    if name.isEmpty || !name.all isCallNameChar then none
    else
      match enclosed? rest with
      | some (argument, []) => some (name, trim argument)
      | _ => none

/-- The argument after a leading `DISTINCT` and one space, in any letter case. -/
def stripDistinct (cs : List Char) : Option (List Char) :=
  if (cs.take 9).map Char.toUpper = "DISTINCT ".toList then some (trimStart (cs.drop 9)) else none

end Crosstab
