/-!
# Doubled characters

Quoted SQL text writes a closing quote inside itself twice. `double` writes, `undouble` reads
back, and `quoteWith` puts the delimiters around.
-/

namespace Crosstab

/-- Every character that `p` selects is written twice. -/
def double (p : Char → Bool) (cs : List Char) : List Char :=
  cs.flatMap fun c => if p c then [c, c] else [c]

/-- Read each adjacent pair of `q` as one `q`, from the left. -/
def undouble (q : Char) : List Char → List Char
  | [] => []
  | [c] => [c]
  | c :: d :: r => if c = q ∧ d = q then q :: undouble q r else c :: undouble q (d :: r)

/-- `cs` between `opening` and `closing`, with `closing` doubled inside. -/
def quoteWith (opening closing : Char) (cs : List Char) : List Char :=
  opening :: double (· == closing) cs ++ [closing]

end Crosstab
