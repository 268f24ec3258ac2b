import Crosstab.Text.Digits

/-!
# Strings of TOML

Four kinds of string: basic and literal, each on one line or on several. Every function reads from
just after the opening delimiter and returns the string with what follows its end.
-/

namespace Crosstab.Toml

/-- A character that may stand in a string or a comment: a tab, or none of the control characters
of ASCII. -/
def isTextChar (c : Char) : Bool := c == '\t' || (0x20 ≤ c.toNat && c.toNat != 0x7F)

/-- A blank within a line. -/
def isLineBlank (c : Char) : Bool := c == ' ' || c == '\t'

/-- A text and what follows it. -/
abbrev Read (α : Type) := Option (α × List Char)

/-- Put a character before a text that was read. -/
def prepend (c : Char) (r : Read (List Char)) : Read (List Char) := r.map fun x => (c :: x.1, x.2)

/-- The character of an escape of one letter. -/
def shortEscape? : Char → Option Char
  | 'b' => some '\x08'
  | 't' => some '\t'
  | 'n' => some '\n'
  | 'f' => some '\x0c'
  | 'r' => some '\r'
  | '"' => some '"'
  | '\\' => some '\\'
  | _ => none

/-- A basic string. -/
def basicString : List Char → Read (List Char)
  | [] => none
  | '"' :: rest => some ([], rest)
  | '\\' :: 'u' :: a :: b :: c :: d :: rest =>
    (charOfHex? [a, b, c, d]).bind fun ch => prepend ch (basicString rest)
  | '\\' :: 'U' :: a :: b :: c :: d :: e :: f :: g :: h :: rest =>
    (charOfHex? [a, b, c, d, e, f, g, h]).bind fun ch => prepend ch (basicString rest)
  | '\\' :: c :: rest => (shortEscape? c).bind fun ch => prepend ch (basicString rest)
  | c :: rest => if isTextChar c && c != '\\' then prepend c (basicString rest) else none

/-- A literal string, which knows no escapes. -/
def literalString : List Char → Read (List Char)
  | [] => none
  | '\'' :: rest => some ([], rest)
  | c :: rest => if isTextChar c then prepend c (literalString rest) else none

/-- Where the reader of a basic string over several lines stands. -/
inductive LineMode where
  | inside
  /-- Past a backslash and blanks: a line break has to follow. -/
  | beforeBreak
  /-- Past an escaped line break: blanks and further breaks are dropped. -/
  | dropping

/-- A basic string over several lines. A line break is a line feed however it is written, and up to
two quotes may stand before the closing three. -/
def basicLines : LineMode → List Char → Read (List Char)
  | _, [] => none
  | .beforeBreak, '\r' :: '\n' :: rest => basicLines .dropping rest
  | .beforeBreak, c :: rest =>
    if c = '\n' then basicLines .dropping rest
    else if isLineBlank c then basicLines .beforeBreak rest
    else none
  | .dropping, ' ' :: rest => basicLines .dropping rest
  | .dropping, '\t' :: rest => basicLines .dropping rest
  | .dropping, '\n' :: rest => basicLines .dropping rest
  | .dropping, '\r' :: '\n' :: rest => basicLines .dropping rest
  | _, '"' :: '"' :: '"' :: '"' :: '"' :: rest => some (['"', '"'], rest)
  | _, '"' :: '"' :: '"' :: '"' :: rest => some (['"'], rest)
  | _, '"' :: '"' :: '"' :: rest => some ([], rest)
  | _, '\r' :: '\n' :: rest => prepend '\n' (basicLines .inside rest)
  | _, '\\' :: 'u' :: a :: b :: c :: d :: rest =>
    (charOfHex? [a, b, c, d]).bind fun ch => prepend ch (basicLines .inside rest)
  | _, '\\' :: 'U' :: a :: b :: c :: d :: e :: f :: g :: h :: rest =>
    (charOfHex? [a, b, c, d, e, f, g, h]).bind fun ch => prepend ch (basicLines .inside rest)
  | _, '\\' :: '\r' :: '\n' :: rest => basicLines .dropping rest
  | _, '\\' :: c :: rest =>
    if c = '\n' then basicLines .dropping rest
    else if isLineBlank c then basicLines .beforeBreak rest
    else (shortEscape? c).bind fun ch => prepend ch (basicLines .inside rest)
  | _, c :: rest =>
    if c = '\n' || (isTextChar c && c != '\\') then prepend c (basicLines .inside rest) else none

/-- A literal string over several lines. -/
def literalLines : List Char → Read (List Char)
  | [] => none
  | '\'' :: '\'' :: '\'' :: '\'' :: '\'' :: rest => some (['\'', '\''], rest)
  | '\'' :: '\'' :: '\'' :: '\'' :: rest => some (['\''], rest)
  | '\'' :: '\'' :: '\'' :: rest => some ([], rest)
  | '\r' :: '\n' :: rest => prepend '\n' (literalLines rest)
  | c :: rest => if c = '\n' || isTextChar c then prepend c (literalLines rest) else none

/-- Drop the line break right after an opening delimiter. -/
def dropFirstBreak : List Char → List Char
  | '\n' :: rest => rest
  | '\r' :: '\n' :: rest => rest
  | cs => cs

/-- A string of any kind, if one starts here. -/
def anyString : List Char → Read (List Char)
  | '"' :: '"' :: '"' :: rest => basicLines .inside (dropFirstBreak rest)
  | '"' :: rest => basicString rest
  | '\'' :: '\'' :: '\'' :: rest => literalLines (dropFirstBreak rest)
  | '\'' :: rest => literalString rest
  | _ => none

end Crosstab.Toml
