import Crosstab.Text.Doubled
import Crosstab.Database

/-!
# Quoting

How each target writes an identifier and a string literal, and how it reads a literal back. Text
that crosses from one statement into a literal of another goes through here once and nowhere else.
-/

namespace Crosstab

namespace Database

/-- The delimiters of a quoted identifier; the closing one is doubled inside. -/
def identQuotes : Database → Char × Char
  | sqlServer => ('[', ']')
  | mySql => ('\x60', '\x60')
  | postgres | oracle | sqlite => ('"', '"')

/-- An identifier in quotes. -/
def quoteIdent (db : Database) (name : String) : String :=
  String.ofList (quoteWith db.identQuotes.1 db.identQuotes.2 name.toList)

/-- Whether the target reads a backslash inside a literal as an escape. -/
def hasBackslashEscapes : Database → Bool
  | mySql => true
  | sqlServer | postgres | oracle | sqlite => false

/-- The characters that are written twice inside a literal. -/
def doublesInLiteral (db : Database) (c : Char) : Bool :=
  c == '\'' || (db.hasBackslashEscapes && c == '\\')

/-- The body of a string literal. -/
def escapeLiteral (db : Database) (text : String) : String :=
  String.ofList (double db.doublesInLiteral text.toList)

/-- A string literal. -/
def quoteLiteral (db : Database) (text : String) : String :=
  "'" ++ db.escapeLiteral text ++ "'"

/-- Read a literal's body up to its closing quote: the text it stands for and what follows the
quote. A doubled quote stands for one, and where backslashes escape, a backslash stands for the
character after it. -/
def readLiteralBody (db : Database) : List Char → Option (List Char × List Char)
  | [] => none
  | '\'' :: '\'' :: rest => (db.readLiteralBody rest).map fun r => ('\'' :: r.1, r.2)
  | '\'' :: rest => some ([], rest)
  | c :: d :: rest =>
    if db.hasBackslashEscapes && c == '\\' then
      (db.readLiteralBody rest).map fun r => (d :: r.1, r.2)
    else (db.readLiteralBody (d :: rest)).map fun r => (c :: r.1, r.2)
  | [_] => none

/-- Read the literal that a text begins with. -/
def readLiteral (db : Database) : List Char → Option (List Char × List Char)
  | '\'' :: rest => db.readLiteralBody rest
  | _ => none

end Database

end Crosstab
