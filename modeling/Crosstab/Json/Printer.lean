import Crosstab.Data.Value

/-!
# Writing JSON

The compact form: no blanks, entries in their order, and a character escaped only if it has to be.
-/

namespace Crosstab.Json

/-- A hexadecimal digit in lower case. -/
def hexDigit (n : Nat) : Char := Char.ofNat (if n < 10 then n + 48 else n + 87)

/-- One character inside a JSON string. -/
def escapeChar (c : Char) : List Char :=
  if c = '"' then ['\\', '"']
  else if c = '\\' then ['\\', '\\']
  else if c = '\n' then ['\\', 'n']
  else if c = '\r' then ['\\', 'r']
  else if c = '\t' then ['\\', 't']
  else if c = '\x08' then ['\\', 'b']
  else if c = '\x0c' then ['\\', 'f']
  else if c.toNat < 0x20 then
    ['\\', 'u', '0', '0', hexDigit (c.toNat / 16), hexDigit (c.toNat % 16)]
  else [c]

/-- A JSON string. -/
def quote (s : String) : List Char := '"' :: s.toList.flatMap escapeChar ++ ['"']

mutual

/-- A value as JSON. Keys that are not texts are written as they would be in their own right; no
encoder of this library makes one. -/
def print : Value → List Char
  | .null => "null".toList
  | .bool true => "true".toList
  | .bool false => "false".toList
  | .int n => (toString n).toList
  | .real text => text.toList
  | .text s => quote s
  | .list items => '[' :: printItems items ++ [']']
  | .map entries => '{' :: printEntries entries ++ ['}']

/-- Items with commas between them. -/
def printItems : List Value → List Char
  | [] => []
  | [v] => print v
  | v :: w :: rest => print v ++ ',' :: printItems (w :: rest)

/-- Entries with commas between them. -/
def printEntries : List (Value × Value) → List Char
  | [] => []
  | [(k, v)] => print k ++ ':' :: print v
  | (k, v) :: e :: rest => print k ++ ':' :: print v ++ ',' :: printEntries (e :: rest)

end

/-- A value as compact JSON text. -/
def render (value : Value) : String := String.ofList (print value)

end Crosstab.Json
