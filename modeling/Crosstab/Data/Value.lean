/-!
# Data trees

What a request file or a settings file says once its notation is set aside. JSON, YAML and TOML are
all read into `Value`, and the domain types are decoded from it, so a rule about fields is stated
once and holds for every notation.
-/

namespace Crosstab

inductive Value where
  | null
  | bool (b : Bool)
  | int (n : Int)
  /-- A number that is not an integer, kept as written. -/
  | real (text : String)
  | text (s : String)
  | list (items : List Value)
  /-- Entries in the order written. A notation may allow any value as a key. -/
  | map (entries : List (Value × Value))
  deriving Repr

namespace Value

/-- A map whose keys are texts. -/
def record (fields : List (String × Value)) : Value :=
  map (fields.map fun field => (text field.1, field.2))

/-- The value of the last entry under a text key. -/
def field? (value : Value) (key : String) : Option Value :=
  match value with
  | map entries =>
    (entries.reverse.find? fun entry =>
      match entry.1 with
      | text k => k == key
      | _ => false).map Prod.snd
  | _ => none

end Value

end Crosstab
