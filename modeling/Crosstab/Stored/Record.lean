import Crosstab.Data.Value

/-!
# Records in data trees

A record is written as a map from field names to values, or as a list of its values in declared
order. `Value.fields?` reads both into one form, numbered fields, and leaves it to the decoder of
each record which fields may be absent.
-/

namespace Crosstab

/-- What a notation accepts beyond the plain forms. -/
structure Leniency where
  /-- An empty map may stand where null is expected. -/
  emptyMapIsNull : Bool
  /-- A record in list form may have more items than fields. -/
  spareItems : Bool
  deriving Repr, DecidableEq

namespace Leniency

/-- Values that are decoded as they stand. -/
def strict : Leniency := ⟨false, false⟩

/-- Values from a stored request. -/
def stored : Leniency := ⟨true, false⟩

/-- Values from a settings file. -/
def settings : Leniency := ⟨true, true⟩

end Leniency

/-- The values of a record's fields by field number. -/
abbrev Fields := List (Nat × Value)

namespace Value

/-- The number of the field that a key names, by name or by number; the inner `none` is a field
unknown to the record. A key of any other kind is refused. -/
def fieldNumber? (names : List String) : Value → Option (Option Nat)
  | text key => some (names.idxOf? key)
  | int n => if 0 ≤ n then some (if n.toNat < names.length then some n.toNat else none) else none
  | _ => none

/-- Number the entries of a record. Unknown fields are passed over; a field given twice is
refused. -/
def numberEntries (names : List String) : List (Value × Value) → Option Fields
  | [] => some []
  | (key, value) :: rest =>
    match fieldNumber? names key, numberEntries names rest with
    | some (some i), some fields =>
      if fields.any (·.1 == i) then none else some ((i, value) :: fields)
    | some none, some fields => some fields
    | _, _ => none

/-- Number the items of a record in list form. -/
def numberItems : Nat → List Value → Fields
  | _, [] => []
  | i, value :: rest => (i, value) :: numberItems (i + 1) rest

/-- The fields of a record with these field names. -/
def fields? (rules : Leniency) (names : List String) : Value → Option Fields
  | map entries => numberEntries names entries
  | list items =>
    if items.length ≤ names.length || rules.spareItems then some (numberItems 0 items) else none
  | _ => none

/-- A text. -/
def text? : Value → Option String
  | text s => some s
  | _ => none

/-- An integer from zero to `bound`. -/
def count? (bound : Nat) : Value → Option Nat
  | int n => if 0 ≤ n && n.toNat ≤ bound then some n.toNat else none
  | _ => none

/-- A value or null. -/
def optional? {α : Type} (decode : Value → Option α) : Value → Option (Option α)
  | null => some none
  | value => (decode value).map some

/-- Whether the value can stand for the empty payload of a word. -/
def isUnit (rules : Leniency) : Value → Bool
  | null => true
  | map entries => rules.emptyMapIsNull && entries.isEmpty
  | _ => false

/-- One of the words: as a text, or as the only key of a map with an empty payload, where the key
may also be the word's number. -/
def word? (rules : Leniency) (words : List String) : Value → Option Nat
  | text word => words.idxOf? word
  | map [(key, payload)] =>
    if payload.isUnit rules then (fieldNumber? words key).join else none
  | _ => none

end Value

namespace Fields

/-- The value of a field, if it is given. -/
def get? (fields : Fields) (i : Nat) : Option Value :=
  (fields.find? (·.1 == i)).map Prod.snd

/-- Decode a field that has to be given. -/
def demand {α : Type} (fields : Fields) (i : Nat) (decode : Value → Option α) : Option α :=
  (fields.get? i).bind decode

/-- Decode a field that may be absent. -/
def orElse {α : Type} (fields : Fields) (i : Nat) (default : α) (decode : Value → Option α) :
    Option α :=
  match fields.get? i with
  | none => some default
  | some value => decode value

end Fields

end Crosstab
