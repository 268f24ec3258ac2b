import Crosstab.Json.Token

/-!
# Reading JSON

Tokens are put together by a machine with a stack of open lists and maps. Each token is one step, so
reading the tokens of a value and then more tokens is reading the value first: the machine hands it
to whatever is open and goes on.

Every value is read, wanted or not: a number that is too large or half of a surrogate pair refuses
the whole text. A stored request is read like this, because its fields are gathered before any is
told apart. A line or a request on its own could be read with such a value in a field that it does
not have, by passing over it; `parse?` refuses these texts as well.
-/

namespace Crosstab.Json

/-- An open list or map; what it holds so far is in reverse. -/
inductive Frame where
  | list (items : List Value)
  | map (entries : List (Value × Value))
  /-- A map that waits for the value of a key. -/
  | entry (entries : List (Value × Value)) (key : String)

/-- What the machine can take next. -/
inductive Need where
  | value
  /-- A value, or the end of an empty list. -/
  | item
  /-- A key, or the end of an empty map. -/
  | firstKey
  | key
  /-- The colon after a key. -/
  | colon
  /-- A comma, or the end of what is open. -/
  | next

/-- The state of the machine: open frames, innermost first, or the finished value. -/
inductive State where
  | reading (stack : List Frame) (need : Need)
  | finished (value : Value)

/-- Lists and maps may be nested one less than this deep. -/
def depthLimit : Nat := 128

/-- Hand a value to the innermost open frame. -/
def deliver (value : Value) : List Frame → State
  | [] => .finished value
  | .list items :: stack => .reading (.list (value :: items) :: stack) .next
  | .entry entries key :: stack => .reading (.map ((.text key, value) :: entries) :: stack) .next
  | .map entries :: stack => .reading (.map entries :: stack) .next

/-- Open a frame, unless the nesting is too deep. -/
def enter (frame : Frame) (need : Need) (stack : List Frame) : Option State :=
  if stack.length + 1 < depthLimit then some (.reading (frame :: stack) need) else none

/-- Take a token where a value is needed. -/
def takeValue (stack : List Frame) : Token → Option State
  | .text s => some (deliver (.text s) stack)
  | .atom v => some (deliver v stack)
  | .openList => enter (.list []) .item stack
  | .openMap => enter (.map []) .firstKey stack
  | _ => none

/-- Take a token where a key is needed. -/
def takeKey (stack : List Frame) : Token → Option State
  | .text key =>
    match stack with
    | .map entries :: rest => some (.reading (.entry entries key :: rest) .colon)
    | _ => none
  | _ => none

/-- Take one token. -/
def State.step (state : State) (token : Token) : Option State :=
  match state with
  | .finished _ => none
  | .reading stack need =>
    match need, token, stack with
    | .value, token, stack => takeValue stack token
    | .item, .closeList, .list _ :: rest => some (deliver (.list []) rest)
    | .item, token, stack => takeValue stack token
    | .firstKey, .closeMap, .map _ :: rest => some (deliver (.map []) rest)
    | .firstKey, token, stack => takeKey stack token
    | .key, token, stack => takeKey stack token
    | .colon, .colon, stack => some (.reading stack .value)
    | .next, .comma, .list items :: rest => some (.reading (.list items :: rest) .value)
    | .next, .comma, .map entries :: rest => some (.reading (.map entries :: rest) .key)
    | .next, .closeList, .list items :: rest => some (deliver (.list items.reverse) rest)
    | .next, .closeMap, .map entries :: rest => some (deliver (.map entries.reverse) rest)
    | _, _, _ => none

/-- Take a sequence of tokens. -/
def State.run (state : State) : List Token → Option State
  | [] => some state
  | token :: tokens => (state.step token).bind (·.run tokens)

/-- The value that a list of tokens writes. -/
def ofTokens? (tokens : List Token) : Option Value :=
  match State.run (.reading [] .value) tokens with
  | some (.finished value) => some value
  | _ => none

/-- The value of a JSON text. -/
def parse? (text : String) : Option Value := (tokens? text.toList).bind ofTokens?

end Crosstab.Json
