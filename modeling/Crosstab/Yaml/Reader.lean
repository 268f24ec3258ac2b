import Crosstab.Stored.Request
import Crosstab.Yaml.Atom
import Crosstab.Yaml.Node

/-!
# Named requests in YAML

A stored request is one map. Its name and its description are texts however they are written;
everything else is a data tree first, in which scalars mean what they say. Aliases are followed
while the tree is built, so their number is limited, and so is the depth of the tree.
-/

namespace Crosstab.Yaml

/-- Readers of nodes, with the number of aliases that may still be followed. -/
abbrev Walk := StateT Nat Option

/-- Nodes by the numbers of their anchors. -/
abbrev Bearers := List (Nat × Node)

/-- The node meant: an alias is followed to the node that bears its anchor. -/
def follow (bearers : Bearers) : Node → Walk Node
  | .reference n => do
    match ← get with
    | 0 => failure
    | budget + 1 =>
      set budget
      match bearers.lookup n with
      | some node => pure node
      | none => failure
  | node => pure node

/-- Whether a tag is a local one, which no data tree can hold. -/
def Badge.isLocal (badge : Badge) : Bool := badge.tag.any fun tag => tag.head? = some '!'

/-- The data tree of a node that has at most so many levels. -/
def value (bearers : Bearers) : Nat → Node → Walk Value
  | 0, node => do
    match ← follow bearers node with
    | .scalar badge style text => scalarValue? badge.tag style text
    | _ => failure
  | depth + 1, node => do
    match ← follow bearers node with
    | .reference _ => failure
    | .scalar badge style text => scalarValue? badge.tag style text
    | .list badge items =>
      if badge.isLocal then failure else .list <$> items.mapM (value bearers depth)
    | .map badge entries =>
      if badge.isLocal then failure
      else .map <$> entries.mapM fun entry => do
        pure (← value bearers depth entry.1, ← value bearers depth entry.2)

/-- The text of a scalar, whatever else it could mean. -/
def scalarText (bearers : Bearers) (node : Node) : Walk String := do
  match ← follow bearers node with
  | .scalar _ _ text => pure (String.ofList text)
  | _ => failure

/-- The text of a scalar, or null. -/
def optionalText (bearers : Bearers) (node : Node) : Walk Value := do
  match ← follow bearers node with
  | .scalar badge style text =>
    match isAbsent? badge.tag style text with
    | some true => pure .null
    | some false => pure (.text (String.ofList text))
    | none => failure
  | _ => failure

/-- Collections may be nested this deep. -/
def depthLimit : Nat := 128

/-- The data tree of a map that stands for a named request. -/
def namedValue (root : Node) : Walk Value := do
  let bearers := root.bearers
  match root with
  | .map _ entries =>
    .map <$> entries.mapM fun entry => do
      let key ← scalarText bearers entry.1
      let field ←
        if key = "name" then .text <$> scalarText bearers entry.2
        else if key = "description" then optionalText bearers entry.2
        else value bearers (depthLimit - 1) entry.2
      pure (.text key, field)
  | _ => failure

/-- The named request that a text holds. -/
def namedRequest? (text : String) : Option NamedRequest := do
  let tokens ← tokens? text.toList
  let root ← Node.ofTokens? tokens
  let (value, _) ← (namedValue root).run (100 * root.steps)
  NamedRequest.ofValue? value

end Crosstab.Yaml
