import Crosstab.Yaml.Token

/-!
# The nodes of YAML

The tokens of a document make one tree. A node may bear an anchor, by which aliases further on stand
for it; anchors are numbered, because a name may be given again. Where a node is left out, an empty
plain scalar stands. The readers count down a budget that no token list of their length can use up.
-/

namespace Crosstab.Yaml

/-- What may stand before the content of a node. -/
structure Badge where
  anchor : Option Nat
  tag : Option (List Char)
  deriving Repr, DecidableEq

namespace Badge

def none : Badge := ⟨Option.none, Option.none⟩

/-- Whether nothing stands before the content. -/
def isNone (badge : Badge) : Bool := badge.anchor.isNone && badge.tag.isNone

/-- The badge of a scalar, where a lone exclamation mark says nothing. -/
def ofScalar (badge : Badge) : Badge := { badge with tag := badge.tag.filter (· != ['!']) }

end Badge

inductive Node where
  /-- The node that bears an anchor. -/
  | reference (anchor : Nat)
  | scalar (badge : Badge) (style : Style) (text : List Char)
  | list (badge : Badge) (items : List Node)
  | map (badge : Badge) (entries : List (Node × Node))
  deriving Repr

/-- The node that stands where none is written. -/
def Node.empty : Node := .scalar .none .plain []

/-- What the handles of tags stand for, the first match counting. -/
abbrev Handles := List (List Char × List Char)

/-- What the two handles that need no directive stand for. -/
def defaultHandles : Handles :=
  [("!".toList, "!".toList), ("!!".toList, "tag:yaml.org,2002:".toList)]

/-- What is left to be read, and the numbers of the anchors so far, each name once. -/
structure Source where
  tokens : List Token
  anchors : List (List Char × Nat)

/-- Readers of tokens. -/
abbrev Reading := StateT Source Option

namespace Reading

/-- The next token, which is not taken. -/
def peek : Reading Token := do
  match (← get).tokens with
  | [] => failure
  | token :: _ => pure token

/-- Take the next token. -/
def advance : Reading Unit := modify fun source => { source with tokens := source.tokens.drop 1 }

/-- Take the next token if it is this one. -/
def accept (token : Token) : Reading Bool := do
  if (← peek) = token then
    advance
    pure true
  else pure false

/-- Take the next token, which has to be this one. -/
def expect (token : Token) : Reading Unit := do
  if !(← accept token) then failure

/-- Take an anchor, if one stands here. -/
def anchorName : Reading (Option (List Char)) := do
  match ← peek with
  | .anchor name =>
    advance
    pure (some name)
  | _ => pure none

/-- Take a tag, if one stands here, and write it out. -/
def tagName (handles : Handles) : Reading (Option (List Char)) := do
  match ← peek with
  | .tag tag =>
    advance
    if tag.handle.isEmpty then pure (some tag.suffix)
    else match handles.lookup tag.handle with
      | some stem => pure (some (stem ++ tag.suffix))
      | none => failure
  | _ => pure none

/-- Give an anchor its number: how many other names came before it. -/
def number (name : List Char) : Reading Nat := do
  let source ← get
  let n := source.anchors.length
  set { source with anchors := (name, n) :: source.anchors.filter (·.1 != name) }
  pure n

/-- Take an anchor and a tag, in either order. -/
def badge (handles : Handles) : Reading Badge := do
  let early ← anchorName
  let tag ← tagName handles
  let name ← if early.isSome then pure early else anchorName
  match name with
  | some name => pure ⟨some (← number name), tag⟩
  | none => pure ⟨none, tag⟩

/-- The node that an alias stands for. -/
def aliasNode (name : List Char) : Reading Node := do
  match (← get).anchors.lookup name with
  | some n => pure (.reference n)
  | none => failure

end Reading

/-- Where a node stands. -/
inductive Context where
  | inFlow
  | inBlock
  /-- After a key or its colon, where the items of a list need no deeper indentation. -/
  | inEntry
  deriving DecidableEq

open Reading

mutual

/-- Read a node. -/
def readNode (handles : Handles) (context : Context) : Nat → Reading Node
  | 0 => failure
  | budget + 1 => do
    if let .reference name ← peek then
      advance
      aliasNode name
    else
      let badge ← badge handles
      match ← peek with
      | .scalar style text =>
        advance
        pure (.scalar badge.ofScalar style text)
      | .openFlowList =>
        advance
        pure (.list badge (← readFlowItems handles budget))
      | .openFlowMap =>
        advance
        pure (.map badge (← readFlowEntries handles budget))
      | token =>
        if token = .item && context = .inEntry then
          pure (.list badge (← readBareItems handles budget))
        else if token = .openBlockList && context != .inFlow then
          advance
          pure (.list badge (← readBlockItems handles budget))
        else if token = .openBlockMap && context != .inFlow then
          advance
          pure (.map badge (← readBlockEntries handles budget))
        else if badge.isNone then failure
        else pure (.scalar badge .plain [])

/-- Read a node, unless one of the tokens follows that show it is left out. -/
def readUnless (handles : Handles) (context : Context) (stops : List Token) : Nat → Reading Node
  | 0 => failure
  | budget + 1 => do
    if stops.contains (← peek) then pure .empty else readNode handles context budget

/-- Read the items of a block list. -/
def readBlockItems (handles : Handles) : Nat → Reading (List Node)
  | 0 => failure
  | budget + 1 => do
    if ← accept .closeBlock then pure []
    else
      expect .item
      let item ← readUnless handles .inBlock [.item, .closeBlock] budget
      pure (item :: (← readBlockItems handles budget))

/-- Read the items of a list that has no indentation of its own. -/
def readBareItems (handles : Handles) : Nat → Reading (List Node)
  | 0 => failure
  | budget + 1 => do
    if ← accept .item then
      let item ← readUnless handles .inBlock [.item, .key, .value, .closeBlock] budget
      pure (item :: (← readBareItems handles budget))
    else pure []

/-- Read the entries of a block map. -/
def readBlockEntries (handles : Handles) : Nat → Reading (List (Node × Node))
  | 0 => failure
  | budget + 1 => do
    if ← accept .closeBlock then pure []
    else
      expect .key
      let stops : List Token := [.key, .value, .closeBlock]
      let key ← readUnless handles .inEntry stops budget
      let value ←
        if ← accept .value then readUnless handles .inEntry stops budget else pure .empty
      pure ((key, value) :: (← readBlockEntries handles budget))

/-- Read the items of a flow list. A comma may follow the last one. -/
def readFlowItems (handles : Handles) : Nat → Reading (List Node)
  | 0 => failure
  | budget + 1 => do
    if ← accept .closeFlowList then pure []
    else
      let item ← readFlowItem handles budget
      if ← accept .closeFlowList then pure [item]
      else
        expect .comma
        pure (item :: (← readFlowItems handles budget))

/-- Read an item of a flow list: a node, or the one entry of a map without brackets. -/
def readFlowItem (handles : Handles) : Nat → Reading Node
  | 0 => failure
  | budget + 1 => do
    if ← accept .key then
      let stops : List Token := [.comma, .closeFlowList]
      let isBare := (Token.value :: stops).contains (← peek)
      -- the token that shows the lack of a key goes with it
      let key ← if isBare then advance *> pure .empty else readNode handles .inFlow budget
      let value ←
        if ← accept .value then readUnless handles .inFlow stops budget else pure .empty
      pure (.map .none [(key, value)])
    else readNode handles .inFlow budget

/-- Read the entries of a flow map. A comma may follow the last one. -/
def readFlowEntries (handles : Handles) : Nat → Reading (List (Node × Node))
  | 0 => failure
  | budget + 1 => do
    if ← accept .closeFlowMap then pure []
    else
      let entry ← readFlowEntry handles budget
      if ← accept .closeFlowMap then pure [entry]
      else
        expect .comma
        pure (entry :: (← readFlowEntries handles budget))

/-- Read an entry of a flow map. A node that is not marked as a key has no value. -/
def readFlowEntry (handles : Handles) : Nat → Reading (Node × Node)
  | 0 => failure
  | budget + 1 => do
    let stops : List Token := [.comma, .closeFlowMap]
    if ← accept .key then
      let key ← readUnless handles .inFlow (.value :: stops) budget
      let value ←
        if ← accept .value then readUnless handles .inFlow stops budget else pure .empty
      pure (key, value)
    else
      pure (← readNode handles .inFlow budget, .empty)

end

/-- Read directives: one version at most, and no handle twice. -/
def readDirectives (isVersioned : Bool) (handles : Handles) :
    List Token → Option (Handles × List Token)
  | .directive .version :: rest => if isVersioned then none else readDirectives true handles rest
  | .directive (.tag handle stem) :: rest =>
    if (handles.lookup handle).isSome then none
    else readDirectives isVersioned (handles ++ [(handle, stem)]) rest
  | tokens => some (handles, tokens)

/-- The handles of a document and the tokens of its content. Without directives the mark of its
start may be left out. -/
def openDocument : List Token → Option (Handles × List Token)
  | [] => none
  | tokens@(first :: _) =>
    match first with
    | .endMark => none
    | .finish => none
    | .directive _ | .startMark =>
      match readDirectives false [] tokens with
      | some (handles, .startMark :: content) => some (handles ++ defaultHandles, content)
      | _ => none
    | _ => some (defaultHandles, tokens)

namespace Node

/-- The root of the only document in a token list. -/
def ofTokens? (tokens : List Token) : Option Node := do
  let (handles, content) ← openDocument tokens
  let stops : List Token := [.startMark, .endMark, .finish]
  let reading := readUnless handles .inBlock stops (4 * content.length + 4)
  let (root, source) ← reading.run ⟨content, []⟩
  if source.tokens.dropWhile (· = .endMark) = [.finish] then some root else none

mutual

/-- A node and all nodes below it, in the order written. -/
def nodes : Node → List Node
  | reference n => [reference n]
  | scalar badge style text => [scalar badge style text]
  | list badge items => list badge items :: nodesOfItems items
  | map badge entries => map badge entries :: nodesOfEntries entries

/-- The nodes of the items of a list. -/
def nodesOfItems : List Node → List Node
  | [] => []
  | item :: rest => item.nodes ++ nodesOfItems rest

/-- The nodes of the entries of a map. -/
def nodesOfEntries : List (Node × Node) → List Node
  | [] => []
  | (key, value) :: rest => key.nodes ++ value.nodes ++ nodesOfEntries rest

end

/-- The anchor of a node. -/
def anchor? : Node → Option Nat
  | reference _ => none
  | scalar badge _ _ => badge.anchor
  | list badge _ => badge.anchor
  | map badge _ => badge.anchor

/-- The nodes below a root by the numbers of their anchors, the last one first: of two with one
number the later one counts. -/
def bearers (root : Node) : List (Nat × Node) :=
  (root.nodes.filterMap fun node => node.anchor?.map fun n => (n, node)).reverse

/-- One step for a scalar or an alias, two for a collection without what it holds. -/
def ownSteps : Node → Nat
  | list _ _ => 2
  | map _ _ => 2
  | _ => 1

/-- How many steps it takes to walk over a node. -/
def steps (root : Node) : Nat :=
  root.nodes.foldr (fun node n => node.ownSteps + n) 0

end Node

end Crosstab.Yaml
