import RestContract.Yaml.Node
import RestContract.Yaml.Token.Lexer

/-!
# The document of a text

The nodes that a row of tokens stands for. A text holds at most one document. Between brackets and
in block form the same nodes are written with different tokens, and a value that is left out is
null. A node gets its number where it starts, so its parts can be aliases of it.
-/

namespace RestContract.Yaml

/-- What is left of a row of tokens, the short forms of tags, the anchors and the nodes so far, and
    how many collections may be opened inside each other. The place of a node that is being read is
    held by the empty one. -/
structure Progress where
  tokens : List Placed
  handles : List (String × String)
  anchors : List (String × Nat)
  nodes : Nodes
  room : Nat

/-- Reads a part of a row of tokens. -/
abbrev Parsing := StateT Progress (Except Failure)

namespace Parsing

/-- The short forms of tags that every document has. -/
def commonHandles : List (String × String) := [("!", "!"), ("!!", Tag.commonStart)]

/-- The start of a row of tokens, with the room for its collections. -/
def start (room : Nat) (tokens : List Placed) : Progress :=
  { tokens, handles := commonHandles, anchors := [], nodes := #[], room }

/-- Stops reading. -/
def fail {α : Type} (complaint : Complaint) : Parsing α := do
  match (← get).tokens with
  | placed :: _ => throw (.placed complaint (placed.line + 1) (placed.column + 1))
  | [] => throw (.unplaced complaint)

/-- The next token, if there is one. The failure that ended the row of tokens counts only here. -/
def peek : Parsing (Option Token) := do
  match (← get).tokens with
  | ⟨.failed failure, _, _⟩ :: _ => throw failure
  | placed :: _ => return some placed.token
  | [] => return none

/-- Passes over a token. -/
def skip : Parsing Unit :=
  modify fun progress => { progress with tokens := progress.tokens.tail }

/-- Whether the next token is one of some tokens. -/
def isAt (tokens : List Token) : Parsing Bool := return (← peek).any tokens.contains

/-- Passes over a token, if it is the next one. -/
def skipIf (token : Token) : Parsing Bool := do
  if ← isAt [token] then
    skip
    return true
  return false

/-- Passes over a token that has to be the next one. -/
def expect (token : Token) : Parsing Unit := do
  if ← skipIf token then return
  fail .unexpectedToken

/-- The number of a node that is put into the table. -/
def add (node : Node) : Parsing Nat := do
  let n := (← get).nodes.size
  modify fun progress => { progress with nodes := progress.nodes.push node }
  return n

/-- The number of a node for a value that is left out. -/
def addEmpty : Parsing Nat := add Node.empty

/-- The number of a node with an anchor, which has to be new. -/
def addAnchored (anchor : Option String) (node : Node) : Parsing Nat := do
  if let some name := anchor then
    if ((← get).anchors.lookup name).isSome then fail .repeatedAnchor
  let n ← add node
  if let some name := anchor then
    modify fun progress => { progress with anchors := (name, n) :: progress.anchors }
  return n

/-- The number of the node of an alias. -/
def followAlias (name : String) : Parsing Nat := do
  match (← get).anchors.lookup name with
  | some n =>
    skip
    return n
  | none => fail .unknownAnchor

/-- The full name of a tag. -/
def fullName (handle : Option String) (suffix : String) : Parsing String := do
  match handle with
  | none => return suffix
  | some handle =>
    match (← get).handles.lookup handle with
    | some expansion => return expansion ++ suffix
    | none => fail .unknownHandle

/-- The name of an anchor, if one is next. -/
def anchor? : Parsing (Option String) := do
  match ← peek with
  | some (.anchor name) =>
    skip
    return some name
  | _ => return none

/-- The full name of a tag, if one is next. -/
def tag? : Parsing (Option String) := do
  match ← peek with
  | some (.tag handle suffix) =>
    let name ← fullName handle suffix
    skip
    return some name
  | _ => return none

/-- The anchor and the tag of a node, which can come in either order. -/
def properties : Parsing (Option String × Option String) := do
  let before ← anchor?
  let tag ← tag?
  let after ← if before.isNone then anchor? else pure none
  return (before.or after, tag)

/-- The tag of a text. A text whose tag says no more than that it is a value is taken as a plain
    one. -/
def scalarTag (name : Option String) (text : String) (plain : Bool) : Tag :=
  match name with
  | none => if plain then Tag.ofPlain text.toList else .text
  | some "!" => Tag.ofPlain text.toList
  | some name => Tag.ofName name

/-- The tag of a collection, which is the usual one unless another is given. -/
def collectionTag (name : Option String) (usual : Tag) : Tag :=
  match name with
  | none | some "!" => usual
  | some name => Tag.ofName name

/-- Where a node stands: between brackets, in block form, or as the value of a mapping in block
    form, where the items of a sequence need no indentation. -/
inductive Position where
  | flow
  | block
  | value
  deriving DecidableEq, Repr

/-- Goes into a collection, if there is room for it. -/
def enter : Parsing Unit := do
  if (← get).room = 0 then throw (.fault .endlessNesting)
  modify fun progress => { progress with room := progress.room - 1 }

/-- Comes out of a collection, whose node takes its place in the table. -/
def leave (n : Nat) (node : Node) : Parsing Unit :=
  modify fun progress =>
    { progress with nodes := progress.nodes.setIfInBounds n node, room := progress.room + 1 }

/-- The number of a collection with its anchor. -/
def collection {α : Type} (anchor : Option String) (wrap : List α → Node)
    (read : Parsing (List α)) : Parsing Nat := do
  let n ← addAnchored anchor Node.empty
  enter
  leave n (wrap (← read))
  return n

/-- A node, or the empty one before one of the tokens that can follow it. -/
def unlessAt (after : List Token) (read : Parsing Nat) : Parsing Nat := do
  if ← isAt after then addEmpty else read

/-- What follows a mark, or the empty node if there is no mark. -/
def marked (mark : Token) (after : List Token) (read : Parsing Nat) : Parsing Nat := do
  if ← skipIf mark then unlessAt after read else addEmpty

mutual
/-- The number of a node that is read. The steps bound the number of nodes and tokens. -/
def node : Nat → Position → Parsing Nat
  | 0, _ => fail .unexpectedToken
  | steps + 1, position => do
    match ← peek with
    | some (.aliasOf name) => followAlias name
    | _ =>
      let (anchor, name) ← properties
      let sequence := Node.sequence (collectionTag name .sequence)
      let mapping := Node.mapping (collectionTag name .mapping)
      match ← peek with
      | some (.scalar s plain) =>
        skip
        addAnchored anchor (.scalar (scalarTag name s plain) s)
      | some .flowSequenceStart =>
        skip
        collection anchor sequence (flowItems steps true)
      | some .flowMappingStart =>
        skip
        collection anchor mapping (flowPairs steps true)
      | token =>
        if token = some .blockEntry ∧ position = .value then
          collection anchor sequence (looseItems steps)
        else if token = some .blockSequenceStart ∧ position ≠ .flow then
          skip
          collection anchor sequence (blockItems steps)
        else if token = some .blockMappingStart ∧ position ≠ .flow then
          skip
          collection anchor mapping (blockPairs steps)
        else if anchor.isSome || name.isSome then
          addAnchored anchor (.scalar (scalarTag name "" true) "")
        else fail .unexpectedToken

/-- The items of a sequence in block form up to its end. -/
def blockItems : Nat → Parsing (List Nat)
  | 0 => fail .unexpectedToken
  | steps + 1 => do
    if ← skipIf .blockEntry then
      let item ← unlessAt [.blockEntry, .blockEnd] (node steps .block)
      return item :: (← blockItems steps)
    expect .blockEnd
    return []

/-- The items of a sequence that has no indentation of its own, as far as they go. -/
def looseItems : Nat → Parsing (List Nat)
  | 0 => fail .unexpectedToken
  | steps + 1 => do
    if ← skipIf .blockEntry then
      let item ← unlessAt [.blockEntry, .key, .value, .blockEnd] (node steps .block)
      return item :: (← looseItems steps)
    return []

/-- The pairs of a mapping in block form up to its end. -/
def blockPairs : Nat → Parsing (List (Nat × Nat))
  | 0 => fail .unexpectedToken
  | steps + 1 => do
    if ← skipIf .key then
      let after := [Token.key, .value, .blockEnd]
      let key ← unlessAt after (node steps .value)
      let value ← marked .value after (node steps .value)
      return (key, value) :: (← blockPairs steps)
    expect .blockEnd
    return []

/-- A pair in a sequence between brackets, which is a mapping of its own. -/
def flowPair : Nat → Parsing Nat
  | 0 => fail .unexpectedToken
  | steps + 1 =>
    collection none (Node.mapping .mapping) do
      let key ← unlessAt [.value, .flowEntry, .flowSequenceEnd] (node steps .flow)
      let value ← marked .value [.flowEntry, .flowSequenceEnd] (node steps .flow)
      return [(key, value)]

/-- The items of a sequence between brackets up to its end. Before all items but the first there is
    a comma, and there may be one after the last. -/
def flowItems : Nat → Bool → Parsing (List Nat)
  | 0, _ => fail .unexpectedToken
  | steps + 1, first => do
    if ← skipIf .flowSequenceEnd then return []
    if !first then expect .flowEntry
    if ← skipIf .flowSequenceEnd then return []
    let item ← if ← skipIf .key then flowPair steps else node steps .flow
    return item :: (← flowItems steps false)

/-- The pairs of a mapping between brackets up to its end. A node without a mark is a key without a
    value. -/
def flowPairs : Nat → Bool → Parsing (List (Nat × Nat))
  | 0, _ => fail .unexpectedToken
  | steps + 1, first => do
    if ← skipIf .flowMappingEnd then return []
    if !first then expect .flowEntry
    if ← skipIf .flowMappingEnd then return []
    let pair ← if ← skipIf .key then do
        let key ← unlessAt [.value, .flowEntry, .flowMappingEnd] (node steps .flow)
        pure (key, ← marked .value [.flowEntry, .flowMappingEnd] (node steps .flow))
      else do pure (← node steps .flow, ← addEmpty)
    return pair :: (← flowPairs steps false)
end

/-- Takes the directives before a document. There is at most one version, of the first kind, and
    each handle is given once. `seen` tells whether there was a version. -/
def directives : Nat → Bool → List (String × String) → Parsing (List (String × String))
  | 0, _, handles => return handles
  | steps + 1, seen, handles => do
    match ← peek with
    | some (.directive (.version major _)) =>
      if seen then fail .repeatedDirective
      if major ≠ 1 then fail .unsupportedVersion
      skip
      directives steps true handles
    | some (.directive (.handle name expansion)) =>
      if (handles.lookup name).isSome then fail .repeatedDirective
      skip
      directives steps seen ((name, expansion) :: handles)
    | some (.directive .other) =>
      skip
      directives steps seen handles
    | _ => return handles

/-- The start of a document that is marked. -/
def opening (steps : Nat) : Parsing Unit := do
  let handles ← directives steps false []
  modify fun progress => { progress with handles := handles ++ commonHandles }
  expect .documentStart

/-- Whether the next token lies outside a document. -/
def isOutside : Option Token → Bool
  | none | some (.directive _) | some .documentStart | some .documentEnd => true
  | _ => false

/-- The end of the document and of the text. -/
def closing : Nat → Parsing Unit
  | 0 => fail .severalDocuments
  | steps + 1 => do
    if ← skipIf .documentEnd then closing steps
    else if (← peek).isSome then fail .severalDocuments

/-- The number of the root of the document, if the text holds one. -/
def document (steps : Nat) : Parsing (Option Nat) := do
  match ← peek with
  | none => return none
  | some token =>
    let marked := (token matches .directive _) || token == .documentStart
    if marked then opening steps
    let root ← if marked && isOutside (← peek) then addEmpty else node steps .block
    closing steps
    return some root

end Parsing

/-- The document that a row of tokens stands for, if it holds one: the nodes and the number of the
    root. Each token takes at most three steps. A collection is opened with two calls. -/
def Nodes.ofTokens (room : Nat) (tokens : List Placed) :
    Except Failure (Option (Nodes × Nat)) := do
  let (root, progress) ←
    (Parsing.document (3 * tokens.length + 3)).run (Parsing.start (room / 2) tokens)
  return root.map (progress.nodes, ·)

end RestContract.Yaml
