import RestContract.Value.Basic
import RestContract.Yaml.Node.Merge
import RestContract.Yaml.Scalar

/-!
# What nodes stand for

The value of a scalar, and what a collection is made of, for all collections that belong to a
document. Collections are taken in the order in which they are met, those that stand less deep
first, so of several failures the one that is met first counts. A node is given a meaning once,
however many aliases it has.
-/

namespace RestContract.Yaml

/-- A result that a fault may stand in the way of. -/
def ofFault {α : Type} (x : Except Fault α) : Except Failure α := x.mapError .fault

namespace Nodes

/-- The text of a node: its own, or that of the value that a mapping stands for where a text is
    wanted. -/
def scalarText (nodes : Nodes) : Nat → Nat → Except Failure String
  | 0, _ => .error (.fault .endlessNesting)
  | steps + 1, n =>
    match nodes.node n with
    | .scalar _ s => .ok s
    | .mapping _ pairs =>
      match pairs.find? fun (key, _) => nodes.tag key = .value with
      | some (_, value) => scalarText nodes steps value
      | none => .error (.unplaced .wrongNode)
    | .sequence .. => .error (.unplaced .wrongNode)

/-- The text of a node. A mapping without an end stands for none. -/
def text (nodes : Nodes) (n : Nat) : Except Failure String := nodes.scalarText (nodes.size + 1) n

/-- The text that a date is read from, which has to be that of the node itself. -/
def ownText (nodes : Nodes) (n : Nat) : Except Failure String := do
  let s ← nodes.text n
  match nodes.node n with
  | .scalar .. => return s
  | _ => throw (.fault .wrongKind)

/-- The value of a node whose tag is that of no collection. -/
def scalarValue (nodes : Nodes) (n : Nat) : Except Failure Scalar := do
  match nodes.tag n with
  | .null =>
    let _ ← nodes.text n
    return .null
  | .bool => return .bool (← ofFault (boolOf (← nodes.text n)))
  | .int => return .int (← ofFault (intOf (← nodes.text n).toList))
  | .float => return .double (← ofFault (floatOf (n + 1) (← nodes.text n).toList))
  | .binary => return .bytes (← binaryOf (← nodes.text n).toList)
  | .timestamp => ofFault (timestampOf (← nodes.ownText n).toList)
  | .text => return .text (← nodes.text n)
  | _ => throw (.unplaced .unknownTag)

end Nodes

/-- A member of a collection: a scalar, or a collection by its number. -/
inductive Member where
  | scalar (s : Scalar)
  | collection (n : Nat)

/-- What a collection is made of. A key of a map can be repeated, and then its last value counts. -/
inductive Body where
  | list (items : List Member)
  | map (fields : List (Scalar × Member))
  | pairs (pairs : List (Member × Member))
  | set (members : List Scalar)

/-- How far the nodes of a document have been given meanings: the nodes, what they are as members of
    collections, the collections that wait for their bodies, the last one first, and those that have
    them. `merges` bounds the merges of mappings. -/
structure Interpretation where
  nodes : Nodes
  members : Array (Option Member)
  waiting : List Nat
  bodies : List (Nat × Body)
  merges : Nat

/-- Gives nodes meanings. -/
abbrev Meaning := StateT Interpretation (Except Failure)

namespace Meaning

/-- The start, where no node has a meaning. -/
def start (nodes : Nodes) : Interpretation :=
  { nodes, members := Array.replicate nodes.size none, waiting := [], bodies := [],
    merges := nodes.pairCount + 1 }

/-- The meaning of a node that has none yet. A collection has to wait for its body. -/
def fresh (n : Nat) : Meaning Member := do
  let nodes := (← get).nodes
  if (nodes.tag n).isCollection then
    modify fun progress => { progress with waiting := n :: progress.waiting }
    return .collection n
  return .scalar (← nodes.scalarValue n)

/-- What a node is as a member of a collection. -/
def member (n : Nat) : Meaning Member := do
  if let some found := (← get).members[n]?.join then return found
  let made ← fresh n
  modify fun progress => { progress with members := progress.members.setIfInBounds n (some made) }
  return made

/-- The scalar that a node stands for as a key. -/
def key (n : Nat) : Meaning Scalar := do
  match ← member n with
  | .scalar s => return s
  | .collection _ => throw (.unplaced .collectionAsKey)

/-- Merges into a mapping what it is to be merged with. -/
def merge (n : Nat) : Meaning Unit := do
  let progress ← get
  let ((), nodes) ← (mergeInto n [] progress.merges).run progress.nodes
  set { progress with nodes }

/-- The fields of a mapping. -/
def fields (n : Nat) : Meaning (List (Scalar × Member)) := do
  if ((← get).nodes.node n).pairs?.isNone then throw (.unplaced .wrongNode)
  merge n
  (((← get).nodes.node n).pairs?.getD []).mapM fun (first, second) => do
    let name ← key first
    return (name, ← member second)

/-- The items of a sequence. -/
def items (n : Nat) : Meaning (List Nat) := do
  match (← get).nodes.node n with
  | .sequence _ items => return items
  | _ => throw (.unplaced .wrongNode)

/-- The pair of a mapping that has one pair and no other. -/
def pair (n : Nat) : Meaning (Member × Member) := do
  match (← get).nodes.node n with
  | .mapping _ [(first, second)] => do
    let first ← member first
    return (first, ← member second)
  | _ => throw (.unplaced .wrongNode)

/-- The body of a collection by its tag. -/
def body (n : Nat) : Meaning Body := do
  match (← get).nodes.tag n with
  | .mapping => return .map (← fields n)
  | .set => return .set ((← fields n).map Prod.fst)
  | .orderedMap | .pairs => return .pairs (← (← items n).mapM pair)
  | _ => return .list (← (← items n).mapM member)

/-- Gives bodies to collections and then to those that they have made wait. Each round but the last
    adds to the meanings of nodes, so there are fewer of them than nodes. -/
def rounds : Nat → List Nat → Meaning Unit
  | _, [] => return
  | 0, _ => throw (.fault .endlessNesting)
  | steps + 1, waiting => do
    for n in waiting do
      let body ← body n
      modify fun progress => { progress with bodies := (n, body) :: progress.bodies }
    let next := (← get).waiting.reverse
    modify fun progress => { progress with waiting := [] }
    rounds steps next

/-- The meaning of a node, once all collections that it takes have bodies. -/
def document (root : Nat) : Meaning Member := do
  let whole ← member root
  let progress ← get
  set { progress with waiting := [] }
  rounds (progress.nodes.size + 1) progress.waiting
  return whole

end Meaning

/-- The meaning of the root of a document, and the bodies of its collections, the deepest ones
    first. -/
def Nodes.meaning (nodes : Nodes) (root : Nat) : Except Failure (Member × List (Nat × Body)) := do
  let (whole, progress) ← (Meaning.document root).run (Meaning.start nodes)
  return (whole, progress.bodies)

end RestContract.Yaml
