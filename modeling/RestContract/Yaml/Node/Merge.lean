import RestContract.Yaml.Complaint
import RestContract.Yaml.Node

/-!
# Merging mappings

A mapping can have keys that merge other mappings into it. Merging takes these keys out of the
mapping and puts the pairs of the other mappings in front of its own, so that its own pairs win over
them. The mappings that are merged have to be free of such keys too, and a mapping that is merged
into itself adds what it holds by then. The key of the value that a mapping stands for where a text
is wanted becomes a text as well.
-/

namespace RestContract.Yaml

/-- Changes the nodes of a document. -/
abbrev Merging := StateT Nodes (Except Failure)

namespace Nodes

/-- Pairs without the first that merges, and the number of the node that it merges. -/
def takeMerge? (nodes : Nodes) : List (Nat × Nat) → Option (Nat × List (Nat × Nat))
  | [] => none
  | (key, value) :: rest =>
    if nodes.tag key = .merge then some (value, rest)
    else (takeMerge? nodes rest).map fun (source, others) => (source, (key, value) :: others)

/-- The nodes with a text in the place of a key of a value. -/
def plainKey (nodes : Nodes) (key : Nat) : Nodes :=
  if nodes.tag key = .value then nodes.setIfInBounds key (nodes.node key).asText else nodes

/-- The nodes when pairs have been put in front of those of a mapping. -/
def prepend (nodes : Nodes) (n : Nat) (merged : List (Nat × Nat)) : Nodes :=
  let own := (nodes.node n).pairs?.getD []
  let nodes := own.foldl (fun nodes pair => nodes.plainKey pair.1) nodes
  if merged.isEmpty then nodes else nodes.setPairs n (merged ++ own)

end Nodes

/-- The pairs of a mapping that is to be merged into another. -/
def sourcePairs (n : Nat) : Merging (List (Nat × Nat)) := do
  match ((← get).node n).pairs? with
  | some pairs => return pairs
  | none => throw (.unplaced .badMerge)

mutual
/-- Merges into a mapping what it is to be merged with, where `merged` holds the pairs that have
    been found so far. The steps bound the number of merges. -/
def mergeInto (n : Nat) (merged : List (Nat × Nat)) (steps : Nat) : Merging Unit := do
  match (← get).takeMerge? (← sourcePairs n) with
  | none => modify fun nodes => nodes.prepend n merged
  | some (source, others) =>
    match steps with
    | 0 => throw (.fault .endlessNesting)
    | steps + 1 => do
      modify fun nodes => nodes.setPairs n others
      let more ← mergeSource source steps
      mergeInto n (merged ++ more) steps

/-- The pairs that a node adds to a mapping: a mapping those it has, and a sequence of mappings
    those of its items, of which the first one wins. -/
def mergeSource (source : Nat) (steps : Nat) : Merging (List (Nat × Nat)) := do
  match (← get).node source with
  | .mapping _ _ => do
    mergeInto source [] steps
    sourcePairs source
  | .sequence _ items => do
    let lists ← items.mapM fun item => do
      mergeInto item [] steps
      sourcePairs item
    return lists.reverse.flatten
  | .scalar .. => throw (.unplaced .badMerge)
end

end RestContract.Yaml
