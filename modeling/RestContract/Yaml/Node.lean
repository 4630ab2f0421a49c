import RestContract.Yaml.Tag

/-!
# Nodes

The parts of a document: texts and collections, each with a tag. The nodes of a document stand in a
table and are known by their numbers in it. A collection holds the numbers of its parts, so an alias
is the number of the node that its anchor names, and a collection can hold itself.
-/

namespace RestContract.Yaml

/-- A node of a document. -/
inductive Node where
  | scalar (tag : Tag) (text : String)
  | sequence (tag : Tag) (items : List Nat)
  | mapping (tag : Tag) (pairs : List (Nat × Nat))

namespace Node

/-- The node for a value that is left out. -/
def empty : Node := .scalar .null ""

instance : Inhabited Node := ⟨empty⟩

/-- The tag of a node. -/
def tag : Node → Tag
  | .scalar tag _ => tag
  | .sequence tag _ => tag
  | .mapping tag _ => tag

/-- A node as a text without a tag of its own. -/
def asText : Node → Node
  | .scalar _ s => .scalar .text s
  | .sequence _ items => .sequence .text items
  | .mapping _ pairs => .mapping .text pairs

/-- The pairs of a mapping. -/
def pairs? : Node → Option (List (Nat × Nat))
  | .mapping _ pairs => some pairs
  | _ => none

end Node

/-- The nodes of a document by number. -/
abbrev Nodes := Array Node

namespace Nodes

/-- The node of a number. -/
def node (nodes : Nodes) (n : Nat) : Node := nodes[n]?.getD Node.empty

/-- The tag of a node. -/
def tag (nodes : Nodes) (n : Nat) : Tag := (nodes.node n).tag

/-- The nodes with other pairs for a mapping. -/
def setPairs (nodes : Nodes) (n : Nat) (pairs : List (Nat × Nat)) : Nodes :=
  nodes.setIfInBounds n (.mapping (nodes.tag n) pairs)

/-- The number of pairs of all mappings together. -/
def pairCount (nodes : Nodes) : Nat :=
  nodes.foldl (fun count node => count + (node.pairs?.getD []).length) 0

end Nodes
end RestContract.Yaml
