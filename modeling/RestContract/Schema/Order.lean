import RestContract.Schema.Graph

/-!
# Dependencies first

An order of the nodes of a graph in which every node stands after the nodes it depends on. The graph
is searched depth first from its nodes in their order, and a node is placed when everything it
depends on has been placed, so nodes without a dependency between them keep their order. A node that
depends on one whose search is still open closes a cycle, and then there is no such order.
-/

namespace RestContract.Schema

/-- The open searches, the innermost first: a node and those of its dependencies that have not been
    looked at. -/
abbrev Path := List (String × List String)

namespace Path

/-- The nodes whose search is open, the outermost first. -/
def nodes (path : Path) : List String := (path.map Prod.fst).reverse

/-- The cycle that the dependency `node` of the innermost search closes: from the open search of the
    node back to the node. -/
def cycle (path : Path) (node : String) : List String :=
  path.nodes.dropWhile (· != node) ++ [node]

/-- A bound on the steps that the open searches need on their own. -/
def work : Path → Nat
  | [] => 0
  | (_, rest) :: outer => rest.length + 1 + work outer

end Path

namespace Graph

/-- All nodes of the graph, those that others depend on included, each once. -/
def allNodes (graph : Graph) : List String :=
  (graph.flatMap fun (node, targets) => node :: targets).foldl addOnce []

/-- A bound on the steps that nodes need that have not been reached. -/
def work (graph : Graph) : List String → Nat
  | [] => 0
  | node :: rest => (graph.edges node).length + 1 + work graph rest

theorem work_erase (graph : Graph) {fresh : List String} {node : String} (h : node ∈ fresh) :
    graph.work fresh = (graph.edges node).length + 1 + graph.work (fresh.erase node) := by
  induction fresh with
  | nil => cases h
  | cons first rest ih =>
    by_cases heq : first = node
    · subst heq
      simp only [work, List.erase_cons_head]
    · have hmem : node ∈ rest := by
        cases h with
        | head => exact absurd rfl heq
        | tail _ h => exact h
      rw [List.erase_cons_tail (by simpa using heq)]
      simp only [work, ih hmem]
      omega

/-- Where a search stands: the nodes that have not been reached, and those that have been placed. -/
structure Progress where
  fresh : List String
  placed : List String

/-- Searches on until no search is open. Gives a cycle if one is closed. -/
def search (graph : Graph) (path : Path) (progress : Progress) :
    Except (List String) Progress :=
  match path with
  | [] => .ok progress
  | (node, []) :: outer =>
    search graph outer { progress with placed := progress.placed ++ [node] }
  | (node, target :: rest) :: outer =>
    if (Path.nodes ((node, target :: rest) :: outer)).contains target then
      .error (Path.cycle ((node, target :: rest) :: outer) target)
    else if target ∈ progress.fresh then
      search graph ((target, graph.edges target) :: (node, rest) :: outer)
        { progress with fresh := progress.fresh.erase target }
    else search graph ((node, rest) :: outer) progress
  termination_by graph.work progress.fresh + path.work
  decreasing_by
    · simp [Path.work]
    · next h =>
      have := graph.work_erase h
      simp [Path.work]; omega
    · simp [Path.work]

/-- Searches from a node that has not been reached. -/
def searchFrom (graph : Graph) (progress : Progress) (root : String) :
    Except (List String) Progress :=
  if root ∈ progress.fresh then
    search graph [(root, graph.edges root)]
      { progress with fresh := progress.fresh.erase root }
  else .ok progress

/-- The nodes of the graph, each after the nodes it depends on, or a cycle of the graph. -/
def order (graph : Graph) : Except (List String) (List String) := do
  let start : Progress := { fresh := graph.allNodes, placed := [] }
  let progress ← (graph.map Prod.fst).foldlM graph.searchFrom start
  return progress.placed

end Graph
end RestContract.Schema
