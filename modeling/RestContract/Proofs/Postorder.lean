import RestContract.Proofs.DependencyOrder

/-!
# The order as a post-order

The search of `Graph.order` keeps its open searches in a list of its own. It does what a plain
recursion does: a node is visited by visiting the nodes it depends on, in their order, and is placed
after them, unless it has been placed before. The recursion ends because no node depends on itself.

Visiting a node places what can be reached from it and nothing else. So the nodes that are reached
from the first listed nodes stand before all others, and the order is the one in which the nodes are
listed wherever no dependency is in the way.
-/

namespace RestContract.Schema
namespace Graph

open Relation

variable {graph : Graph}

/-- A node is reached from another along dependencies, or is that node. -/
abbrev Reaches (graph : Graph) : String → String → Prop := ReflTransGen graph.Depends

/-- A listed node is the first from which a node is reached, by its place in the list. -/
structure FirstReaches (graph : Graph) (place : Nat) (node : String) : Prop where
  reaches : ∃ root, (graph.map Prod.fst)[place]? = some root ∧ graph.Reaches root node
  first : ∀ earlier < place, ∀ root, (graph.map Prod.fst)[earlier]? = some root →
    ¬ graph.Reaches root node

/-! ## The recursion -/

/-- No path of dependencies goes on forever. -/
abbrev Acyclic (graph : Graph) : Prop := WellFounded fun target source => graph.Depends source target

/-- Along a path of dependencies, the places in an order get smaller. -/
theorem IsOrder.acyclic {order : List String} (h : graph.IsOrder order) : graph.Acyclic := by
  refine Subrelation.wf ?_ (measure order.idxOf).wf
  intro target source hd
  have hsource : source ∈ order := by
    obtain ⟨targets, he, _⟩ := exists_entry_of_depends hd
    exact (h.complete source).2 (.inl (List.mem_map_of_mem he))
  obtain ⟨before, after, heq⟩ := List.append_of_mem hsource
  have hbefore : target ∈ before := h.ordered _ _ _ heq target hd
  have hnot : source ∉ before := by
    have hnodup := h.nodup
    rw [heq, List.nodup_append] at hnodup
    exact fun hm => hnodup.2.2 source hm source List.mem_cons_self rfl
  have htarget : order.idxOf target < before.length := by
    rw [heq, List.idxOf_append_of_mem hbefore]
    exact List.idxOf_lt_length_of_mem hbefore
  have hlast : order.idxOf source = before.length := by
    rw [heq, List.idxOf_append_of_notMem hnot, List.idxOf_cons_self, Nat.add_zero]
  show order.idxOf target < order.idxOf source
  omega

theorem exists_order_of_not_cyclic (h : ¬ graph.Cyclic) :
    ∃ order, graph.order = .ok order ∧ graph.IsOrder order := by
  have hspec := graph.isOrder_or_isCycle
  split at hspec
  · next order ho => exact ⟨order, ho, hspec⟩
  · exact absurd (cyclic_of_isCycle hspec) h

theorem acyclic_of_not_cyclic (h : ¬ graph.Cyclic) : graph.Acyclic := by
  obtain ⟨order, _, ho⟩ := exists_order_of_not_cyclic h
  exact ho.acyclic

/-- Visits a node, where some nodes have been placed: the nodes it depends on are visited one after
    the other, then the node is placed. A node that has been visited is passed over; it has been
    placed, because no node is met while the nodes it depends on are visited. -/
def visit (acyclic : graph.Acyclic) (placed : List String) (node : String) : List String :=
  if node ∈ placed then placed
  else
    (graph.edges node).attach.foldl (fun placed target => visit acyclic placed target.1) placed ++
      [node]
  termination_by acyclic.wrap node
  decreasing_by exact target.2

/-- The listed nodes are visited one after the other. -/
def postorder (acyclic : graph.Acyclic) : List String :=
  (graph.map Prod.fst).foldl (visit acyclic) []

variable {acyclic : graph.Acyclic} {placed : List String} {node : String}

theorem visit_of_mem (h : node ∈ placed) : visit acyclic placed node = placed := by
  rw [visit, if_pos h]

theorem visit_of_not_mem (h : node ∉ placed) :
    visit acyclic placed node = (graph.edges node).foldl (visit acyclic) placed ++ [node] := by
  rw [visit, if_neg h, List.foldl_attach]

/-! ## The search follows the recursion -/

/-- What the recursion places when it goes on with the open searches. -/
def resume (acyclic : graph.Acyclic) :
    Path → List String → List String
  | [], placed => placed
  | (node, rest) :: outer, placed =>
    resume acyclic outer (rest.foldl (visit acyclic) placed ++ [node])

/-- A search that ends has placed what the recursion places. -/
theorem placed_of_search {path : Path} {progress final : Progress}
    (h : graph.Searching path progress) (hr : search graph path progress = .ok final) :
    final.placed = resume acyclic path progress.placed := by
  fun_induction search graph path progress with
  | case1 progress =>
    cases hr
    rfl
  | case2 progress node outer ih => exact ih h.place hr
  | case3 => cases hr
  | case4 progress node target rest outer ho hf ih =>
    rw [ih (h.enter hf) hr, resume, resume, resume, List.foldl_cons,
      visit_of_not_mem (h.not_placed hf)]
  | case5 progress node target rest outer ho hf ih =>
    have hopen : target ∉ ((node, target :: rest) :: outer).map Prod.fst :=
      fun hm => ho (by simpa [Path.nodes, or_comm] using hm)
    have hplaced : target ∈ progress.placed := h.mem_placed (.inr ⟨node, h.depends⟩) hf hopen
    rw [ih (h.pass hf hopen) hr, resume, resume, List.foldl_cons, visit_of_mem hplaced]

theorem placed_of_searchFrom {root : String} {progress final : Progress}
    (h : graph.Searching [] progress) (hn : graph.IsNode root)
    (hr : searchFrom graph progress root = .ok final) :
    final.placed = visit acyclic progress.placed root := by
  unfold searchFrom at hr
  split at hr
  · next hf =>
    rw [placed_of_search (h.root hn hf) hr, resume, resume, visit_of_not_mem (h.not_placed hf)]
  · next hf =>
    cases hr
    rw [visit_of_mem (h.mem_placed hn hf (by simp))]

theorem placed_of_searches {roots : List String} {progress final : Progress}
    (h : graph.Searching [] progress) (hn : ∀ root ∈ roots, graph.IsNode root)
    (hr : roots.foldlM graph.searchFrom progress = .ok final) :
    final.placed = roots.foldl (visit acyclic) progress.placed := by
  induction roots generalizing progress with
  | nil =>
    cases hr
    rfl
  | cons root rest ih =>
    rw [List.foldlM_cons] at hr
    obtain ⟨next, hnext, hr⟩ := exists_of_bind_eq_ok hr
    have hroot := hn root List.mem_cons_self
    rw [List.foldl_cons, ← placed_of_searchFrom h hroot hnext]
    exact ih (searching_of_searchFrom h hroot hnext).1
      (fun other ho => hn other (List.mem_cons_of_mem _ ho)) hr

theorem eq_postorder_of_order {order : List String} (h : graph.order = .ok order) :
    order = postorder acyclic := by
  obtain ⟨final, hr, h⟩ := exists_of_bind_eq_ok h
  cases h
  exact placed_of_searches (Searching.start graph) (fun root hm => .inl hm) hr

/-! ## What is placed -/

/-- What depends on nothing but what has been placed. -/
def Closed (graph : Graph) (placed : List String) : Prop :=
  ∀ node ∈ placed, ∀ target, graph.Depends node target → target ∈ placed

theorem Closed.mem_of_reaches (h : graph.Closed placed) {target : String} (hn : node ∈ placed)
    (hr : graph.Reaches node target) : target ∈ placed := by
  induction hr with
  | refl => exact hn
  | tail _ hd ih => exact h _ ih _ hd

/-- What a visit does, so that it can be said of several visits in a row. -/
structure Places (graph : Graph) (roots placed later : List String) : Prop where
  closed : graph.Closed later
  mem_iff : ∀ node, node ∈ later ↔ node ∈ placed ∨ ∃ root ∈ roots, graph.Reaches root node
  kept : placed <+: later

theorem Places.refl (h : graph.Closed placed) : graph.Places [] placed placed where
  closed := h
  mem_iff := by simp
  kept := List.prefix_rfl

theorem Places.trans {first second placed later last : List String}
    (h : graph.Places first placed later) (hnext : graph.Places second later last) :
    graph.Places (first ++ second) placed last where
  closed := hnext.closed
  mem_iff := by
    intro node
    simp only [hnext.mem_iff, h.mem_iff, List.mem_append, or_and_right, exists_or, or_assoc]
  kept := h.kept.trans hnext.kept

theorem places_foldl {roots : List String}
    (hv : ∀ root ∈ roots, ∀ placed, graph.Closed placed →
      graph.Places [root] placed (visit acyclic placed root))
    (h : graph.Closed placed) : graph.Places roots placed (roots.foldl (visit acyclic) placed) := by
  induction roots generalizing placed with
  | nil => exact .refl h
  | cons root rest ih =>
    have hroot := hv root List.mem_cons_self placed h
    have hrest := ih (fun other ho => hv other (List.mem_cons_of_mem _ ho)) hroot.closed
    exact hroot.trans hrest

/-- Once everything that a node depends on has been placed, the node can be placed. -/
theorem Places.concat {later : List String} (h : graph.Places (graph.edges node) placed later) :
    graph.Places [node] placed (later ++ [node]) where
  closed := by
    intro source hm target hd
    rcases List.mem_append.1 hm with hm | hm
    · exact List.mem_append_left _ (h.closed source hm target hd)
    · rw [List.mem_singleton] at hm
      subst hm
      exact List.mem_append_left _ ((h.mem_iff target).2 (.inr ⟨target, hd, .refl⟩))
  mem_iff := by
    intro other
    have hreach : graph.Reaches node other ↔
        other = node ∨ ∃ target ∈ graph.edges node, graph.Reaches target other :=
      ReflTransGen.cases_head_iff.trans (or_congr_left eq_comm)
    simp only [List.mem_append, h.mem_iff, List.mem_singleton, exists_eq_left, hreach]
    rw [or_assoc, or_comm (b := other = node)]
  kept := h.kept.trans (List.prefix_append _ _)

/-- Visiting a node places everything that is reached from it. -/
theorem places_visit (h : graph.Closed placed) :
    graph.Places [node] placed (visit acyclic placed node) := by
  induction node using acyclic.induction generalizing placed with
  | _ node ih =>
    by_cases hm : node ∈ placed
    · rw [visit_of_mem hm]
      refine ⟨h, fun other => ?_, List.prefix_rfl⟩
      simp only [List.mem_singleton, exists_eq_left]
      exact ⟨.inl, fun ho => ho.elim id (h.mem_of_reaches hm)⟩
    · rw [visit_of_not_mem hm]
      exact (places_foldl (fun target hd _ hc => ih target hd hc) h).concat

theorem places_roots (roots : List String) :
    graph.Places roots [] (roots.foldl (visit acyclic) []) :=
  places_foldl (fun _ _ _ hc => places_visit hc) (fun _ hm => absurd hm List.not_mem_nil)

/-! ## The order in which nodes are listed -/

/-- A node that is reached from the listed nodes up to some place stands before one that is reached
    from later ones only. -/
theorem sublist_postorder {place : Nat} {other : String}
    (hn : ∃ early ≤ place, ∃ root, (graph.map Prod.fst)[early]? = some root ∧
      graph.Reaches root node)
    (ho : ∀ early ≤ place, ∀ root, (graph.map Prod.fst)[early]? = some root →
      ¬ graph.Reaches root other)
    (hl : ∃ root ∈ graph.map Prod.fst, graph.Reaches root other) :
    [node, other].Sublist (postorder acyclic) := by
  obtain ⟨early, hle, root, hroot, hreach⟩ := hn
  -- The fold is split after the root at `place`: what its first part lists stands before all that
  -- the second part adds, and `other` is added by the second part only.
  let roots := graph.map Prod.fst
  let front := (roots.take (place + 1)).foldl (visit acyclic) []
  have hfront : graph.Places (roots.take (place + 1)) [] front := places_roots _
  have hrest : graph.Places (roots.drop (place + 1)) front (postorder acyclic) := by
    rw [postorder, ← List.take_append_drop (place + 1) (graph.map Prod.fst), List.foldl_append]
    exact places_foldl (fun _ _ _ hc => places_visit hc) hfront.closed
  have hnode : node ∈ front := by
    refine (hfront.mem_iff node).2 (.inr ⟨root, ?_, hreach⟩)
    exact List.mem_iff_getElem?.2 ⟨early, by rw [List.getElem?_take_of_lt (by omega), hroot]⟩
  have hnot : other ∉ front := by
    intro hm
    obtain ⟨first, hf, hr⟩ := ((hfront.mem_iff other).1 hm).resolve_left List.not_mem_nil
    obtain ⟨before, hbefore⟩ := List.mem_iff_getElem?.1 hf
    rw [List.getElem?_take] at hbefore
    split at hbefore
    · exact ho before (by omega) first hbefore hr
    · cases hbefore
  have hmem : other ∈ postorder acyclic := ((places_roots roots).mem_iff other).2 (.inr hl)
  obtain ⟨back, hback⟩ := hrest.kept
  rw [← hback] at hmem ⊢
  have hlater : other ∈ back := (List.mem_append.1 hmem).resolve_left hnot
  exact (List.singleton_sublist.2 hnode).append (List.singleton_sublist.2 hlater)

/-- Where no node depends on itself, the order of declarations is the post-order of the recursion. A
    node that is reached from an earlier listed node than another stands before it. So two listed
    nodes keep their order, unless the second is reached from one that is listed up to the first. -/
theorem declarationOrder_eq_postorder (h : ¬ graph.Cyclic) :
    declarationOrder graph = .ok (postorder (acyclic_of_not_cyclic h)) ∧
      (∀ first second node other, graph.FirstReaches first node →
        graph.FirstReaches second other → first < second →
        [node, other].Sublist (postorder (acyclic_of_not_cyclic h))) ∧
      (∀ (first second : Nat) (node other : String), (graph.map Prod.fst)[first]? = some node →
        (graph.map Prod.fst)[second]? = some other →
        (∀ early ≤ first, ∀ root, (graph.map Prod.fst)[early]? = some root →
          ¬ graph.Reaches root other) →
        [node, other].Sublist (postorder (acyclic_of_not_cyclic h))) := by
  refine ⟨?_, ?_, ?_⟩
  · obtain ⟨order, ho, _⟩ := exists_order_of_not_cyclic h
    rw [declarationOrder, ho, ← eq_postorder_of_order ho]
  · intro first second node other hn ho hlt
    obtain ⟨last, hlast, hother⟩ := ho.reaches
    refine sublist_postorder ⟨first, le_refl first, hn.reaches⟩ ?_
      ⟨last, List.mem_of_getElem? hlast, hother⟩
    exact fun early hle root hr => ho.first early (by omega) root hr
  · intro first second node other hn ho hnone
    exact sublist_postorder ⟨first, le_refl first, node, hn, .refl⟩ hnone
      ⟨other, List.mem_of_getElem? ho, .refl⟩

/-! ## A node that is listed late -/

/-- The last listed node is one that the first depends on, and another node is not listed. -/
def lateGraph : Graph := [("A", ["C"]), ("B", ["C", "D"]), ("C", [])]

theorem order_late : lateGraph.order = .ok ["C", "A", "D", "B"] := by
  simp [lateGraph, Graph.order, allNodes, addOnce, searchFrom, search, edges, Path.nodes,
    List.lookup_cons, bind, Except.bind, pure, Except.pure]

theorem not_cyclic_late : ¬ lateGraph.Cyclic := by
  have hspec := lateGraph.isOrder_or_isCycle
  rw [order_late] at hspec
  exact hspec.not_cyclic

theorem firstReaches_late : lateGraph.FirstReaches 0 "A" ∧ lateGraph.FirstReaches 1 "D" := by
  have hclosed : lateGraph.Closed ["C", "A"] := by
    simp [Closed, Depends, lateGraph, edges, List.lookup_cons]
  have hB : lateGraph.Depends "B" "D" := by simp [Depends, lateGraph, edges, List.lookup_cons]
  refine ⟨⟨⟨"A", rfl, .refl⟩, fun early hlt => absurd hlt (Nat.not_lt_zero early)⟩,
    ⟨⟨"B", rfl, .single hB⟩, ?_⟩⟩
  intro early hlt root hroot hr
  obtain rfl : early = 0 := by omega
  cases hroot
  have hm : "D" ∈ ["C", "A"] := hclosed.mem_of_reaches (by simp) hr
  simp at hm

theorem declarationOrder_eq_postorder_late :
    ¬ lateGraph.Cyclic ∧ lateGraph.FirstReaches 0 "A" ∧ lateGraph.FirstReaches 1 "D" ∧
      declarationOrder lateGraph = .ok (postorder (acyclic_of_not_cyclic not_cyclic_late)) ∧
      ["A", "D"].Sublist (postorder (acyclic_of_not_cyclic not_cyclic_late)) := by
  obtain ⟨hfirst, hsecond⟩ := firstReaches_late
  obtain ⟨horder, hlaw, _⟩ := declarationOrder_eq_postorder not_cyclic_late
  exact ⟨not_cyclic_late, hfirst, hsecond, horder, hlaw 0 1 "A" "D" hfirst hsecond (by decide)⟩

end Graph
end RestContract.Schema
