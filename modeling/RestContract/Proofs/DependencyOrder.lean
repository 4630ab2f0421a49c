import Mathlib.Data.List.Chain
import Mathlib.Data.List.Nodup
import Mathlib.Logic.Relation
import RestContract.Schema.Declaration

/-!
# The order of dependencies

What the search of `Graph.order` finds. It keeps three lists of nodes: those that have not been
reached, those whose search is open, and those that have been placed. `Searching` says how they
belong together, and every step of a search keeps it. A search that ends has placed every node after
the nodes it depends on. A search that fails has met a node whose search is still open, and the open
searches from there on are a cycle.
-/

namespace RestContract.Schema
namespace Graph

variable {graph : Graph}

/-- One node depends on another without a third between them. -/
def Depends (graph : Graph) (source target : String) : Prop := target ∈ graph.edges source

/-- The nodes of a graph: those that are listed, and those that others depend on. -/
def IsNode (graph : Graph) (node : String) : Prop :=
  node ∈ graph.map Prod.fst ∨ ∃ source, graph.Depends source node

/-- Some node depends on itself, directly or through others. -/
def Cyclic (graph : Graph) : Prop := ∃ node, Relation.TransGen graph.Depends node node

/-- A path along dependencies that comes back to where it starts, and meets no other node twice. -/
structure IsCycle (graph : Graph) (path : List String) : Prop where
  long : 2 ≤ path.length
  closed : path.head? = path.getLast?
  simple : path.dropLast.Nodup
  linked : path.IsChain graph.Depends

/-- Every node of the list stands after all nodes it depends on. -/
def DependenciesFirst (graph : Graph) (order : List String) : Prop :=
  ∀ before node after, order = before ++ node :: after →
    ∀ target, graph.Depends node target → target ∈ before

/-! ## Nodes -/

theorem mem_addOnce {members : List String} {member node : String} :
    node ∈ addOnce members member ↔ node ∈ members ∨ node = member := by
  unfold addOnce
  split
  · next h =>
    have hm : member ∈ members := by simpa using h
    exact ⟨.inl, fun h => h.elim id (fun h => h ▸ hm)⟩
  · simp

theorem nodup_addOnce {members : List String} (h : members.Nodup) (member : String) :
    (addOnce members member).Nodup := by
  unfold addOnce
  split
  · exact h
  · next hn =>
    refine List.nodup_append.2 ⟨h, List.nodup_singleton member, ?_⟩
    intro a ha b hb heq
    rw [List.mem_singleton] at hb
    exact hn (by simpa using (hb ▸ heq ▸ ha : member ∈ members))

theorem mem_foldl_addOnce {members more : List String} {node : String} :
    node ∈ more.foldl addOnce members ↔ node ∈ members ∨ node ∈ more := by
  induction more generalizing members with
  | nil => simp
  | cons first rest ih => rw [List.foldl_cons, ih, mem_addOnce, List.mem_cons, or_assoc]

theorem nodup_foldl_addOnce {members : List String} (h : members.Nodup) (more : List String) :
    (more.foldl addOnce members).Nodup := by
  induction more generalizing members with
  | nil => exact h
  | cons first rest ih => exact ih (nodup_addOnce h first)

theorem nodup_allNodes (graph : Graph) : graph.allNodes.Nodup :=
  nodup_foldl_addOnce List.nodup_nil _

/-- What a node depends on is what the graph lists for it. -/
theorem exists_entry_of_depends {source target : String} (h : graph.Depends source target) :
    ∃ targets, (source, targets) ∈ graph ∧ target ∈ targets := by
  unfold Depends edges at h
  cases hl : graph.lookup source with
  | none => simp [hl] at h
  | some targets =>
    rw [hl] at h
    obtain ⟨before, after, heq, _⟩ := List.lookup_eq_some_iff.1 hl
    exact ⟨targets, by simp [heq], h⟩

theorem mem_allNodes_of_isNode {node : String} (h : graph.IsNode node) : node ∈ graph.allNodes := by
  rw [allNodes, mem_foldl_addOnce, List.mem_flatMap]
  right
  rcases h with h | ⟨source, h⟩
  · obtain ⟨entry, he, rfl⟩ := List.mem_map.1 h
    exact ⟨entry, he, List.mem_cons_self⟩
  · obtain ⟨targets, he, ht⟩ := exists_entry_of_depends h
    exact ⟨(source, targets), he, List.mem_cons_of_mem _ ht⟩

/-! ## Cycles -/

/-- The part of a list from a member on. -/
theorem exists_dropWhile_eq {nodes : List String} {node : String} (h : node ∈ nodes) :
    ∃ front back, nodes = front ++ node :: back ∧
      nodes.dropWhile (fun other => other != node) = node :: back := by
  induction nodes with
  | nil => cases h
  | cons first rest ih =>
    by_cases heq : first = node
    · subst heq
      exact ⟨[], rest, rfl, by simp⟩
    · obtain ⟨front, back, hr, hd⟩ := ih ((List.mem_cons.1 h).resolve_left (Ne.symm heq))
      refine ⟨first :: front, back, by rw [hr, List.cons_append], ?_⟩
      rw [List.dropWhile_cons_of_pos (by simpa using heq), hd]

/-- A path along dependencies leads from its first node to its last. -/
theorem transGen_of_chain {first last : String} {between : List String}
    (h : (first :: (between ++ [last])).IsChain graph.Depends) :
    Relation.TransGen graph.Depends first last := by
  induction between generalizing first with
  | nil =>
    rw [List.nil_append, List.isChain_pair] at h
    exact .single h
  | cons next rest ih =>
    rw [List.cons_append, List.isChain_cons_cons] at h
    exact .head h.1 (ih h.2)

theorem cyclic_of_isCycle {path : List String} (h : graph.IsCycle path) : graph.Cyclic := by
  obtain ⟨long, closed, _, linked⟩ := h
  cases path with
  | nil => simp at long
  | cons first rest =>
    obtain ⟨between, last, rfl⟩ : ∃ between last, rest = between ++ [last] := by
      rcases List.eq_nil_or_concat rest with rfl | ⟨between, last, h⟩
      · simp at long
      · exact ⟨between, last, by simpa using h⟩
    have heq : first = last := by
      rw [← List.cons_append, List.getLast?_concat] at closed
      simpa using closed
    subst heq
    exact ⟨first, transGen_of_chain linked⟩

/-- In a list that holds the dependencies of its nodes before them, a node that another depends on,
    directly or through others, stands before it. -/
theorem DependenciesFirst.mem_of_transGen {order : List String} (h : graph.DependenciesFirst order)
    {before after : List String} {node target : String} (heq : order = before ++ node :: after)
    (ht : Relation.TransGen graph.Depends node target) : target ∈ before := by
  induction ht using Relation.TransGen.head_induction_on generalizing before after with
  | single hd => exact h _ _ _ heq _ hd
  | @head source middle hd _ ih =>
    obtain ⟨left, right, rfl⟩ := List.append_of_mem (h _ _ _ heq _ hd)
    have hsplit : order = left ++ middle :: (right ++ source :: after) := by
      rw [heq, List.append_assoc, List.cons_append]
    exact List.mem_append_left _ (ih hsplit)

theorem DependenciesFirst.not_cyclic {order : List String} (h : graph.DependenciesFirst order)
    (hd : order.Nodup) (hall : ∀ node, graph.IsNode node → node ∈ order) : ¬ graph.Cyclic := by
  rintro ⟨node, hc⟩
  have hnode : graph.IsNode node := by
    cases hc with
    | single hs => exact .inr ⟨node, hs⟩
    | tail _ hs => exact .inr ⟨_, hs⟩
  obtain ⟨before, after, rfl⟩ := List.append_of_mem (hall node hnode)
  have hmem := h.mem_of_transGen rfl hc
  rw [List.nodup_append] at hd
  exact hd.2.2 node hmem node List.mem_cons_self rfl

theorem DependenciesFirst.concat {order : List String} (h : graph.DependenciesFirst order)
    {node : String} (hn : ∀ target, graph.Depends node target → target ∈ order) :
    graph.DependenciesFirst (order ++ [node]) := by
  intro before last after heq target ht
  rcases List.eq_nil_or_concat after with rfl | ⟨middle, final, hafter⟩
  · obtain ⟨hb, hl⟩ := List.append_inj' heq rfl
    cases hl
    exact hb ▸ hn target ht
  · have heq' : order ++ [node] = (before ++ last :: middle) ++ [final] := by
      rw [heq, hafter]
      simp
    exact h before last middle (List.append_inj' heq' rfl).1 target ht

/-! ## The steps of a search -/

/-- Everything that an open search is through with has been placed. The search inside it, if there
    is one, is about the dependency it has taken up last. -/
def Settled (graph : Graph) (placed : List String) : Option String → Path → Prop
  | _, [] => True
  | inner, (node, rest) :: outer =>
    (∀ target, graph.Depends node target →
      target ∈ rest ∨ target ∈ placed ∨ inner = some target) ∧
      Settled graph placed (some node) outer

theorem Settled.mono {placed more : List String} (hsub : placed ⊆ more) {inner : Option String}
    {path : Path} (h : graph.Settled placed inner path) : graph.Settled more inner path := by
  induction path generalizing inner with
  | nil => trivial
  | cons first outer ih =>
    obtain ⟨node, rest⟩ := first
    exact ⟨fun target ht => (h.1 target ht).imp_right (Or.imp_left (hsub ·)), ih h.2⟩

theorem Settled.place {placed : List String} {node : String} {outer : Path}
    (h : graph.Settled placed (some node) outer) :
    graph.Settled (placed ++ [node]) none outer := by
  cases outer with
  | nil => trivial
  | cons first outer =>
    obtain ⟨owner, rest⟩ := first
    refine ⟨fun target ht => ?_, h.2.mono (by simp)⟩
    rcases h.1 target ht with hr | hp | hi
    · exact .inl hr
    · exact .inr (.inl (List.mem_append_left _ hp))
    · cases hi
      exact .inr (.inl (by simp))

/-- Where a search stands. The nodes that have not been reached, those whose search is open and those
    that have been placed are all nodes of the graph, each in one of the three lists. -/
structure Searching (graph : Graph) (path : Path) (progress : Progress) : Prop where
  conserved : (progress.fresh ++ path.map Prod.fst ++ progress.placed).Perm graph.allNodes
  reached : ∀ node ∈ path.map Prod.fst ++ progress.placed, graph.IsNode node
  linked : (path.map Prod.fst).IsChain fun inner outer => graph.Depends outer inner
  waiting : ∀ entry ∈ path, entry.2 ⊆ graph.edges entry.1
  settled : graph.Settled progress.placed none path
  ordered : graph.DependenciesFirst progress.placed

namespace Searching

variable {path outer : Path} {progress : Progress} {node target : String} {rest : List String}

theorem start (graph : Graph) : graph.Searching [] { fresh := graph.allNodes, placed := [] } where
  conserved := by simp
  reached := by simp
  linked := .nil
  waiting := by simp
  settled := trivial
  ordered := by
    intro before node after heq
    simp at heq

/-- A search from a node that has not been reached. -/
theorem root (h : graph.Searching [] progress) (hn : graph.IsNode node)
    (hf : node ∈ progress.fresh) :
    graph.Searching [(node, graph.edges node)]
      { progress with fresh := progress.fresh.erase node } where
  conserved := by
    refine List.Perm.trans ?_ h.conserved
    simp only [List.map_cons, List.map_nil, List.append_nil]
    refine List.Perm.append_right _ ?_
    exact (List.perm_append_singleton node _).trans (List.perm_cons_erase hf).symm
  reached := by
    intro other ho
    rcases List.mem_cons.1 ho with rfl | ho
    · exact hn
    · exact h.reached other ho
  linked := .singleton _
  waiting := by
    intro entry he
    rw [List.mem_singleton.1 he]
    exact List.Subset.refl _
  settled := ⟨fun target ht => .inl ht, trivial⟩
  ordered := h.ordered

theorem nodup (h : graph.Searching path progress) :
    (progress.fresh ++ path.map Prod.fst ++ progress.placed).Nodup :=
  h.conserved.nodup_iff.2 graph.nodup_allNodes

/-- A node that has been reached and whose search is not open has been placed. -/
theorem mem_placed (h : graph.Searching path progress) (hn : graph.IsNode node)
    (hf : node ∉ progress.fresh) (ho : node ∉ path.map Prod.fst) : node ∈ progress.placed := by
  have hmem := h.conserved.mem_iff.2 (mem_allNodes_of_isNode hn)
  rw [List.mem_append, List.mem_append] at hmem
  exact hmem.resolve_left fun hm => hm.elim hf ho

theorem not_placed (h : graph.Searching path progress) (hf : node ∈ progress.fresh) :
    node ∉ progress.placed := by
  have hnodup := h.nodup
  rw [List.append_assoc, List.nodup_append] at hnodup
  exact fun hm => hnodup.2.2 node hf node (List.mem_append_right _ hm) rfl

/-- A search that is through with its node places it. -/
theorem place (h : graph.Searching ((node, []) :: outer) progress) :
    graph.Searching outer { progress with placed := progress.placed ++ [node] } where
  conserved := by
    refine List.Perm.trans ?_ h.conserved
    simp only [List.map_cons, List.append_assoc]
    refine List.Perm.append_left _ ?_
    rw [← List.append_assoc]
    exact List.perm_append_singleton node _
  reached := by
    intro other ho
    refine h.reached other ?_
    simp only [List.mem_append, List.map_cons, List.mem_cons] at ho ⊢
    tauto
  linked := h.linked.tail
  waiting := fun entry he => h.waiting entry (List.mem_cons_of_mem _ he)
  settled := h.settled.2.place
  ordered := by
    refine h.ordered.concat fun target ht => ?_
    rcases h.settled.1 target ht with hr | hp | hi
    · cases hr
    · exact hp
    · cases hi

/-- The dependency that an open search takes up next. -/
theorem depends (h : graph.Searching ((node, target :: rest) :: outer) progress) :
    graph.Depends node target :=
  h.waiting _ List.mem_cons_self List.mem_cons_self

/-- A dependency that has not been reached is searched first. -/
theorem enter (h : graph.Searching ((node, target :: rest) :: outer) progress)
    (hf : target ∈ progress.fresh) :
    graph.Searching ((target, graph.edges target) :: (node, rest) :: outer)
      { progress with fresh := progress.fresh.erase target } where
  conserved := by
    -- The target goes from the fresh nodes to the open searches, and no other node moves.
    refine List.Perm.trans ?_ h.conserved
    simp only [List.map_cons, List.append_assoc, List.cons_append]
    refine List.perm_middle.trans ?_
    rw [← List.cons_append]
    exact List.Perm.append_right _ (List.perm_cons_erase hf).symm
  reached := by
    intro other ho
    rcases List.mem_cons.1 ho with rfl | ho
    · exact .inr ⟨node, h.depends⟩
    · exact h.reached other ho
  linked := by
    have := h.linked
    simp only [List.map_cons] at this ⊢
    exact this.cons_cons h.depends
  waiting := by
    intro entry he
    simp only [List.mem_cons] at he
    rcases he with rfl | rfl | he
    · exact List.Subset.refl _
    · exact fun other ho => h.waiting _ List.mem_cons_self (List.mem_cons_of_mem _ ho)
    · exact h.waiting entry (List.mem_cons_of_mem _ he)
  settled := by
    refine ⟨fun other ho => .inl ho, fun other ho => ?_, h.settled.2⟩
    rcases h.settled.1 other ho with hr | hp | hi
    · rcases List.mem_cons.1 hr with rfl | hr
      · exact .inr (.inr rfl)
      · exact .inl hr
    · exact .inr (.inl hp)
    · cases hi
  ordered := h.ordered

/-- A dependency that has been placed is passed over. -/
theorem pass (h : graph.Searching ((node, target :: rest) :: outer) progress)
    (hf : target ∉ progress.fresh) (ho : target ∉ ((node, target :: rest) :: outer).map Prod.fst) :
    graph.Searching ((node, rest) :: outer) progress where
  conserved := h.conserved
  reached := h.reached
  linked := h.linked
  waiting := by
    intro entry he
    rcases List.mem_cons.1 he with rfl | he
    · exact fun other ho => h.waiting _ List.mem_cons_self (List.mem_cons_of_mem _ ho)
    · exact h.waiting entry (List.mem_cons_of_mem _ he)
  settled := by
    have hplaced : target ∈ progress.placed := h.mem_placed (.inr ⟨node, h.depends⟩) hf ho
    refine ⟨fun other hd => ?_, h.settled.2⟩
    rcases h.settled.1 other hd with hr | hp | hi
    · rcases List.mem_cons.1 hr with rfl | hr
      · exact .inr (.inl hplaced)
      · exact .inl hr
    · exact .inr (.inl hp)
    · cases hi
  ordered := h.ordered

/-- A dependency whose search is open closes a cycle: the open searches from its own one on. -/
theorem isCycle (h : graph.Searching ((node, target :: rest) :: outer) progress)
    (ho : target ∈ Path.nodes ((node, target :: rest) :: outer)) :
    graph.IsCycle (Path.cycle ((node, target :: rest) :: outer) target) := by
  obtain ⟨front, back, hnodes, hback⟩ := exists_dropWhile_eq ho
  have hsuffix : (target :: back) <:+ Path.nodes ((node, target :: rest) :: outer) :=
    ⟨front, hnodes.symm⟩
  have hlast : (target :: back).getLast? = some node := by
    have : (front ++ target :: back).getLast? = some node := by
      rw [← hnodes, Path.nodes, List.map_cons, List.reverse_cons, List.getLast?_concat]
    rwa [List.getLast?_append_of_ne_nil _ (List.cons_ne_nil _ _)] at this
  -- The open searches are kept innermost first, so dependencies lead along their reverse.
  have hchain : (Path.nodes ((node, target :: rest) :: outer)).IsChain graph.Depends :=
    List.isChain_reverse.2 h.linked
  have hnodup : (Path.nodes ((node, target :: rest) :: outer)).Nodup :=
    List.nodup_reverse.2 (List.nodup_append.1 (List.nodup_append.1 h.nodup).1).2.1
  rw [Path.cycle, hback]
  exact {
    long := by simp
    closed := by rw [List.getLast?_concat]; rfl
    simple := by
      rw [List.dropLast_concat]
      exact hnodup.sublist hsuffix.sublist
    linked := by
      refine (hchain.suffix hsuffix).append (.singleton _) ?_
      intro last hl first hf
      rw [hlast] at hl
      cases hl
      cases hf
      exact h.depends }

end Searching

/-! ## The run of a search -/

variable {path : Path} {progress final : Progress} {cycle : List String}

/-- A search that ends has closed all open searches and reached no fewer nodes. -/
theorem searching_of_search (h : graph.Searching path progress)
    (hr : search graph path progress = .ok final) :
    graph.Searching [] final ∧ final.fresh ⊆ progress.fresh := by
  fun_induction search graph path progress with
  | case1 progress =>
    cases hr
    exact ⟨h, List.Subset.refl _⟩
  | case2 progress node outer ih => exact ih h.place hr
  | case3 => cases hr
  | case4 progress node target rest outer ho hf ih =>
    obtain ⟨hs, hsub⟩ := ih (h.enter hf) hr
    exact ⟨hs, fun other hm => List.mem_of_mem_erase (hsub hm)⟩
  | case5 progress node target rest outer ho hf ih =>
    exact ih (h.pass hf (fun hm => ho (by simpa [Path.nodes, or_comm] using hm))) hr

/-- A search that fails has found a cycle. -/
theorem isCycle_of_search (h : graph.Searching path progress)
    (hr : search graph path progress = .error cycle) : graph.IsCycle cycle := by
  fun_induction search graph path progress with
  | case1 => cases hr
  | case2 progress node outer ih => exact ih h.place hr
  | case3 progress node target rest outer ho =>
    cases hr
    exact h.isCycle (by simpa using ho)
  | case4 progress node target rest outer ho hf ih => exact ih (h.enter hf) hr
  | case5 progress node target rest outer ho hf ih =>
    exact ih (h.pass hf (fun hm => ho (by simpa [Path.nodes, or_comm] using hm))) hr

/-- Once a node has been searched from, it has been reached. -/
theorem searching_of_searchFrom {root : String} (h : graph.Searching [] progress)
    (hn : graph.IsNode root) (hr : searchFrom graph progress root = .ok final) :
    graph.Searching [] final ∧ final.fresh ⊆ progress.fresh ∧ root ∉ final.fresh := by
  unfold searchFrom at hr
  split at hr
  · next hf =>
    obtain ⟨hs, hsub⟩ := searching_of_search (h.root hn hf) hr
    have hnodup : progress.fresh.Nodup := (List.nodup_append.1 (List.nodup_append.1 h.nodup).1).1
    exact ⟨hs, fun other hm => List.mem_of_mem_erase (hsub hm),
      fun hm => hnodup.not_mem_erase (hsub hm)⟩
  · next hf =>
    cases hr
    exact ⟨h, List.Subset.refl _, hf⟩

theorem isCycle_of_searchFrom {root : String} (h : graph.Searching [] progress)
    (hn : graph.IsNode root) (hr : searchFrom graph progress root = .error cycle) :
    graph.IsCycle cycle := by
  unfold searchFrom at hr
  split at hr
  · next hf => exact isCycle_of_search (h.root hn hf) hr
  · cases hr

/-- Searches from some nodes reach all of them, or one of the searches finds a cycle. -/
theorem searching_of_searches {roots : List String} (h : graph.Searching [] progress)
    (hn : ∀ root ∈ roots, graph.IsNode root) :
    match roots.foldlM graph.searchFrom progress with
    | .ok final => graph.Searching [] final ∧ final.fresh ⊆ progress.fresh ∧
        ∀ root ∈ roots, root ∉ final.fresh
    | .error cycle => graph.IsCycle cycle := by
  induction roots generalizing progress with
  | nil => exact ⟨h, List.Subset.refl _, by simp⟩
  | cons root rest ih =>
    rw [List.foldlM_cons]
    cases hr : graph.searchFrom progress root with
    | error cycle => exact isCycle_of_searchFrom h (hn root List.mem_cons_self) hr
    | ok next =>
      obtain ⟨hs, hsub, hroot⟩ := searching_of_searchFrom h (hn root List.mem_cons_self) hr
      have hrest := ih hs fun other ho => hn other (List.mem_cons_of_mem _ ho)
      show match rest.foldlM graph.searchFrom next with
        | .ok final => _
        | .error cycle => _
      split <;> rename_i hf <;> rw [hf] at hrest
      · refine ⟨hrest.1, List.Subset.trans hrest.2.1 hsub, ?_⟩
        intro other ho
        rcases List.mem_cons.1 ho with rfl | ho
        · exact fun hm => hroot (hrest.2.1 hm)
        · exact hrest.2.2 other ho
      · exact hrest

/-! ## The order -/

/-- An order holds every node once, after all nodes it depends on. -/
structure IsOrder (graph : Graph) (order : List String) : Prop where
  nodup : order.Nodup
  complete : ∀ node, node ∈ order ↔ graph.IsNode node
  ordered : graph.DependenciesFirst order

/-- With no search open and all listed nodes reached, what has been placed is an order. -/
theorem Searching.isOrder (h : graph.Searching [] final)
    (hroots : ∀ root ∈ graph.map Prod.fst, root ∉ final.fresh) : graph.IsOrder final.placed := by
  have hlisted : ∀ node ∈ graph.map Prod.fst, node ∈ final.placed :=
    fun node hm => h.mem_placed (.inl hm) (hroots node hm) (by simp)
  refine ⟨(List.nodup_append.1 h.nodup).2.1, fun node => ⟨fun hm => h.reached node hm, ?_⟩, h.ordered⟩
  rintro (hm | ⟨source, hd⟩)
  · exact hlisted node hm
  · obtain ⟨targets, he, _⟩ := exists_entry_of_depends hd
    obtain ⟨before, after, heq⟩ := List.append_of_mem (hlisted source (List.mem_map_of_mem he))
    rw [heq]
    exact List.mem_append_left _ (h.ordered _ _ _ heq node hd)

/-- A graph is put into an order, or a cycle of it is found. -/
theorem isOrder_or_isCycle (graph : Graph) :
    match graph.order with
    | .ok order => graph.IsOrder order
    | .error cycle => graph.IsCycle cycle := by
  have hnodes : ∀ root ∈ graph.map Prod.fst, graph.IsNode root := fun root hr => .inl hr
  have h := searching_of_searches (Searching.start graph) hnodes
  have heq : graph.order = (graph.map Prod.fst).foldlM graph.searchFrom
      { fresh := graph.allNodes, placed := [] } >>= fun progress => pure progress.placed := rfl
  rw [heq]
  split at h <;> rename_i hr <;> rw [hr]
  · exact h.1.isOrder h.2.2
  · exact h

theorem IsOrder.not_cyclic {order : List String} (h : graph.IsOrder order) : ¬ graph.Cyclic :=
  h.ordered.not_cyclic h.nodup fun node hn => (h.complete node).2 hn

theorem isOrder_of_declarationOrder {order : List String}
    (h : declarationOrder graph = .ok order) : graph.IsOrder order := by
  have hspec := graph.isOrder_or_isCycle
  unfold declarationOrder at h
  split at h <;> rename_i ho <;> rw [ho] at hspec
  · cases h
    exact hspec
  · cases h

/-- A graph has an order of declarations exactly if none of its nodes depends on itself. The order
    holds every node once and after all nodes it depends on; without an order the failure names a
    cycle. -/
theorem declarationOrder_isOrder_or_isCycle (graph : Graph) :
    ((∃ order, declarationOrder graph = .ok order) ↔ ¬ graph.Cyclic) ∧
      (∀ order, declarationOrder graph = .ok order →
        order.Nodup ∧ (∀ node, node ∈ order ↔ graph.IsNode node) ∧
          graph.DependenciesFirst order) ∧
      (graph.Cyclic → ∃ path, declarationOrder graph = .error (.circularDependency path) ∧
        graph.IsCycle path) := by
  have hspec := graph.isOrder_or_isCycle
  refine ⟨⟨?_, ?_⟩, ?_, ?_⟩
  · rintro ⟨order, ho⟩
    exact (isOrder_of_declarationOrder ho).not_cyclic
  · intro hc
    unfold declarationOrder
    split <;> rename_i ho <;> rw [ho] at hspec
    · exact ⟨_, rfl⟩
    · exact absurd (cyclic_of_isCycle hspec) hc
  · intro order ho
    have h := isOrder_of_declarationOrder ho
    exact ⟨h.nodup, h.complete, h.ordered⟩
  · intro hc
    unfold declarationOrder
    split <;> rename_i ho <;> rw [ho] at hspec
    · exact absurd hc hspec.not_cyclic
    · exact ⟨_, rfl, hspec⟩

end Graph
end RestContract.Schema
