import RestContract.Proofs.OrderableSchemas

/-!
# What is declared, and in which order

The declarations of a document whose component schemas refer to each other by references written
from names: one for each component schema, each with the component that its reference leads to over
any number of others, and each after the declarations of all references that are met in it.
-/

namespace RestContract.Schema

open Graph

theorem Sound.canonical {schema : Value} (h : Sound (fun ref => ∃ name, ref = refTo name) schema) :
    Canonical schema := by
  intro ref hm
  obtain ⟨_, rfl, name, rfl⟩ := h.exists_text_of_meets hm
  exact ⟨name, rfl⟩

theorem recordFields?_of_hasTextKeys {fields : Fields} (h : fields.hasTextKeys = true) :
    Fields.recordFields? fields = some fields := by
  rw [Fields.recordFields?, if_pos h]

section

variable {document components : Value} {named : List (String × Value)} {all : List Declaration}

theorem lists_of_textFields {mark : Option Nat}
    (hc : Components.ofDocument document = .ok components)
    (hs : componentSchemas document = .ok (.map (textFields named) mark))
    (hn : ((textFields named).map Prod.fst).Nodup)
    (hr : ∀ entry ∈ textFields named, Canonical entry.2) : Lists document components named where
  components_eq := hc
  schemas_eq := ⟨mark, hs⟩
  nodup := nodup_keys_textFields.1 hn
  canonical := fun entry he => hr (.text entry.1, entry.2) (List.mem_map_of_mem he)

end

def referring : List (String × Value) :=
  [("type", .text "object"),
    ("properties", .object [("c", .object [("$ref", .text "#/components/schemas/C")])])]

/-- A schema that is a reference to an object, whose property is a reference to a text. -/
def renamedSchemas : List (String × Value) :=
  [("A", .object [("$ref", .text "#/components/schemas/B")]), ("B", .object referring),
    ("C", .object [("type", .text "string")])]

def renamedScope : Scope where
  components := .object [("schemas", .object renamedSchemas)]
  declarations :=
    [⟨"C", "C", "#/components/schemas/C", textFields [("type", .text "string")]⟩,
      ⟨"B", "B", "#/components/schemas/B", textFields referring⟩,
      ⟨"A", "A", "#/components/schemas/A", textFields referring⟩]

def renamedGraph : Graph :=
  [("#/components/schemas/A", ["#/components/schemas/B"]),
    ("#/components/schemas/B", ["#/components/schemas/C"]), ("#/components/schemas/C", [])]

theorem dependencies_renamed :
    dependencies (documentOf renamedSchemas) renamedScope.components = .ok renamedGraph := by
  have hA : refTo "A" = "#/components/schemas/A" := by decide
  have hB : refTo "B" = "#/components/schemas/B" := by decide
  have hC : refTo "C" = "#/components/schemas/C" := by decide
  have hs : componentSchemas (documentOf renamedSchemas) =
      .ok (.map (textFields renamedSchemas) none) := rfl
  let walked := ["#/components/schemas/A", "#/components/schemas/B", "#/components/schemas/C"]
  have hfirst : walkRoot renamedScope.components
      ⟨[("#/components/schemas/A", []), ("#/components/schemas/B", []),
        ("#/components/schemas/C", [])], []⟩ "A"
      (.object [("$ref", .text "#/components/schemas/B")]) = .ok ⟨renamedGraph, walked⟩ := by
    rw [walkRoot_of_not_walked (by simp), hA]
    refine (Walk.run_follow rfl (by simp) rfl).trans ?_
    refine (Walk.run_map rfl rfl).trans ?_
    refine (Walk.run_follow rfl (by simp) rfl).trans ?_
    exact (Walk.run_map rfl rfl).trans (Walk.run_nil ..)
  have hrest : ∀ name schema, refTo name ∈ walked →
      walkRoot renamedScope.components ⟨renamedGraph, walked⟩ name schema =
        .ok ⟨renamedGraph, walked⟩ := fun _ _ hm => walkRoot_of_walked hm
  have hwalk : renamedSchemas.foldlM (fun walk (entry : String × Value) =>
      walkRoot renamedScope.components walk entry.1 entry.2)
      ⟨renamedSchemas.map fun entry => (refTo entry.1, []), []⟩ = .ok ⟨renamedGraph, walked⟩ := by
    simp only [renamedSchemas, List.map_cons, List.map_nil, List.foldlM_cons, List.foldlM_nil, hA,
      hB, hC]
    rw [hfirst, ok_bind, hrest _ _ (by simp [hB, walked]), ok_bind,
      hrest _ _ (by simp [hC, walked]), ok_bind]
    rfl
  exact dependencies_of_walk hs hwalk

theorem order_renamed : declarationOrder renamedGraph =
    .ok ["#/components/schemas/C", "#/components/schemas/B", "#/components/schemas/A"] := by
  simp [declarationOrder, renamedGraph, Graph.order, Graph.allNodes, Graph.addOnce,
    Graph.searchFrom, Graph.search, Graph.edges, Path.nodes, List.lookup_cons, bind, Except.bind, pure,
    Except.pure]

theorem declarations_renamed :
    (declarations (documentOf renamedSchemas) renamedScope.components).result =
      .ok renamedScope.declarations := by
  refine result_declarations_eq_ok_iff.2 ⟨_, _, dependencies_renamed, order_renamed, ?_⟩
  exact mapM_eq_ok_iff.1 rfl

theorem canonical_renamed : ∀ entry ∈ textFields renamedSchemas, Canonical entry.2 := by
  intro entry he
  simp only [renamedSchemas, textFields, List.map_cons, List.map_nil, List.mem_cons,
    List.not_mem_nil, or_false] at he
  rcases he with rfl | rfl | rfl
  · exact Sound.canonical (.reference rfl ⟨"B", by decide⟩)
  · have hn : nested (textFields referring) =
        .ok [.object [("$ref", .text "#/components/schemas/C")]] := rfl
    refine Sound.canonical (.map rfl hn ?_)
    intro schema hs
    rw [List.mem_singleton] at hs
    subst hs
    exact .reference rfl ⟨"C", by decide⟩
  · refine Sound.canonical (.map rfl rfl ?_)
    intro schema hs
    cases hs

end RestContract.Schema
