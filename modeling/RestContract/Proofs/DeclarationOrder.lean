import RestContract.Context
import RestContract.Proofs.DependencyWalk
import RestContract.Proofs.Runs

/-!
# Declarations and their dependencies

The declarations of a document are the nodes of its dependency graph in an order that puts
dependencies first. So what a component mentions is declared before the component, whether the
component is declared under its own name or under that of a component which refers to it.
-/

namespace RestContract.Schema

theorem Scope.mem_of_find? {scope : Scope} {ref : Value} {declaration : Declaration}
    (h : scope.find? ref = some declaration) :
    declaration ∈ scope.declarations ∧ ref = .text declaration.ref := by
  unfold Scope.find? at h
  split at h
  · have href := List.find?_some h
    rw [beq_iff_eq] at href
    exact ⟨List.mem_of_find?_eq_some h, by rw [href]⟩
  · cases h

theorem Scope.mem_of_find?_text {scope : Scope} {ref : String} {declaration : Declaration}
    (h : scope.find? (.text ref) = some declaration) :
    declaration ∈ scope.declarations ∧ declaration.ref = ref := by
  obtain ⟨hm, heq⟩ := Scope.mem_of_find? h
  injection heq with heq
  injection heq with heq
  exact ⟨hm, heq.symm⟩

theorem Declaration.exists_of_ofRef {components : Value} {ref : String} {declaration : Declaration}
    (h : Declaration.ofRef components ref = .ok declaration) :
    ∃ r fields, Reference.parse? ref = some r ∧ declaration.name = r.name ∧
      declaration.identifier = Name.identifier r.name ∧ declaration.ref = ref ∧
      Components.resolve components (.text ref) = .ok fields ∧
      Fields.recordFields? fields = some declaration.schema := by
  obtain ⟨r, hp, h⟩ := exists_of_bind_eq_ok h
  obtain ⟨fields, hf, h⟩ := exists_of_bind_eq_ok h
  obtain ⟨text, htext, hparse⟩ := Reference.exists_text_of_parse hp
  cases htext
  split at h
  · next schema hs =>
    cases h
    exact ⟨r, fields, hparse, rfl, rfl, rfl, hf, hs⟩
  · cases h

/-- A scope whose declarations are arranged by their dependencies. -/
structure Scope.Arranged (scope : Scope) (graph : Graph) (named : List (String × Value)) : Prop
    where
  records : graph.Records scope.components named
  order : graph.IsOrder (scope.declarations.map (·.ref))
  made : ∀ declaration ∈ scope.declarations,
    Declaration.ofRef scope.components declaration.ref = .ok declaration

theorem map_ref_of_ofRef {components : Value} {refs : List String} {all : List Declaration}
    (h : List.Forall₂ (fun ref declaration => Declaration.ofRef components ref = .ok declaration)
      refs all) : all.map (·.ref) = refs := by
  induction h with
  | nil => rfl
  | cons h _ ih =>
    obtain ⟨_, _, _, _, _, href, _⟩ := Declaration.exists_of_ofRef h
    rw [List.map_cons, ih, href]

/-- The declarations of a document can be made exactly if its dependencies can be found and ordered
    and each of the references in that order leads to a declaration. -/
theorem result_declarations_eq_ok_iff {document components : Value} {all : List Declaration} :
    (declarations document components).result = .ok all ↔
      ∃ graph refs, dependencies document components = .ok graph ∧
        declarationOrder graph = .ok refs ∧
        List.Forall₂ (fun ref declaration => Declaration.ofRef components ref = .ok declaration)
          refs all := by
  constructor
  · intro h
    obtain ⟨graph, hg, h⟩ := Traced.exists_of_result_bind h
    obtain ⟨refs, hr, h⟩ := Traced.exists_of_result_bind h
    obtain ⟨_, _, h⟩ := Traced.exists_of_result_bind h
    exact ⟨graph, refs, hg, hr, Traced.result_mapM_eq_ok_iff.1 h⟩
  · rintro ⟨graph, refs, hg, hr, hall⟩
    have hall : (refs.mapM fun ref => Traced.lift (Declaration.ofRef components ref)).result =
        .ok all := Traced.result_mapM_eq_ok_iff.2 hall
    simp only [declarations, Traced.result_bind, Traced.result_liftM, Traced.result_note, hg, hr,
      hall, ok_bind]

theorem exists_arranged_of_dependencies {document components : Value} {graph : Graph}
    {refs : List String} {all : List Declaration} (room : Nat)
    (hc : Components.ofDocument document = .ok components)
    (hg : dependencies document components = .ok graph) (hr : declarationOrder graph = .ok refs)
    (hall : List.Forall₂
      (fun ref declaration => Declaration.ofRef components ref = .ok declaration) refs all) :
    ∃ named mark, componentSchemas document = .ok (.map (textFields named) mark) ∧
      Scope.Arranged ⟨components, all, room⟩ graph named := by
  obtain ⟨named, mark, hs, hrecords⟩ := exists_records_of_dependencies hc hg
  refine ⟨named, mark, hs, hrecords, ?_, fun declaration hd => ?_⟩
  · rw [map_ref_of_ofRef hall]
    exact Graph.isOrder_of_declarationOrder hr
  · obtain ⟨ref, _, href⟩ := exists_of_mem_forall₂ hall hd
    obtain ⟨_, _, _, _, _, rfl, _⟩ := Declaration.exists_of_ofRef href
    exact href

theorem exists_arranged_of_declarations {document components : Value} {all : List Declaration}
    (room : Nat) (hc : Components.ofDocument document = .ok components)
    (h : (declarations document components).result = .ok all) :
    ∃ graph named mark, componentSchemas document = .ok (.map (textFields named) mark) ∧
      Scope.Arranged ⟨components, all, room⟩ graph named := by
  obtain ⟨graph, refs, hg, hr, hall⟩ := result_declarations_eq_ok_iff.1 h
  exact ⟨graph, exists_arranged_of_dependencies room hc hg hr hall⟩

end RestContract.Schema

namespace RestContract

/-- A document can be read exactly if its declarations can be made and its operations read. -/
theorem Context.result_ofDocument_eq_ok_iff {document : Value} {context : Context} :
    (Context.ofDocument document).result = .ok context ↔
      Components.ofDocument document = .ok context.scope.components ∧
        (Schema.declarations document context.scope.components).result =
          .ok context.scope.declarations ∧
        (Operation.ofDocument document context.scope.components).result = .ok context.operations ∧
        context.document = document ∧ context.scope.room = usualRoom := by
  constructor
  · intro h
    obtain ⟨components, hc, h⟩ := Traced.exists_of_result_bind h
    obtain ⟨all, hd, h⟩ := Traced.exists_of_result_bind h
    obtain ⟨operations, ho, h⟩ := Traced.exists_of_result_bind h
    obtain ⟨_, _, h⟩ := Traced.exists_of_result_bind h
    cases h
    exact ⟨hc, hd, ho, rfl, rfl⟩
  · rintro ⟨hc, hd, ho, rfl, hr⟩
    simp only [Context.ofDocument, Traced.result_bind, Traced.result_liftM, Traced.result_note,
      Traced.result_pure, hc, hd, ho, ok_bind, ← hr]

end RestContract

namespace RestContract.Schema

/-- The scope of a document that can be read is arranged by dependencies. -/
theorem exists_arranged_of_ofDocument {document : Value} {context : Context}
    (h : (Context.ofDocument document).result = .ok context) :
    ∃ graph named mark, Components.ofDocument document = .ok context.scope.components ∧
      componentSchemas document = .ok (.map (textFields named) mark) ∧
      context.scope.Arranged graph named := by
  obtain ⟨hc, hd, _⟩ := Context.result_ofDocument_eq_ok_iff.1 h
  obtain ⟨graph, named, mark, hs, ha⟩ :=
    exists_arranged_of_declarations context.scope.room hc hd
  exact ⟨graph, named, mark, hc, hs, ha⟩

namespace Scope.Arranged

variable {scope : Scope} {graph : Graph} {named : List (String × Value)}
  {before after : List Declaration} {declaration : Declaration} {fields : Fields}

theorem isNode (h : scope.Arranged graph named) (hd : declaration ∈ scope.declarations) :
    graph.IsNode declaration.ref :=
  (h.order.complete _).1 (List.mem_map_of_mem hd)

/-- What a component mentions is declared before the component. -/
theorem mem_before (h : scope.Arranged graph named)
    (heq : scope.declarations = before ++ declaration :: after)
    (hr : Components.resolve scope.components (.text declaration.ref) = .ok fields) {ref : String}
    (hm : ref ∈ mentions (.ofFields fields)) : ref ∈ before.map (·.ref) := by
  have hd : declaration ∈ scope.declarations := heq ▸ List.mem_append_right _ List.mem_cons_self
  have hpath := h.records.transGen_of_mention (h.isNode hd) hr hm
  have hrefs : scope.declarations.map (·.ref) =
      before.map (·.ref) ++ declaration.ref :: after.map (·.ref) := by
    rw [heq, List.map_append, List.map_cons]
  exact h.order.ordered.mem_of_transGen hrefs hpath

theorem readable (h : scope.Arranged graph named) (hd : declaration ∈ scope.declarations)
    (hr : Components.resolve scope.components (.text declaration.ref) = .ok fields) :
    Readable (.ofFields fields) :=
  h.records.readable_of_resolve (h.isNode hd) hr

end Scope.Arranged

/-- A reference finds the first declaration that it is written like. -/
theorem Scope.exists_find?_of_mem {scope : Scope} {before after : List Declaration} {ref : String}
    (heq : scope.declarations = before ++ after) (hm : ref ∈ before.map (·.ref)) :
    ∃ declaration ∈ before, scope.find? (.text ref) = some declaration := by
  obtain ⟨found, hf, rfl⟩ := List.mem_map.1 hm
  have hsome : (before.find? (·.ref == found.ref)).isSome := by
    rw [List.find?_isSome]
    exact ⟨found, hf, beq_self_eq_true _⟩
  obtain ⟨declaration, hd⟩ := Option.isSome_iff_exists.1 hsome
  refine ⟨declaration, List.mem_of_find?_eq_some hd, ?_⟩
  rw [Scope.find?, heq, List.find?_append, hd, Option.some_or]

end RestContract.Schema

namespace RestContract

theorem Context.operations_of_ofDocument {document : Value} {context : Context}
    (h : (Context.ofDocument document).result = .ok context) :
    (Operation.ofDocument document context.scope.components).result = .ok context.operations :=
  (Context.result_ofDocument_eq_ok_iff.1 h).2.2.1

theorem Context.result_ofDocument {document components : Value} {graph : Schema.Graph}
    {refs : List String} {all : List Schema.Declaration} {operations : List Operation}
    (hc : Components.ofDocument document = .ok components)
    (hg : Schema.dependencies document components = .ok graph)
    (ho : graph.order = .ok refs)
    (hd : refs.mapM (Schema.Declaration.ofRef components) = .ok all)
    (hop : (Operation.ofDocument document components).result = .ok operations) :
    (Context.ofDocument document).result =
      .ok { document, scope := { components, declarations := all }, operations } := by
  have hr : Schema.declarationOrder graph = .ok refs := by rw [Schema.declarationOrder, ho]
  have hdeclared : (Schema.declarations document components).result = .ok all :=
    Schema.result_declarations_eq_ok_iff.2 ⟨graph, refs, hg, hr, mapM_eq_ok_iff.1 hd⟩
  exact Context.result_ofDocument_eq_ok_iff.2 ⟨hc, hdeclared, hop, rfl, rfl⟩

open Schema in
/-- A single component schema that depends on nothing. -/
theorem Context.result_ofDocument_single {document components schema : Value} {name : String}
    {walked : List String} {declaration : Schema.Declaration} {operations : List Operation}
    (hc : Components.ofDocument document = .ok components)
    (hs : componentSchemas document = .ok (.map (textFields [(name, schema)]) none))
    (hw : Walk.run components [(schema, refTo name)] ⟨[(refTo name, [])], [refTo name]⟩ =
      .ok ⟨[(refTo name, [])], walked⟩)
    (hd : Declaration.ofRef components (refTo name) = .ok declaration)
    (hop : (Operation.ofDocument document components).result = .ok operations) :
    (Context.ofDocument document).result =
      .ok { document, scope := { components, declarations := [declaration] }, operations } := by
  have hfold : [(name, schema)].foldlM (fun walk (entry : String × Value) =>
      walkRoot components walk entry.1 entry.2)
      ⟨[(name, schema)].map fun entry => (refTo entry.1, []), []⟩ =
      .ok ⟨[(refTo name, [])], walked⟩ := by
    rw [List.foldlM_cons, walkRoot_of_not_walked (by simp)]
    exact congrArg (· >>= _) hw
  have horder : Graph.order [(refTo name, [])] = .ok [refTo name] :=
    @Graph.order_of_no_targets [refTo name] (List.nodup_singleton _)
  have hdeclared : [refTo name].mapM (Declaration.ofRef components) = .ok [declaration] :=
    mapM_eq_ok_iff.2 (.cons hd .nil)
  exact Context.result_ofDocument hc (dependencies_of_walk hs hfold) horder hdeclared hop

/-- A document with some component schemas and nothing else. -/
def documentOf (schemas : List (String × Value)) : Value :=
  .object [("components", .object [("schemas", .object schemas)])]

open Schema in
theorem Context.result_ofDocument_empty : (Context.ofDocument (documentOf [])).result =
    .ok ⟨documentOf [], { components := .object [("schemas", .object [])], declarations := [] },
      []⟩ := by
  have hs : componentSchemas (documentOf []) = .ok (.map (textFields []) none) := rfl
  have hg : dependencies (documentOf []) (.object [("schemas", .object [])]) = .ok [] :=
    dependencies_of_walk hs rfl
  exact Context.result_ofDocument rfl hg rfl rfl rfl

end RestContract
