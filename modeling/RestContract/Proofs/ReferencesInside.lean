import RestContract.Proofs.OrderableSchemas
import RestContract.Proofs.ReferenceKinds

/-!
# A plain recursion over references

The references inside a schema can be collected by a recursion that knows nothing of owners, of
references that were walked before and of schemas that wait. The walk for the dependency graph finds
the same ones: each component schema that is no reference itself has as its edges what the recursion
collects from it, every reference where it is met first. When the component is walked, and whether a
reference has led to it, makes no difference.

The walk comes to an end. It is a loop over the schemas that wait, and from wherever it starts, a
number of its turns gets through all of them or meets a failure.
-/

namespace RestContract.Schema

open Graph

/-- The references inside a schema. A reference is the only one inside itself, what is no map holds
    none, and another schema holds those of the schemas directly inside it, one after the other. -/
def references (schema : Value) : Except Error (List Value) :=
  match Reference.target? schema with
  | some ref => .ok [ref]
  | none =>
    match schema with
    | .map fields _ =>
      match _ : nested fields with
      | .ok inner => do
        let found ← inner.attach.mapM fun schema => references schema.1
        return found.flatten
      | .error e => .error e
    | _ => .ok []
  termination_by schema.size
  decreasing_by exact size_lt_of_mem_nested ‹_› schema.2 _

variable {components schema ref : Value} {fields : Fields} {mark : Option Nat} {inner : List Value}

theorem references_of_target (h : Reference.target? schema = some ref) :
    references schema = .ok [ref] := by
  rw [references.eq_def, h]

theorem references_leaf (h : ∀ fields mark, schema ≠ .map fields mark) :
    references schema = .ok [] := by
  cases schema with
  | map fields mark => exact absurd rfl (h fields mark)
  | _ => rw [references.eq_def]; rfl

theorem references_map (ht : Reference.target? (.map fields mark) = none)
    (hn : nested fields = .ok inner) :
    references (.map fields mark) = inner.mapM references >>= fun found => .ok found.flatten := by
  rw [references.eq_def, ht]
  dsimp only
  split
  · next found h =>
    cases hn.symm.trans h
    rw [List.mapM_subtype (g := references) fun _ _ => rfl, List.unattach_attach]
    rfl
  · next h => cases hn.symm.trans h

/-! ## Turns of the walk -/

/-- One turn of the walk: it takes up the first schema that waits. What waits is known afterwards, and
    what the walk has found. -/
def Walk.turn (components schema : Value) (owner : String) (waiting : List (Value × String))
    (walk : Walk) : Except Error (List (Value × String) × Walk) :=
  match Reference.target? schema with
  | some (.text ref) =>
    let graph := walk.graph.addEdge owner ref
    if ref ∈ walk.walked then .ok (waiting, { walk with graph })
    else do
      let target ← Components.resolve components (.text ref)
      return ((.ofFields target, ref) :: waiting, { graph, walked := walk.walked ++ [ref] })
  | some ref => do
    let _ ← ref.asKey
    throw (.malformedReference (← ref.shown))
  | none =>
    match schema with
    | .map fields _ => do return ((← nested fields).map (·, owner) ++ waiting, walk)
    | _ => .ok (waiting, walk)

/-- The walk, broken off after a number of turns unless it has come to its end. -/
def Walk.runFor (components : Value) :
    Nat → List (Value × String) → Walk → Option (Except Error Walk)
  | _, [], walk => some (.ok walk)
  | 0, _ :: _, _ => none
  | turns + 1, (schema, owner) :: waiting, walk =>
    match Walk.turn components schema owner waiting walk with
    | .ok (waiting, walk) => Walk.runFor components turns waiting walk
    | .error e => some (.error e)

theorem Walk.exists_runFor_of_turn {owner : String} {waiting next : List (Value × String)}
    {walk later : Walk} {outcome : Except Error Walk}
    (ht : Walk.turn components schema owner waiting walk = .ok (next, later))
    (h : ∃ turns, Walk.runFor components turns next later = some outcome) :
    ∃ turns, Walk.runFor components turns ((schema, owner) :: waiting) walk = some outcome := by
  obtain ⟨turns, h⟩ := h
  refine ⟨turns + 1, ?_⟩
  rw [Walk.runFor, ht]
  exact h

theorem Walk.exists_runFor_of_error {owner : String} {waiting : List (Value × String)}
    {walk : Walk} {e : Error} (ht : Walk.turn components schema owner waiting walk = .error e) :
    ∃ turns, Walk.runFor components turns ((schema, owner) :: waiting) walk = some (.error e) := by
  refine ⟨1, ?_⟩
  rw [Walk.runFor, ht]

/-- At a reference that is no text the walk fails with what is wrong with the reference. -/
theorem Walk.exists_runFor_of_malformed {ref : Value} {owner : String}
    {waiting : List (Value × String)} {walk : Walk} (ht : Reference.target? schema = some ref)
    (hn : ∀ text, ref ≠ .text text) :
    ∃ turns, Walk.runFor components turns ((schema, owner) :: waiting) walk =
      some (ref.asKey >>= fun _ => ref.shown >>= fun text => .error (.malformedReference text)) := by
  have hturn : Walk.turn components schema owner waiting walk =
      ref.asKey >>= fun _ => ref.shown >>= fun text => .error (.malformedReference text) := by
    rw [Walk.turn.eq_def, ht]
    split
    · next text h =>
      cases h
      exact absurd rfl (hn text)
    · next h =>
      cases h
      rfl
    · next h => cases h
  cases hk : ref.asKey with
  | error e => exact Walk.exists_runFor_of_error (by rw [hturn, hk]; rfl)
  | ok key =>
    cases hs : ref.shown with
    | error e => exact Walk.exists_runFor_of_error (by rw [hturn, hk, hs]; rfl)
    | ok text => exact Walk.exists_runFor_of_error (by rw [hturn, hk, hs]; rfl)

/-- A number of turns is enough, wherever the walk starts. -/
theorem Walk.exists_runFor (components : Value) (waiting : List (Value × String)) (walk : Walk) :
    ∃ turns, Walk.runFor components turns waiting walk =
      some (Walk.run components waiting walk) := by
  fun_induction Walk.run components waiting walk with
  | case1 walk => exact ⟨0, rfl⟩
  | case2 walk schema owner waiting ref ht graph hr ih =>
    refine Walk.exists_runFor_of_turn ?_ ih
    simp only [Walk.turn, ht, hr, if_true]
    rfl
  | case3 walk schema owner waiting ref ht graph hr target hres ih =>
    refine Walk.exists_runFor_of_turn ?_ ih
    simp only [Walk.turn, ht, hr, if_false, hres]
    rfl
  | case4 walk schema owner waiting ref ht hr e hres =>
    refine Walk.exists_runFor_of_error ?_
    simp only [Walk.turn, ht, hr, if_false, hres]
    rfl
  | case5 walk schema owner waiting ref hn ht =>
    exact Walk.exists_runFor_of_malformed ht fun text heq => hn text heq
  | case6 walk owner waiting fields mark ht inner hn ih =>
    refine Walk.exists_runFor_of_turn ?_ ih
    simp only [Walk.turn, ht, hn]
    rfl
  | case7 walk owner waiting fields mark ht e hn =>
    refine Walk.exists_runFor_of_error ?_
    simp only [Walk.turn, ht, hn]
    rfl
  | case8 walk schema owner waiting ht hmap ih =>
    refine Walk.exists_runFor_of_turn ?_ ih
    cases schema with
    | map fields mark => exact (hmap fields mark ht rfl HEq.rfl).elim
    | _ => rfl

/-! ## What the recursion collects -/

/-- All references inside a schema are texts, and the recursion collects them. -/
def Legible (schema : Value) : Prop := references schema = .ok ((mentions schema).map .text)

theorem legible_of_target {text : String}
    (h : Reference.target? schema = some (.text text)) : Legible schema := by
  rw [Legible, references_of_target h, mentions_of_target h]
  rfl

theorem legible_leaf (h : ∀ fields mark, schema ≠ .map fields mark) : Legible schema := by
  rw [Legible, references_leaf h, mentions_of_not_target (target?_eq_none h), inside_eq_nil h]
  rfl

theorem legible_map (ht : Reference.target? (.map fields mark) = none)
    (hn : nested fields = .ok inner) (hi : ∀ schema ∈ inner, Legible schema) :
    Legible (.map fields mark) := by
  have hfound : inner.mapM references =
      .ok (inner.map fun schema => (mentions schema).map Value.text) := by
    rw [mapM_eq_ok_iff, List.forall₂_map_right_iff, List.forall₂_same]
    exact hi
  rw [Legible, references_map ht hn, hfound, ok_bind, mentions_of_not_target ht, inside_eq ht hn,
    List.map_flatMap, List.flatMap_def]

/-- Marks do not matter to what the recursion collects. -/
theorem Legible.remark (h : Legible (.map fields mark)) (other : Option Nat) :
    Legible (.map fields other) := by
  have heq : references (.map fields other) = references (.map fields mark) := by
    rw [references.eq_def, references.eq_def (.map fields mark)]
    rfl
  rw [Legible, heq, h, mentions_map fields mark, mentions_map fields other]

/-- A walk that comes to its end has met legible schemas only. -/
theorem Walk.Ends.legible {waiting : List (Value × String)} {walk final : Walk}
    (h : Walk.Ends components waiting walk final) :
    (∀ entry ∈ waiting, Legible entry.1) ∧
      ∀ node ∈ final.walked, node ∈ walk.walked ∨
        ∃ target, Components.resolve components (.text node) = .ok target ∧
          Legible (.ofFields target) := by
  induction h with
  | done => exact ⟨by simp, fun _ => .inl⟩
  | noted ht _ _ ih =>
    obtain ⟨hwaiting, hwalked⟩ := ih
    exact ⟨List.forall_mem_cons.2 ⟨legible_of_target ht, hwaiting⟩, hwalked⟩
  | @followed schema owner ref target waiting walk final ht _ hres _ ih =>
    obtain ⟨hwaiting, hwalked⟩ := ih
    obtain ⟨htarget, hwaiting⟩ := List.forall_mem_cons.1 hwaiting
    refine ⟨List.forall_mem_cons.2 ⟨legible_of_target ht, hwaiting⟩, fun node hm => ?_⟩
    rcases hwalked node hm with hm | hm
    · rw [List.mem_append, List.mem_singleton] at hm
      refine hm.imp_right ?_
      rintro rfl
      exact ⟨target, hres, htarget⟩
    · exact .inr hm
  | @opened fields mark inner owner waiting walk final ht hn _ ih =>
    obtain ⟨hall, hwalked⟩ := ih
    obtain ⟨hinner, hwaiting⟩ := List.forall_mem_append.1 hall
    refine ⟨List.forall_mem_cons.2 ⟨legible_map ht hn ?_, hwaiting⟩, hwalked⟩
    exact fun schema hs => hinner (schema, owner) (List.mem_map_of_mem hs)
  | passed hl _ ih =>
    obtain ⟨hwaiting, hwalked⟩ := ih
    exact ⟨List.forall_mem_cons.2 ⟨legible_leaf hl, hwaiting⟩, hwalked⟩

/-- Some component schemas and everything they lead to have been walked and are legible. -/
structure Walk.Vouches (components : Value) (named : List (String × Value)) (walk : Walk) :
    Prop where
  rooted : ∀ entry ∈ named, refTo entry.1 ∈ walk.walked
  legible : ∀ node ∈ walk.walked, ∃ schema, Source components named node schema ∧ Legible schema

namespace Walk.Vouches

variable {named more : List (String × Value)} {walk final : Walk} {name : String}

theorem walkRoot (h : Walk.Vouches components named walk)
    (hr : walkRoot components walk name schema = .ok final) :
    Walk.Vouches components (named ++ [(name, schema)]) final := by
  have hlegible : ∀ node ∈ walk.walked, ∃ schema',
      Source components (named ++ [(name, schema)]) node schema' ∧ Legible schema' := by
    intro node hm
    obtain ⟨source, hs, hl⟩ := h.legible node hm
    exact ⟨source, hs.append _, hl⟩
  by_cases hw : refTo name ∈ walk.walked
  · rw [walkRoot_of_walked hw] at hr
    cases hr
    refine ⟨List.forall_mem_append.2 ⟨h.rooted, ?_⟩, hlegible⟩
    simpa using hw
  · rw [walkRoot_of_not_walked hw] at hr
    have hends := Walk.ends_of_run hr
    have hkept := (hends.reaches (by simp)).kept
    obtain ⟨hroot, hwalked⟩ := hends.legible
    have hnew : (named ++ [(name, schema)]).lookup name = some schema :=
      lookup_append_of_not_walked h.rooted hw []
    refine ⟨List.forall_mem_append.2 ⟨fun entry he => hkept ?_, ?_⟩, fun node hm => ?_⟩
    · exact List.mem_append_left _ (h.rooted entry he)
    · simpa using hkept (List.mem_append_right _ List.mem_cons_self)
    · rcases hwalked node hm with hm | ⟨target, hres, hl⟩
      · rcases List.mem_append.1 hm with hm | hm
        · exact hlegible node hm
        · rw [List.mem_singleton] at hm
          subst hm
          exact ⟨schema, .written hnew, hroot _ List.mem_cons_self⟩
      · exact ⟨_, .resolved hres, hl⟩

theorem walkRoots (h : Walk.Vouches components named walk)
    (hr : more.foldlM (fun walk (entry : String × Value) =>
      Schema.walkRoot components walk entry.1 entry.2) walk = .ok final) :
    Walk.Vouches components (named ++ more) final :=
  of_foldlM_concat (fun _ _ _ _ hvouches hstep => hvouches.walkRoot hstep) h hr

end Walk.Vouches

theorem vouches_of_walkRoots {named : List (String × Value)} {walk : Walk}
    (h : named.foldlM (fun walk (entry : String × Value) =>
      walkRoot components walk entry.1 entry.2) (Walk.beginning named) = .ok walk) :
    Walk.Vouches components named walk := by
  have hstart : Walk.Vouches components [] (Walk.beginning named) :=
    ⟨by simp, by simp [Walk.beginning]⟩
  exact hstart.walkRoots h

/-! ## The edges of a component schema -/

/-- Adding members one by one keeps each where it is met first. -/
theorem foldl_addOnce_eq (members more : List String) :
    more.foldl addOnce members = members ++ (more.filter (· ∉ members)).eraseDups := by
  induction more generalizing members with
  | nil => simp
  | cons first rest ih =>
    rw [List.foldl_cons, ih]
    by_cases h : first ∈ members
    · simp [addOnce, h]
    · have hrest : rest.filter (· ∉ members ++ [first]) =
          (rest.filter (· ∉ members)).filter fun other => !other == first := by
        rw [List.filter_filter]
        exact List.filter_congr fun other _ => by simp [Bool.and_comm, beq_eq_decide]
      have hadd : addOnce members first = members ++ [first] := by simp [addOnce, h]
      rw [hadd, hrest, List.filter_cons_of_pos (by simpa using h), List.eraseDups_cons,
        List.append_assoc, List.singleton_append]

theorem lookup_eq_edges {graph : Graph} {node : String} (h : node ∈ graph.map Prod.fst) :
    graph.lookup node = some (graph.edges node) := by
  cases hlookup : graph.lookup node with
  | none =>
    obtain ⟨entry, he, rfl⟩ := List.mem_map.1 h
    have hne := List.lookup_eq_none_iff.1 hlookup entry he
    simp at hne
  | some targets => simp [Graph.edges, hlookup]

/-- The node of a component schema that is no reference has no other source. -/
theorem eq_of_source {graph : Graph} {named : List (String × Value)} {name : String}
    (hr : graph.Records components named) (hl : named.lookup name = some (.map fields mark))
    (hp : fields.get? "$ref" = none) (h : Source components named (refTo name) schema) :
    ∃ other, schema = .map fields other := by
  generalize hn : refTo name = node at h
  cases h with
  | @resolved _ target hres =>
    subst hn
    obtain ⟨r, _, steps, _, hleads⟩ := Components.resolve_eq_ok_iff.1 hres
    cases hleads with
    | here hnames _ =>
      obtain ⟨own, hown⟩ := hr.exists_lookup_of_names hnames
      cases hl.symm.trans hown
      exact ⟨none, rfl⟩
    | next hnames htarget _ =>
      obtain ⟨own, hown⟩ := hr.exists_lookup_of_names hnames
      cases hl.symm.trans hown
      cases hp.symm.trans htarget
  | @written other _ hw =>
    have hname := refTo_injective hn
    subst hname
    cases hl.symm.trans hw
    exact ⟨mark, rfl⟩

/-- From wherever it starts, the walk ends after a number of turns. And where it comes to its end,
    each component schema that is no reference itself depends on the references that the plain
    recursion collects from it, in their order and each of them once. -/
theorem dependencies_eq_references {document : Value}
    (hc : Components.ofDocument document = .ok components) :
    (∀ waiting walk, ∃ turns, Walk.runFor components turns waiting walk =
      some (Walk.run components waiting walk)) ∧
    ∀ graph, dependencies document components = .ok graph → ∀ name fields mark,
      HasSchema document name (.map fields mark) → Fields.get? fields "$ref" = none →
      ∃ refs : List String, references (.map fields mark) = .ok (refs.map .text) ∧
        graph.lookup (refTo name) = some refs.eraseDups := by
  refine ⟨Walk.exists_runFor components, ?_⟩
  intro graph hg name fields mark hs hp
  obtain ⟨named, own, walk, hn, hw, rfl⟩ := exists_walk_of_dependencies hg
  obtain ⟨others, _, hn', hrecords⟩ := exists_records_of_dependencies hc hg
  injection hn.symm.trans hn' with hmap
  injection hmap with hfields
  cases textFields_injective hfields
  obtain ⟨_, _, hs, hget⟩ := hs
  cases hn.symm.trans hs
  rw [get?_textFields] at hget
  have hcovers := covers_of_walkRoots hw
  have hvouches := vouches_of_walkRoots hw
  have hentry : (name, Value.map fields mark) ∈ named := by
    obtain ⟨before, after, heq, _⟩ := List.lookup_eq_some_iff.1 hget
    simp [heq]
  have hwalked : refTo name ∈ walk.walked := hcovers.rooted (name, .map fields mark) hentry
  obtain ⟨_, hsource, hedges, _⟩ := hcovers.sourced _ hwalked
  obtain ⟨source, rfl⟩ := eq_of_source hrecords hget hp hsource
  obtain ⟨_, hlegible, hl⟩ := hvouches.legible _ hwalked
  obtain ⟨read, rfl⟩ := eq_of_source hrecords hget hp hlegible
  refine ⟨mentions (.map fields mark), hl.remark mark, ?_⟩
  have hnode : refTo name ∈ walk.graph.map Prod.fst :=
    hcovers.begun (List.mem_map.2 ⟨_, hentry, rfl⟩)
  rw [foldl_addOnce_eq, mentions_map, ← mentions_map fields mark] at hedges
  simpa [hedges] using lookup_eq_edges hnode

/-! ## Schemas that refer to each other -/

def toB : Value := .object [("$ref", .text "#/components/schemas/B")]

def toA : Value := .object [("$ref", .text "#/components/schemas/A")]

/-- A schema that refers to another one twice and to itself in between. -/
def repeating : Fields := textFields [("allOf", .ofItems [toB, toA, toB])]

/-- A schema that refers back. -/
def returning : Fields := textFields [("anyOf", .ofItems [toA])]

def cyclicSchemas : List (String × Value) := [("A", .ofFields repeating), ("B", .ofFields returning)]

def cyclicComponents : Value := .object [("schemas", .object cyclicSchemas)]

def cyclicDocument : Value := .object [("components", cyclicComponents)]

def cyclicGraph : Graph :=
  [("#/components/schemas/A", ["#/components/schemas/B", "#/components/schemas/A"]),
    ("#/components/schemas/B", ["#/components/schemas/A"])]

theorem Walk.run_note {ref owner : String} {waiting : List (Value × String)} {walk : Walk}
    (ht : Reference.target? schema = some (.text ref)) (hw : ref ∈ walk.walked) :
    Walk.run components ((schema, owner) :: waiting) walk =
      Walk.run components waiting { walk with graph := walk.graph.addEdge owner ref } := by
  rw [Walk.run]
  split
  · next h =>
    cases ht.symm.trans h
    rw [dif_pos hw]
  · next hn h =>
    cases ht.symm.trans h
    exact absurd rfl (hn ref)
  · next h => cases ht.symm.trans h

/-- The second schema is walked when the first one refers to it. -/
theorem walkRoot_cyclic : walkRoot cyclicComponents
    ⟨[("#/components/schemas/A", []), ("#/components/schemas/B", [])], []⟩ "A"
      (.ofFields repeating) =
    .ok ⟨cyclicGraph, ["#/components/schemas/A", "#/components/schemas/B"]⟩ := by
  have hA : refTo "A" = "#/components/schemas/A" := by decide
  rw [walkRoot_of_not_walked (by simp), hA]
  refine (Walk.run_map rfl rfl).trans ?_
  refine (Walk.run_follow rfl (by simp) rfl).trans ?_
  refine (Walk.run_map rfl rfl).trans ?_
  refine (Walk.run_note rfl (by simp)).trans ?_
  refine (Walk.run_note rfl (by simp)).trans ?_
  refine (Walk.run_note rfl (by simp)).trans ?_
  exact Walk.run_nil ..

theorem dependencies_cyclic : dependencies cyclicDocument cyclicComponents = .ok cyclicGraph := by
  have hA : refTo "A" = "#/components/schemas/A" := by decide
  have hB : refTo "B" = "#/components/schemas/B" := by decide
  have hs : componentSchemas cyclicDocument = .ok (.map (textFields cyclicSchemas) none) := rfl
  have hfold : cyclicSchemas.foldlM (fun walk (entry : String × Value) =>
      walkRoot cyclicComponents walk entry.1 entry.2)
      ⟨cyclicSchemas.map fun entry => (refTo entry.1, []), []⟩ =
      .ok ⟨cyclicGraph, ["#/components/schemas/A", "#/components/schemas/B"]⟩ := by
    simp only [cyclicSchemas, List.map_cons, List.map_nil, List.foldlM_cons, List.foldlM_nil, hA,
      hB]
    rw [walkRoot_cyclic, ok_bind, walkRoot_of_walked (by simp [hB])]
    rfl
  exact dependencies_of_walk hs hfold

theorem dependencies_eq_references_cyclic :
    Components.ofDocument cyclicDocument = .ok cyclicComponents ∧
      dependencies cyclicDocument cyclicComponents = .ok cyclicGraph ∧
      HasSchema cyclicDocument "A" (.ofFields repeating) ∧
      Fields.get? repeating "$ref" = none ∧
      ∃ refs : List String, references (.ofFields repeating) = .ok (refs.map .text) ∧
        cyclicGraph.lookup (refTo "A") = some refs.eraseDups := by
  have hc : Components.ofDocument cyclicDocument = .ok cyclicComponents := rfl
  have hs : HasSchema cyclicDocument "A" (.ofFields repeating) := ⟨_, _, rfl, rfl⟩
  have hedges := (dependencies_eq_references hc).2 cyclicGraph dependencies_cyclic "A" repeating
    none hs rfl
  exact ⟨hc, dependencies_cyclic, hs, rfl, hedges⟩

end RestContract.Schema
