import RestContract.Schema.Mention

/-!
# Dependencies of component schemas

The graph with a node for each component schema and an edge for each reference that its schema
holds, at any depth. A reference is an edge of the component it stands in; the component it names is
then walked in its own right, once for each way to write the reference.
-/

namespace RestContract.Schema

/-- A directed graph: its nodes, each with the nodes it depends on, in the order of discovery. A
    node that others depend on need not be listed itself. -/
abbrev Graph := List (String × List String)

namespace Graph

/-- The nodes that a node depends on. -/
def edges (graph : Graph) (node : String) : List String := (graph.lookup node).getD []

/-- A list with one more member, unless it is there already. -/
def addOnce (members : List String) (member : String) : List String :=
  if members.contains member then members else members ++ [member]

/-- The graph with one more edge. -/
def addEdge (graph : Graph) (source target : String) : Graph :=
  match graph with
  | [] => [(source, [target])]
  | (node, targets) :: rest =>
    if node = source then (node, addOnce targets target) :: rest
    else (node, targets) :: addEdge rest source target

end Graph

/-- A walk through schemas: the graph so far and the references that were walked or are being
    walked. -/
structure Walk where
  graph : Graph
  walked : List String

/-- The components that are maps. -/
def componentFields (components : Value) : List Fields :=
  match components with
  | .map kinds _ =>
    kinds.flatMap fun (_, named) =>
      match named with
      | .map named _ =>
        named.filterMap fun (_, component) =>
          match component with
          | .map fields _ => some fields
          | _ => none
      | _ => []
  | _ => []

theorem mem_componentFields_of_lookup {components : Value} {r : Reference} {fields : Fields}
    (h : Components.lookup components r = .ok (some fields)) :
    fields ∈ componentFields components := by
  obtain ⟨kinds, hk, hl⟩ := exists_of_bind_eq_ok h
  cases components with
  | map all mark =>
    have heq : all = kinds := Except.ok.inj hk
    subst heq
    split at hl
    · next named namedMark hn =>
      split at hl
      · next found foundMark hf =>
        cases hl
        have hkind : Fields.get? all r.kind.name = some (.map named namedMark) := by
          cases hg : Fields.get? all r.kind.name with
          | none => simp [Fields.get, hg] at hn
          | some value => simpa [Fields.get, hg] using hn
        refine List.mem_flatMap.2 ⟨_, Fields.mem_of_get? hkind, ?_⟩
        exact List.mem_filterMap.2 ⟨_, Fields.mem_of_get? hf, rfl⟩
      · cases hl
    · cases hl
  | _ => cases hk

theorem mem_componentFields_of_named {components ref current : Value} {kind : ComponentKind}
    {fields : Fields} (h : Components.named components ref kind current = .ok fields) :
    fields ∈ componentFields components := by
  obtain ⟨r, _, h⟩ := exists_of_bind_eq_ok h
  split at h
  · obtain ⟨found, hl, h⟩ := exists_of_bind_eq_ok h
    cases found with
    | some found =>
      cases h
      exact mem_componentFields_of_lookup hl
    | none => cases h
  · cases h

theorem mem_componentFields_of_follow {components ref current : Value} {kind : ComponentKind}
    {steps : Nat} {fields : Fields}
    (h : Components.follow components ref kind steps current = .ok fields) :
    fields ∈ componentFields components := by
  induction steps generalizing current with
  | zero =>
    rw [Components.follow] at h
    obtain ⟨found, hn, h⟩ := exists_of_bind_eq_ok h
    split at h
    · cases h
    · cases h
      exact mem_componentFields_of_named hn
  | succ steps ih =>
    rw [Components.follow] at h
    obtain ⟨found, hn, h⟩ := exists_of_bind_eq_ok h
    split at h
    · exact ih h
    · cases h
      exact mem_componentFields_of_named hn

/-- What a reference leads to is one of the components. -/
theorem mem_componentFields_of_resolve {components ref : Value} {fields : Fields}
    (h : Components.resolve components ref = .ok fields) : fields ∈ componentFields components := by
  obtain ⟨r, _, h⟩ := exists_of_bind_eq_ok h
  exact mem_componentFields_of_follow h

/-- All references inside the components. -/
def componentMentions (components : Value) : List String :=
  (componentFields components).flatMap fun fields => mentions (.ofFields fields)

/-- The references that a walk may still follow: those inside the components and inside the schemas
    that wait, unless they have been walked. -/
def Walk.ahead (components : Value) (waiting : List (Value × String)) (walked : List String) :
    Nat :=
  (fresh walked (componentMentions components ++ waiting.flatMap (mentions ·.1))).length

/-- The schemas that a walk takes before it follows another reference. -/
def Walk.before (waiting : List (Value × String)) : Nat := total (waiting.map (extent ·.1))

/-- Between two references a walk follows no more of them, and fewer schemas wait. -/
theorem Walk.lex_of_le {a b c d : Nat} (hac : a ≤ c) (hbd : b < d) :
    Prod.Lex (· < ·) (· < ·) (a, b) (c, d) := by
  rcases Nat.lt_or_eq_of_le hac with h | rfl
  · exact Prod.Lex.left _ _ h
  · exact Prod.Lex.right _ hbd

/-- A schema that has been looked at is out of the way. -/
theorem Walk.lex_of_drop (components : Value) (first : Value × String)
    (waiting : List (Value × String)) (walked : List String) :
    Prod.Lex (· < ·) (· < ·) (Walk.ahead components waiting walked, Walk.before waiting)
      (Walk.ahead components (first :: waiting) walked, Walk.before (first :: waiting)) := by
  refine Walk.lex_of_le (length_fresh_le fun ref hr => ?_) ?_
  · rw [List.flatMap_cons]
    rcases List.mem_append.1 hr with hr | hr
    · exact List.mem_append.2 (.inl hr)
    · exact List.mem_append.2 (.inr (List.mem_append.2 (.inr hr)))
  · simp only [Walk.before, List.map_cons, total, extent_eq first.1]
    omega

/-- A schema that is replaced by the schemas directly inside it is out of the way. -/
theorem Walk.lex_of_inside (components schema : Value) (owner : String)
    (waiting : List (Value × String)) (walked : List String) :
    Prod.Lex (· < ·) (· < ·)
      (Walk.ahead components ((inside schema).map (·, owner) ++ waiting) walked,
        Walk.before ((inside schema).map (·, owner) ++ waiting))
      (Walk.ahead components ((schema, owner) :: waiting) walked,
        Walk.before ((schema, owner) :: waiting)) := by
  refine Walk.lex_of_le (length_fresh_le fun ref hr => ?_) ?_
  · rw [List.flatMap_cons, mentions_eq schema]
    simp only [List.flatMap_append, List.flatMap_map, List.mem_append] at hr ⊢
    rcases hr with hr | hr | hr
    · exact .inl hr
    · exact .inr (.inl (.inr hr))
    · exact .inr (.inr hr)
  · simp only [Walk.before, List.map_append, List.map_map, List.map_cons, total_append, total,
      extent_eq schema]
    have : (fun (entry : Value × String) => extent entry.1) ∘ (·, owner) = extent := rfl
    rw [this]
    omega

/-- A reference that is followed is not followed again. -/
theorem Walk.lex_of_follow {components schema : Value} {ref : String} {target : Fields}
    {walked : List String} (owner : String) (waiting : List (Value × String))
    (ht : Reference.target? schema = some (.text ref)) (hw : ref ∉ walked)
    (hr : Components.resolve components (.text ref) = .ok target) :
    Prod.Lex (· < ·) (· < ·)
      (Walk.ahead components ((.ofFields target, ref) :: waiting) (walked ++ [ref]),
        Walk.before ((.ofFields target, ref) :: waiting))
      (Walk.ahead components ((schema, owner) :: waiting) walked,
        Walk.before ((schema, owner) :: waiting)) := by
  refine Prod.Lex.left _ _ (length_fresh_lt (fun other ho => ?_) ?_ hw)
  · simp only [List.flatMap_cons, List.mem_append] at ho ⊢
    rcases ho with ho | ho | ho
    · exact .inl ho
    · exact .inl (List.mem_flatMap.2 ⟨target, mem_componentFields_of_resolve hr, ho⟩)
    · exact .inr (.inr ho)
  · rw [List.flatMap_cons, mentions_eq schema, ownReference, ht]
    simp

/-- Takes the schemas that wait from the first to the last, each with the reference of the component
    it belongs to. The schemas inside a schema come before all others that wait, and so does the
    component of a reference that is met for the first time. -/
def Walk.run (components : Value) (waiting : List (Value × String)) (walk : Walk) :
    Except Error Walk :=
  match waiting with
  | [] => .ok walk
  | (schema, owner) :: waiting =>
    match _ : Reference.target? schema with
    | some (.text ref) =>
      let graph := walk.graph.addEdge owner ref
      if _ : ref ∈ walk.walked then Walk.run components waiting { walk with graph }
      else
        match _ : Components.resolve components (.text ref) with
        | .ok target =>
          Walk.run components ((.ofFields target, ref) :: waiting)
            { graph, walked := walk.walked ++ [ref] }
        | .error e => .error e
    | some ref => do
      let _ ← ref.asKey
      throw (.malformedReference (← ref.shown))
    | none =>
      match schema with
      | .map fields _ =>
        match _ : nested fields with
        | .ok inner => Walk.run components (inner.map (·, owner) ++ waiting) walk
        | .error e => .error e
      | _ => Walk.run components waiting walk
  termination_by (Walk.ahead components waiting walk.walked, Walk.before waiting)
  decreasing_by
    · exact Walk.lex_of_drop ..
    · exact Walk.lex_of_follow owner waiting ‹_› ‹_› ‹_›
    · next _ ht hn =>
      rw [← inside_eq ht hn]
      exact Walk.lex_of_inside ..
    · exact Walk.lex_of_drop ..

/-- The component schemas of a document by name. -/
def componentSchemas (document : Value) : Except Error Value := do
  let components ← (← Components.ofDocument document).asFields
  return (components.get "schemas").orEmptyMap

/-- The reference to the component schema of a name. -/
def refTo (name : String) : String := Reference.write ⟨.schemas, name⟩

/-- The text of a part of the component schemas that is used as a name. -/
def asName : Value → Except Error String
  | .scalar s => s.asText
  | _ => .error (.fault .noSuchPart)

/-- Walks one component schema, unless a reference led to it before. -/
def walkRoot (components : Value) (walk : Walk) (name : String) (schema : Value) :
    Except Error Walk :=
  let root := refTo name
  if walk.walked.contains root then .ok walk
  else
    Walk.run components [(schema, root)]
      { walk with walked := walk.walked ++ [root] }

/-- The dependency graph of the component schemas of a document. All of them are nodes, in the order
    of the document, before the first is walked. -/
def dependencies (document components : Value) : Except Error Graph := do
  let schemas ← componentSchemas document
  let names ← (← schemas.asParts).mapM asName
  let named := names.zip ((← schemas.asFields).map Prod.snd)
  let start : Walk := { graph := names.map (refTo ·, []), walked := [] }
  let walk ← named.foldlM
    (fun walk (name, schema) => walkRoot components walk name schema) start
  return walk.graph

end RestContract.Schema
