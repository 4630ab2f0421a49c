import Mathlib.Data.List.Basic
import RestContract.Proofs.DependencyOrder
import RestContract.Proofs.ReferenceText
import RestContract.Proofs.Resolution
import RestContract.Proofs.Runs

/-!
# What a walk through schemas finds

The dependency graph of a document, read off the schemas. A walk adds the references inside a schema
to the edges of the component that owns the schema, each once and in the order of the document, and
walks every component that a reference leads to. So the edges of a node are the references inside
one schema: that of the component which the node resolves to, or, for a component that was walked
before any reference led to it, the component as it is written. The two differ where a component is
a reference itself, and there every reference inside the resolved component is still reached, over
the components in between.
-/

namespace RestContract.Schema

namespace Graph

@[simp] theorem edges_nil (node : String) : edges [] node = [] := rfl

theorem edges_cons (first : String) (targets : List String) (rest : Graph) (node : String) :
    edges ((first, targets) :: rest) node = if node = first then targets else edges rest node := by
  unfold edges
  rw [List.lookup_cons]
  by_cases h : node = first
  · simp [h]
  · have hb : (node == first) = false := by simpa using h
    simp [h, hb]

theorem edges_addEdge (graph : Graph) (source target node : String) :
    (graph.addEdge source target).edges node =
      if node = source then addOnce (graph.edges source) target else graph.edges node := by
  induction graph with
  | nil => simp [addEdge, edges_cons, addOnce]
  | cons head rest ih =>
    obtain ⟨first, targets⟩ := head
    by_cases hs : first = source
    · subst hs
      rw [addEdge, if_pos rfl, edges_cons, edges_cons, edges_cons]
      split <;> simp
    · rw [addEdge, if_neg hs, edges_cons, edges_cons, edges_cons, ih, if_neg (Ne.symm hs)]
      by_cases hn : node = first
      · subst hn
        rw [if_pos rfl, if_pos rfl, if_neg hs]
      · rw [if_neg hn, if_neg hn]

theorem mem_nodes_addEdge {graph : Graph} {source target node : String} :
    node ∈ (graph.addEdge source target).map Prod.fst ↔
      node ∈ graph.map Prod.fst ∨ node = source := by
  induction graph with
  | nil => simp [addEdge]
  | cons head rest ih =>
    obtain ⟨first, targets⟩ := head
    by_cases hs : first = source
    · subst hs
      rw [addEdge, if_pos rfl]
      simp only [List.map_cons, List.mem_cons]
      tauto
    · rw [addEdge, if_neg hs]
      simp only [List.map_cons, List.mem_cons, ih, or_assoc]

end Graph

open Graph

/-! ## References inside a schema -/

theorem inside_of_target {schema ref : Value} (h : Reference.target? schema = some ref) :
    inside schema = [] := by
  cases schema with
  | map fields mark => simp [inside, Value.isReference, h]
  | _ => cases h

/-- A reference mentions what it refers to and nothing else. -/
theorem mentions_of_target {schema : Value} {ref : String}
    (h : Reference.target? schema = some (.text ref)) : mentions schema = [ref] := by
  rw [mentions_eq, ownReference, h, inside_of_target h]
  rfl

/-- What is no reference mentions what the schemas directly inside it mention. -/
theorem mentions_of_not_target {schema : Value} (h : Reference.target? schema = none) :
    mentions schema = (inside schema).flatMap mentions := by
  rw [mentions_eq, ownReference, h]
  rfl

/-- The schemas inside a schema can be read, at any depth. -/
inductive Readable : Value → Prop where
  | reference {schema ref : Value} (h : Reference.target? schema = some ref) : Readable schema
  | leaf {schema : Value} (h : ∀ fields mark, schema ≠ .map fields mark) : Readable schema
  | map {fields inner : _} {mark : Option Nat}
    (h : Reference.target? (.map fields mark) = none) (hn : nested fields = .ok inner)
    (hi : ∀ schema ∈ inner, Readable schema) : Readable (.map fields mark)

/-- The references inside the schemas that wait, as far as they belong to a component. -/
def owned (waiting : List (Value × String)) (owner : String) : List String :=
  (waiting.filter (·.2 = owner)).flatMap fun entry => mentions entry.1

theorem owned_cons (schema : Value) (first : String) (waiting : List (Value × String))
    (owner : String) :
    owned ((schema, first) :: waiting) owner =
      (if first = owner then mentions schema else []) ++ owned waiting owner := by
  by_cases h : first = owner
  · simp [owned, h]
  · simp [owned, h]

theorem owned_inside (inner : List Value) (first : String) (waiting : List (Value × String))
    (owner : String) :
    owned (inner.map (·, first) ++ waiting) owner =
      (if first = owner then inner.flatMap mentions else []) ++ owned waiting owner := by
  induction inner with
  | nil => simp
  | cons schema rest ih =>
    rw [List.map_cons, List.cons_append, owned_cons, ih]
    split <;> simp

theorem owned_eq_nil {waiting : List (Value × String)} {owner : String}
    (h : ∀ entry ∈ waiting, entry.2 ≠ owner) : owned waiting owner = [] := by
  have : waiting.filter (·.2 = owner) = [] := by
    rw [List.filter_eq_nil_iff]
    intro entry he
    simpa using h entry he
  rw [owned, this]
  rfl

/-! ## The run of a walk -/

theorem Walk.run_nil (components : Value) (walk : Walk) :
    Walk.run components [] walk = .ok walk := by
  rw [Walk.run]

theorem Walk.run_map {components : Value} {fields : Fields} {mark : Option Nat} {owner : String}
    {waiting : List (Value × String)} {inner : List Value} {walk : Walk}
    (ht : Reference.target? (.map fields mark) = none) (hn : nested fields = .ok inner) :
    Walk.run components ((.map fields mark, owner) :: waiting) walk =
      Walk.run components (inner.map (·, owner) ++ waiting) walk := by
  rw [Walk.run]
  split
  · next h => cases ht.symm.trans h
  · next h => cases ht.symm.trans h
  · split
    · next heq _ =>
      cases heq
      split
      · next h =>
        cases hn.symm.trans h
        rfl
      · next h => cases hn.symm.trans h
    · next hmap => exact (hmap fields mark ht rfl HEq.rfl).elim

theorem Walk.run_follow {components schema : Value} {owner ref : String} {target : Fields}
    {waiting : List (Value × String)} {walk : Walk}
    (ht : Reference.target? schema = some (.text ref)) (hw : ref ∉ walk.walked)
    (hr : Components.resolve components (.text ref) = .ok target) :
    Walk.run components ((schema, owner) :: waiting) walk =
      Walk.run components ((.ofFields target, ref) :: waiting)
        { graph := walk.graph.addEdge owner ref, walked := walk.walked ++ [ref] } := by
  rw [Walk.run]
  split
  · next h =>
    cases ht.symm.trans h
    rw [dif_neg hw]
    split
    · next h => cases hr.symm.trans h; rfl
    · next h => cases hr.symm.trans h
  · next hn h => cases ht.symm.trans h; exact absurd rfl (hn ref)
  · next h => cases ht.symm.trans h

theorem Walk.run_leaf {components schema : Value} {owner : String}
    {waiting : List (Value × String)} {walk : Walk} (h : ∀ fields mark, schema ≠ .map fields mark) :
    Walk.run components ((schema, owner) :: waiting) walk = Walk.run components waiting walk := by
  cases schema with
  | map fields mark => exact absurd rfl (h fields mark)
  | _ =>
    rw [Walk.run]
    rfl

/-- The walk through the schemas that wait comes to its end, one schema after the other. -/
inductive Walk.Ends (components : Value) : List (Value × String) → Walk → Walk → Prop where
  | done (walk : Walk) : Walk.Ends components [] walk walk
  | noted {schema : Value} {owner ref : String} {waiting : List (Value × String)}
    {walk final : Walk} (ht : Reference.target? schema = some (.text ref)) (hr : ref ∈ walk.walked)
    (h : Walk.Ends components waiting { walk with graph := walk.graph.addEdge owner ref } final) :
    Walk.Ends components ((schema, owner) :: waiting) walk final
  | followed {schema : Value} {owner ref : String} {target : Fields}
    {waiting : List (Value × String)} {walk final : Walk}
    (ht : Reference.target? schema = some (.text ref)) (hr : ref ∉ walk.walked)
    (hres : Components.resolve components (.text ref) = .ok target)
    (h : Walk.Ends components ((.ofFields target, ref) :: waiting)
      { graph := walk.graph.addEdge owner ref, walked := walk.walked ++ [ref] } final) :
    Walk.Ends components ((schema, owner) :: waiting) walk final
  | opened {fields : Fields} {mark : Option Nat} {inner : List Value} {owner : String}
    {waiting : List (Value × String)} {walk final : Walk}
    (ht : Reference.target? (.map fields mark) = none) (hn : nested fields = .ok inner)
    (h : Walk.Ends components (inner.map (·, owner) ++ waiting) walk final) :
    Walk.Ends components ((.map fields mark, owner) :: waiting) walk final
  | passed {schema : Value} {owner : String} {waiting : List (Value × String)} {walk final : Walk}
    (hl : ∀ fields mark, schema ≠ .map fields mark) (h : Walk.Ends components waiting walk final) :
    Walk.Ends components ((schema, owner) :: waiting) walk final

/-- Every other turn of a walk is its failure. -/
theorem Walk.ends_of_run {components : Value} {waiting : List (Value × String)} {walk final : Walk}
    (h : Walk.run components waiting walk = .ok final) :
    Walk.Ends components waiting walk final := by
  fun_induction Walk.run components waiting walk with
  | case1 =>
    cases h
    exact .done _
  | case2 walk schema owner waiting ref ht graph hr ih => exact .noted ht hr (ih h)
  | case3 walk schema owner waiting ref ht graph hr target hres ih =>
    exact .followed ht hr hres (ih h)
  | case4 | case7 => cases h
  | case5 =>
    -- A reference that is no text ends the walk.
    obtain ⟨_, _, h⟩ := exists_of_bind_eq_ok h
    obtain ⟨_, _, h⟩ := exists_of_bind_eq_ok h
    cases h
  | case6 walk owner waiting fields mark ht inner hn ih => exact .opened ht hn (ih h)
  | case8 walk schema owner waiting ht hmap ih =>
    refine .passed ?_ (ih h)
    rintro fields mark rfl
    exact hmap fields mark ht rfl HEq.rfl

/-- How far a walk has come when it is through with the schemas that wait. -/
structure Walk.Reaches (components : Value) (waiting : List (Value × String)) (walk final : Walk) :
    Prop where
  kept : walk.walked ⊆ final.walked
  grown : walk.graph.map Prod.fst ⊆ final.graph.map Prod.fst
  /-- A component that was being walked has the references inside the schemas that waited for it. -/
  added : ∀ node ∈ walk.walked,
    final.graph.edges node = (owned waiting node).foldl addOnce (walk.graph.edges node)
  /-- A component that a reference led to has the references inside it. -/
  found : ∀ node ∈ final.walked, node ∉ walk.walked →
    ∃ target, Components.resolve components (.text node) = .ok target ∧
      final.graph.edges node =
        (mentions (.ofFields target)).foldl addOnce (walk.graph.edges node) ∧
      mentions (.ofFields target) ⊆ final.walked ∧ Readable (.ofFields target)
  unmet : ∀ node, node ∉ final.walked → final.graph.edges node = walk.graph.edges node
  followed : ∀ owner, owned waiting owner ⊆ final.walked
  readable : ∀ entry ∈ waiting, Readable entry.1
  listed : ∀ node ∈ final.graph.map Prod.fst,
    node ∈ walk.graph.map Prod.fst ∨ node ∈ final.walked

namespace Walk.Reaches

variable {components schema : Value} {waiting more : List (Value × String)} {walk final : Walk}
  {owner ref : String} {target : Fields}

theorem refl (walk : Walk) : Walk.Reaches components [] walk walk where
  kept := List.Subset.refl _
  grown := List.Subset.refl _
  added := fun _ _ => rfl
  found := fun _ hm hn => absurd hm hn
  unmet := fun _ _ => rfl
  followed := by simp [owned]
  readable := by simp
  listed := fun _ hm => .inl hm

/-- Only the references inside the schemas that wait count, not how they are spread. -/
theorem congr (h : Walk.Reaches components more walk final)
    (heq : ∀ owner, owned waiting owner = owned more owner)
    (hread : ∀ entry ∈ waiting, Readable entry.1) :
    Walk.Reaches components waiting walk final where
  kept := h.kept
  grown := h.grown
  added := fun node hm => by rw [heq, h.added node hm]
  found := h.found
  unmet := h.unmet
  followed := fun owner => by rw [heq]; exact h.followed owner
  readable := hread
  listed := h.listed

/-- A reference whose component is walked, before it or after it, is noted. -/
theorem note (ht : Reference.target? schema = some (.text ref)) (ho : owner ∈ walk.walked)
    (hr : ref ∈ final.walked)
    (h : Walk.Reaches components waiting { walk with graph := walk.graph.addEdge owner ref }
      final) :
    Walk.Reaches components ((schema, owner) :: waiting) walk final where
  kept := h.kept
  grown := fun _ hm => h.grown (mem_nodes_addEdge.2 (.inl hm))
  added := by
    intro node hm
    rw [h.added node hm, owned_cons, mentions_of_target ht, edges_addEdge]
    by_cases heq : node = owner
    · subst heq
      simp
    · simp [heq, Ne.symm heq]
  found := by
    intro node hm hn
    obtain ⟨target, hres, hedges, hsub⟩ := h.found node hm hn
    have hne : node ≠ owner := fun heq => hn (heq ▸ ho)
    refine ⟨target, hres, ?_, hsub⟩
    rw [hedges, edges_addEdge, if_neg hne]
  unmet := by
    intro node hn
    have hne : node ≠ owner := fun heq => hn (h.kept (heq ▸ ho))
    rw [h.unmet node hn, edges_addEdge, if_neg hne]
  followed := by
    intro other
    rw [owned_cons, mentions_of_target ht]
    refine List.append_subset.2 ⟨?_, h.followed other⟩
    split
    · simpa using hr
    · simp
  readable := by
    intro entry he
    rcases List.mem_cons.1 he with rfl | he
    · exact .reference ht
    · exact h.readable entry he
  listed := by
    intro node hm
    rcases h.listed node hm with hg | hf
    · refine (mem_nodes_addEdge.1 hg).imp_right fun heq => ?_
      subst heq
      exact h.kept ho
    · exact .inr hf

/-- A component that is walked for the first time is found. The walk through the rest is not affected,
    since nothing of it belongs to the component. -/
theorem enter (hw : ∀ entry ∈ waiting, entry.2 ∈ walk.walked) (hr : ref ∉ walk.walked)
    (hres : Components.resolve components (.text ref) = .ok target)
    (h : Walk.Reaches components ((.ofFields target, ref) :: waiting)
      { walk with walked := walk.walked ++ [ref] } final) :
    Walk.Reaches components waiting walk final where
  kept := fun _ hm => h.kept (List.mem_append_left _ hm)
  grown := h.grown
  added := by
    intro node hm
    have hne : ref ≠ node := fun heq => hr (heq ▸ hm)
    rw [h.added node (List.mem_append_left _ hm), owned_cons, if_neg hne, List.nil_append]
  found := by
    intro node hm hn
    by_cases heq : node = ref
    · subst heq
      have hnone : owned waiting node = [] :=
        owned_eq_nil fun entry he heq => hr (heq ▸ hw entry he)
      have howned : owned ((.ofFields target, node) :: waiting) node = mentions (.ofFields target) := by
        rw [owned_cons, if_pos rfl, hnone, List.append_nil]
      exact ⟨target, hres, howned ▸ h.added node (by simp), howned ▸ h.followed node,
        h.readable _ List.mem_cons_self⟩
    · exact h.found node hm (by simp [hn, heq])
  unmet := h.unmet
  followed := by
    intro other
    have hrest := h.followed other
    rw [owned_cons, List.append_subset] at hrest
    exact hrest.2
  readable := fun entry he => h.readable entry (List.mem_cons_of_mem _ he)
  listed := h.listed

/-- A reference that is met for the first time is noted, and what it leads to is walked. -/
theorem follow (ht : Reference.target? schema = some (.text ref)) (ho : owner ∈ walk.walked)
    (hw : ∀ entry ∈ waiting, entry.2 ∈ walk.walked) (hr : ref ∉ walk.walked)
    (hres : Components.resolve components (.text ref) = .ok target)
    (h : Walk.Reaches components ((.ofFields target, ref) :: waiting)
      { graph := walk.graph.addEdge owner ref, walked := walk.walked ++ [ref] } final) :
    Walk.Reaches components ((schema, owner) :: waiting) walk final := by
  have hrest : Walk.Reaches components waiting { walk with graph := walk.graph.addEdge owner ref }
      final := enter hw hr hres h
  exact hrest.note ht ho (h.kept (by simp))

/-- In place of a schema that is no reference, the schemas directly inside it can wait. -/
theorem descend (ht : Reference.target? schema = none)
    (hread : (∀ inner ∈ inside schema, Readable inner) → Readable schema)
    (h : Walk.Reaches components ((inside schema).map (·, owner) ++ waiting) walk final) :
    Walk.Reaches components ((schema, owner) :: waiting) walk final := by
  refine h.congr (fun other => ?_) fun entry he => ?_
  · rw [owned_cons, owned_inside, mentions_of_not_target ht]
  · rcases List.mem_cons.1 he with rfl | he
    · exact hread fun inner hi =>
        h.readable (inner, owner) (List.mem_append_left _ (List.mem_map_of_mem hi))
    · exact h.readable entry (List.mem_append_right _ he)

end Walk.Reaches

/-- What is no map is no reference. -/
theorem target?_eq_none {schema : Value} (h : ∀ fields mark, schema ≠ .map fields mark) :
    Reference.target? schema = none := by
  cases schema with
  | map fields mark => exact absurd rfl (h fields mark)
  | _ => rfl

/-- What is no map holds no schemas. -/
theorem inside_eq_nil {schema : Value} (h : ∀ fields mark, schema ≠ .map fields mark) :
    inside schema = [] := by
  cases schema with
  | map fields mark => exact absurd rfl (h fields mark)
  | _ => rfl

/-- A walk that comes to its end has been through everything that waited. -/
theorem Walk.Ends.reaches {components : Value} {waiting : List (Value × String)}
    {walk final : Walk} (h : Walk.Ends components waiting walk final)
    (hw : ∀ entry ∈ waiting, entry.2 ∈ walk.walked) :
    Walk.Reaches components waiting walk final := by
  induction h with
  | done walk => exact .refl walk
  | noted ht hr _ ih =>
    obtain ⟨howner, hwaiting⟩ := List.forall_mem_cons.1 hw
    have hrest := ih hwaiting
    exact .note ht howner (hrest.kept hr) hrest
  | followed ht hr hres _ ih =>
    obtain ⟨howner, hwaiting⟩ := List.forall_mem_cons.1 hw
    refine .follow ht howner hwaiting hr hres (ih (List.forall_mem_cons.2 ⟨by simp, ?_⟩))
    exact fun entry he => List.mem_append_left _ (hwaiting entry he)
  | @opened fields mark inner owner waiting walk final ht hn _ ih =>
    obtain ⟨howner, hwaiting⟩ := List.forall_mem_cons.1 hw
    have hinner : ∀ entry ∈ inner.map (·, owner), entry.2 ∈ walk.walked := by
      intro entry he
      obtain ⟨schema, _, rfl⟩ := List.mem_map.1 he
      exact howner
    have hrest := ih (List.forall_mem_append.2 ⟨hinner, hwaiting⟩)
    have hinside : inside (.map fields mark) = inner := inside_eq ht hn
    rw [← hinside] at hrest
    exact hrest.descend ht fun hi => .map ht hn (hinside ▸ hi)
  | @passed schema owner waiting walk final hl _ ih =>
    have ht : Reference.target? schema = none := target?_eq_none hl
    have hrest : Walk.Reaches components ((inside schema).map (·, owner) ++ waiting) walk final := by
      rw [inside_eq_nil hl]
      exact ih (List.forall_mem_cons.1 hw).2
    exact hrest.descend ht fun _ => .leaf hl

/-- A walk follows only references of a kind that passes on to what they lead to. -/
theorem Walk.Ends.walked {components : Value} {P : String → Prop}
    (hP : ∀ ref target, P ref → Components.resolve components (.text ref) = .ok target →
      ∀ other ∈ mentions (.ofFields target), P other)
    {waiting : List (Value × String)} {walk final : Walk}
    (h : Walk.Ends components waiting walk final)
    (hw : ∀ entry ∈ waiting, ∀ ref ∈ mentions entry.1, P ref) :
    ∀ ref ∈ final.walked, ref ∈ walk.walked ∨ P ref := by
  induction h with
  | done => exact fun _ => .inl
  | noted _ _ _ ih => exact ih (List.forall_mem_cons.1 hw).2
  -- A new reference is of the kind itself, and what it leads to mentions only such references.
  | @followed schema owner ref target waiting walk final ht _ hres _ ih =>
    obtain ⟨hfirst, hwaiting⟩ := List.forall_mem_cons.1 hw
    have href : P ref := by
      refine hfirst ref ?_
      rw [mentions_of_target ht]
      exact List.mem_singleton_self ref
    intro other hm
    rcases ih (List.forall_mem_cons.2 ⟨hP ref target href hres, hwaiting⟩) other hm with hm | hm
    · rw [List.mem_append, List.mem_singleton] at hm
      refine hm.imp_right ?_
      rintro rfl
      exact href
    · exact .inr hm
  -- What a schema inside mentions, the schema around it mentions as well.
  | opened ht hn _ ih =>
    obtain ⟨hfirst, hwaiting⟩ := List.forall_mem_cons.1 hw
    refine ih (List.forall_mem_append.2 ⟨fun entry he ref hm => ?_, hwaiting⟩)
    obtain ⟨schema, hs, rfl⟩ := List.mem_map.1 he
    refine hfirst ref ?_
    rw [mentions_of_not_target ht, inside_eq ht hn]
    exact List.mem_flatMap.2 ⟨schema, hs, hm⟩
  | passed _ _ ih => exact ih (List.forall_mem_cons.1 hw).2

/-! ## The walk from every component -/

/-- A name whose component has not been walked is not one of those that have been. -/
theorem lookup_append_of_not_walked {named : List (String × Value)} {walked : List String}
    {name : String} {schema : Value} (h : ∀ entry ∈ named, refTo entry.1 ∈ walked)
    (hn : refTo name ∉ walked) (more : List (String × Value)) :
    (named ++ (name, schema) :: more).lookup name = some schema := by
  have hnone : named.lookup name = none := by
    rw [List.lookup_eq_none_iff]
    intro entry he
    simp only [ne_eq, bne_iff_ne]
    rintro rfl
    exact hn (h entry he)
  rw [List.lookup_append, hnone]
  simp

/-- The schema whose references a node depends on: the component that the node resolves to, or the
    component schema of its name as it is written. -/
inductive Source (components : Value) (named : List (String × Value)) : String → Value → Prop where
  | resolved {node : String} {target : Fields}
    (h : Components.resolve components (.text node) = .ok target) :
    Source components named node (.ofFields target)
  | written {name : String} {schema : Value} (h : named.lookup name = some schema) :
    Source components named (refTo name) schema

theorem Source.append {components : Value} {named : List (String × Value)} {node : String}
    {schema : Value} (h : Source components named node schema) (more : List (String × Value)) :
    Source components (named ++ more) node schema := by
  cases h with
  | resolved h => exact .resolved h
  | written h => exact .written (by rw [List.lookup_append, h, Option.some_or])

/-- A walk that began with some nodes has been through some component schemas and everything they
    lead to. -/
structure Walk.Covers (components : Value) (start : List String) (named : List (String × Value))
    (walk : Walk) : Prop where
  rooted : ∀ entry ∈ named, refTo entry.1 ∈ walk.walked
  sourced : ∀ node ∈ walk.walked, ∃ schema, Source components named node schema ∧
    walk.graph.edges node = (mentions schema).foldl addOnce [] ∧
      mentions schema ⊆ walk.walked ∧ Readable schema
  unmet : ∀ node, node ∉ walk.walked → walk.graph.edges node = []
  begun : start ⊆ walk.graph.map Prod.fst
  listed : ∀ node ∈ walk.graph.map Prod.fst, node ∈ start ∨ node ∈ walk.walked

namespace Walk.Covers

variable {components schema : Value} {start : List String} {named : List (String × Value)}
  {walk final : Walk} {name : String}

theorem mono (h : Walk.Covers components start named walk) (hw : refTo name ∈ walk.walked) :
    Walk.Covers components start (named ++ [(name, schema)]) walk where
  rooted := by
    intro entry he
    rcases List.mem_append.1 he with he | he
    · exact h.rooted entry he
    · rw [List.mem_singleton] at he
      subst he
      exact hw
  sourced := by
    intro node hm
    obtain ⟨source, hs, hrest⟩ := h.sourced node hm
    exact ⟨source, hs.append _, hrest⟩
  unmet := h.unmet
  begun := h.begun
  listed := h.listed

/-- The walk from one more component schema. -/
theorem root (h : Walk.Covers components start named walk) (hn : refTo name ∉ walk.walked)
    (hr : Walk.Reaches components [(schema, refTo name)]
      { walk with walked := walk.walked ++ [refTo name] } final) :
    Walk.Covers components start (named ++ [(name, schema)]) final where
  rooted := by
    intro entry he
    rcases List.mem_append.1 he with he | he
    · exact hr.kept (List.mem_append_left _ (h.rooted entry he))
    · rw [List.mem_singleton] at he
      subst he
      exact hr.kept (by simp)
  sourced := by
    have howned : owned [(schema, refTo name)] (refTo name) = mentions schema := by simp [owned]
    intro node hm
    by_cases hw : node ∈ walk.walked
    · obtain ⟨source, hs, hedges, hsub, hread⟩ := h.sourced node hw
      have hne : refTo name ≠ node := fun heq => hn (heq ▸ hw)
      have hnone : owned [(schema, refTo name)] node = [] := by simp [owned, hne]
      refine ⟨source, hs.append _, ?_, ?_, hread⟩
      case refine_2 => exact fun _ hm => hr.kept (List.mem_append_left _ (hsub hm))
      rw [hr.added node (List.mem_append_left _ hw), hnone, ← hedges]
      rfl
    · by_cases heq : node = refTo name
      · subst heq
        refine ⟨schema, .written (lookup_append_of_not_walked h.rooted hn []), ?_,
          howned ▸ hr.followed (refTo name), hr.readable _ List.mem_cons_self⟩
        rw [hr.added _ (by simp), howned, h.unmet _ hw]
      · obtain ⟨target, hres, hedges, hsub⟩ := hr.found node hm (by simp [hw, heq])
        refine ⟨_, .resolved hres, ?_, hsub⟩
        rw [hedges, h.unmet node hw]
  unmet := by
    intro node hm
    rw [hr.unmet node hm]
    exact h.unmet node fun hw => hm (hr.kept (List.mem_append_left _ hw))
  begun := fun _ hm => hr.grown (h.begun hm)
  listed := by
    intro node hm
    rcases hr.listed node hm with hg | hf
    · exact (h.listed node hg).imp_right fun hw => hr.kept (List.mem_append_left _ hw)
    · exact .inr hf

theorem walkRoot (h : Walk.Covers components start named walk)
    (hr : walkRoot components walk name schema = .ok final) :
    Walk.Covers components start (named ++ [(name, schema)]) final := by
  simp only [Schema.walkRoot] at hr
  split at hr
  · next hw =>
    cases hr
    exact h.mono (by simpa using hw)
  · next hw => exact h.root (by simpa using hw) ((ends_of_run hr).reaches (by simp))

theorem walkRoots {more : List (String × Value)} (h : Walk.Covers components start named walk)
    (hr : more.foldlM (fun walk (entry : String × Value) =>
      Schema.walkRoot components walk entry.1 entry.2) walk = .ok final) :
    Walk.Covers components start (named ++ more) final :=
  of_foldlM_concat (fun _ _ _ _ hcovers hstep => hcovers.walkRoot hstep) h hr

end Walk.Covers

/-! ## The graph of a document -/

/-- Named values as the fields of a map. -/
def textFields (named : List (String × Value)) : Fields :=
  named.map fun (name, value) => (.text name, value)

theorem get?_textFields (named : List (String × Value)) (name : String) :
    (textFields named).get? name = named.lookup name := by
  induction named with
  | nil => rfl
  | cons entry rest ih =>
    obtain ⟨first, value⟩ := entry
    rw [textFields, List.map_cons, Fields.get?, List.lookup_cons, ← textFields, ih]
    by_cases h : first = name
    · simp [h]
    · have hb : (name == first) = false := by simpa using Ne.symm h
      simp [h, hb]

/-- Where all keys are used as names, they are texts. -/
theorem eq_textFields_of_asName {fields : Fields} {names : List String}
    (h : (fields.map fun (entry : Scalar × Value) => Value.scalar entry.1).mapM asName = .ok names) :
    (names.zip (fields.map Prod.snd)).map Prod.fst = names ∧
      textFields (names.zip (fields.map Prod.snd)) = fields := by
  induction fields generalizing names with
  | nil =>
    cases h
    exact ⟨rfl, rfl⟩
  | cons entry rest ih =>
    obtain ⟨key, value⟩ := entry
    rw [List.map_cons, List.mapM_cons] at h
    obtain ⟨name, hk, h⟩ := exists_of_bind_eq_ok h
    obtain ⟨others, ho, h⟩ := exists_of_bind_eq_ok h
    cases h
    have hkey : Scalar.text name = key := by
      cases key with
      | text s =>
        cases hk
        rfl
      | _ => cases hk
    subst hkey
    obtain ⟨hnames, hfields⟩ := ih ho
    rw [List.map_cons, List.zip_cons_cons, List.map_cons, hnames]
    exact ⟨rfl, congrArg _ hfields⟩

theorem edges_of_no_targets {graph : Graph} (h : ∀ entry ∈ graph, entry.2 = []) (node : String) :
    graph.edges node = [] := by
  induction graph with
  | nil => rfl
  | cons entry rest ih =>
    obtain ⟨first, targets⟩ := entry
    rw [edges_cons, ih fun entry he => h entry (List.mem_cons_of_mem _ he)]
    split
    · exact h (first, targets) List.mem_cons_self
    · rfl

theorem Graph.foldl_addOnce_of_nodup {placed nodes : List String} (h : (placed ++ nodes).Nodup) :
    nodes.foldl addOnce placed = placed ++ nodes := by
  induction nodes generalizing placed with
  | nil => simp
  | cons node rest ih =>
    have hn : node ∉ placed := fun hm => List.disjoint_of_nodup_append h hm List.mem_cons_self
    have hadd : addOnce placed node = placed ++ [node] := by simp [addOnce, hn]
    rw [List.foldl_cons, hadd, ih (by simpa using h)]
    simp

theorem Graph.searches_of_no_targets {graph : Graph} (hg : ∀ entry ∈ graph, entry.2 = [])
    (nodes placed : List String) :
    nodes.foldlM graph.searchFrom ⟨nodes, placed⟩ = .ok ⟨[], placed ++ nodes⟩ := by
  induction nodes generalizing placed with
  | nil => simp [pure, Except.pure]
  | cons node rest ih =>
    have hnode : graph.searchFrom ⟨node :: rest, placed⟩ node = .ok ⟨rest, placed ++ [node]⟩ := by
      rw [searchFrom, if_pos List.mem_cons_self, edges_of_no_targets hg]
      simp [search]
    rw [List.foldlM_cons, hnode, ok_bind, ih]
    simp

/-- Nodes that depend on nothing are ordered as they stand. -/
theorem Graph.order_of_no_targets {nodes : List String} (h : nodes.Nodup) :
    Graph.order (nodes.map (·, [])) = .ok nodes := by
  have hall : Graph.allNodes (nodes.map (·, [])) = nodes := by
    simpa [allNodes, List.flatMap_map] using @foldl_addOnce_of_nodup [] nodes h
  have hkeys : (nodes.map fun node => (node, ([] : List String))).map Prod.fst = nodes := by
    rw [List.map_map]
    exact List.map_id _
  rw [order, hall, hkeys, searches_of_no_targets (by simp)]
  rfl

/-- The component schemas in turn, before the first of them has been walked. -/
def Walk.beginning (named : List (String × Value)) : Walk where
  graph := named.map fun entry => (refTo entry.1, [])
  walked := []

/-- The graph of a document is what a walk through all of its component schemas leaves behind. -/
theorem exists_walk_of_dependencies {document components : Value} {graph : Graph}
    (h : dependencies document components = .ok graph) :
    ∃ named mark walk, componentSchemas document = .ok (.map (textFields named) mark) ∧
      named.foldlM (fun walk (entry : String × Value) => walkRoot components walk entry.1 entry.2)
        (Walk.beginning named) = .ok walk ∧ walk.graph = graph := by
  obtain ⟨schemas, hs, h⟩ := exists_of_bind_eq_ok h
  obtain ⟨keys, hk, h⟩ := exists_of_bind_eq_ok h
  obtain ⟨names, hn, h⟩ := exists_of_bind_eq_ok h
  obtain ⟨fields, hf, h⟩ := exists_of_bind_eq_ok h
  obtain ⟨walk, hw, h⟩ := exists_of_bind_eq_ok h
  cases h
  cases schemas with
  | map all mark =>
    cases hf
    cases hk
    obtain ⟨hnames, hfields⟩ := eq_textFields_of_asName hn
    have hstart : names.map (refTo ·, ([] : List String)) =
        (names.zip (fields.map Prod.snd)).map fun entry => (refTo entry.1, []) := by
      conv_lhs => rw [← hnames, List.map_map]
      rfl
    refine ⟨names.zip (fields.map Prod.snd), mark, walk, by rw [hfields, hs], ?_, rfl⟩
    rw [Walk.beginning, ← hstart]
    exact hw
  | _ => cases hf

theorem covers_of_walkRoots {components : Value} {named : List (String × Value)} {walk : Walk}
    (h : named.foldlM (fun walk (entry : String × Value) =>
      walkRoot components walk entry.1 entry.2) (Walk.beginning named) = .ok walk) :
    Walk.Covers components (named.map (refTo ·.1)) named walk := by
  have hstart : Walk.Covers components (named.map (refTo ·.1)) [] (Walk.beginning named) :=
    { rooted := by simp
      sourced := by simp [Walk.beginning]
      unmet := fun node _ => edges_of_no_targets (by simp [Walk.beginning]) node
      begun := fun node hm => by simpa [Walk.beginning] using hm
      listed := fun node hm => .inl (by simpa [Walk.beginning] using hm) }
  exact hstart.walkRoots h

/-- A walk through all component schemas has been through all nodes of its graph. -/
theorem Walk.Covers.mem_walked {components : Value} {named : List (String × Value)} {walk : Walk}
    (h : Walk.Covers components (named.map (refTo ·.1)) named walk) {node : String}
    (hn : walk.graph.IsNode node) : node ∈ walk.walked := by
  have hwalked : ∀ node ∈ walk.graph.map Prod.fst, node ∈ walk.walked := by
    intro node hm
    rcases h.listed node hm with hstart | hw
    · obtain ⟨entry, he, rfl⟩ := List.mem_map.1 hstart
      exact h.rooted entry he
    · exact hw
  rcases hn with hm | ⟨source, hd⟩
  · exact hwalked node hm
  · obtain ⟨targets, he, _⟩ := exists_entry_of_depends hd
    obtain ⟨schema, _, hedges, hsub, _⟩ :=
      h.sourced source (hwalked source (List.mem_map_of_mem he))
    rw [Depends, hedges, mem_foldl_addOnce] at hd
    exact hsub (hd.resolve_left (by simp))

theorem mapM_asName_textFields (named : List (String × Value)) :
    ((textFields named).map fun (entry : Scalar × Value) => Value.scalar entry.1).mapM asName =
      .ok (named.map Prod.fst) := by
  induction named with
  | nil => rfl
  | cons entry rest ih =>
    have hcons : textFields (entry :: rest) = (.text entry.1, entry.2) :: textFields rest := rfl
    rw [hcons, List.map_cons, List.mapM_cons, ih]
    rfl

theorem zip_textFields (named : List (String × Value)) :
    (named.map Prod.fst).zip ((textFields named).map Prod.snd) = named := by
  induction named with
  | nil => rfl
  | cons entry rest ih =>
    have hcons : textFields (entry :: rest) = (.text entry.1, entry.2) :: textFields rest := rfl
    rw [hcons, List.map_cons, List.map_cons, List.zip_cons_cons, ih]

/-- A walk from each component schema in turn gives the graph of the document. -/
theorem dependencies_of_walk {document components : Value} {named : List (String × Value)}
    {mark : Option Nat} {walk : Walk}
    (hs : componentSchemas document = .ok (.map (textFields named) mark))
    (hw : named.foldlM (fun walk (entry : String × Value) =>
      walkRoot components walk entry.1 entry.2)
      { graph := named.map fun entry => (refTo entry.1, []), walked := [] } = .ok walk) :
    dependencies document components = .ok walk.graph := by
  have hparts : (Value.map (textFields named) mark).asParts =
      .ok ((textFields named).map fun entry => .scalar entry.1) := rfl
  have hstart : (named.map Prod.fst).map (refTo ·, ([] : List String)) =
      named.map fun entry => (refTo entry.1, []) := by
    rw [List.map_map]
    rfl
  unfold dependencies
  rw [hs, ok_bind, hparts, ok_bind, mapM_asName_textFields, ok_bind]
  show List.foldlM (fun walk (entry : String × Value) => walkRoot components walk entry.1 entry.2)
    ⟨(named.map Prod.fst).map (refTo ·, []), []⟩
    ((named.map Prod.fst).zip ((textFields named).map Prod.snd)) >>= _ = _
  rw [zip_textFields, hstart, hw]
  rfl

theorem walkRoot_of_walked {components schema : Value} {walk : Walk} {name : String}
    (h : refTo name ∈ walk.walked) : walkRoot components walk name schema = .ok walk := by
  simp [walkRoot, h]

theorem walkRoot_of_not_walked {components schema : Value} {walk : Walk} {name : String}
    (h : refTo name ∉ walk.walked) :
    walkRoot components walk name schema = Walk.run components [(schema, refTo name)]
      { walk with walked := walk.walked ++ [refTo name] } := by
  simp [walkRoot, h]

/-- A graph records what the component schemas refer to. -/
structure Graph.Records (components : Value) (named : List (String × Value)) (graph : Graph) :
    Prop where
  lookup_iff : ∀ name fields, Components.lookup components ⟨.schemas, name⟩ = .ok (some fields) ↔
    ∃ mark, named.lookup name = some (.map fields mark)
  rooted : ∀ entry ∈ named, graph.IsNode (refTo entry.1)
  sourced : ∀ node, graph.IsNode node → ∃ schema, Source components named node schema ∧
    graph.edges node = (mentions schema).foldl addOnce [] ∧ Readable schema

theorem lookup_schemas_iff {document components : Value} {fields : Fields}
    {named : List (String × Value)} {mark : Option Nat} {name : String}
    (hc : Components.ofDocument document = .ok components)
    (hs : componentSchemas document = .ok (.map (textFields named) mark)) :
    Components.lookup components ⟨.schemas, name⟩ = .ok (some fields) ↔
      ∃ mark, named.lookup name = some (.map fields mark) := by
  obtain ⟨_, hc', hs⟩ := exists_of_bind_eq_ok hs
  cases hc.symm.trans hc'
  obtain ⟨kinds, hk, hs⟩ := exists_of_bind_eq_ok hs
  have hall : (kinds.get "schemas").orEmptyMap = .map (textFields named) mark := Except.ok.inj hs
  simp only [Components.lookup, hk, ComponentKind.name, bind, Except.bind, pure, Except.pure]
  by_cases hv : (kinds.get "schemas").isVacant = true
  · rw [Value.orEmptyMap, if_pos hv] at hall
    have hnone : named = [] := by
      injection hall with hall _
      exact List.map_eq_nil_iff.1 hall.symm
    subst hnone
    cases hvalue : kinds.get "schemas" with
    | map fields mark =>
      rw [hvalue] at hv
      cases List.isEmpty_iff.1 hv
      simp [Fields.get?]
    | _ => simp
  · rw [Value.orEmptyMap, if_neg hv] at hall
    rw [hall]
    simp only [get?_textFields]
    split <;> simp_all

/-- The dependency graph of a document records what its component schemas refer to. -/
theorem exists_records_of_dependencies {document components : Value} {graph : Graph}
    (hc : Components.ofDocument document = .ok components)
    (h : dependencies document components = .ok graph) :
    ∃ named mark, componentSchemas document = .ok (.map (textFields named) mark) ∧
      graph.Records components named := by
  obtain ⟨named, mark, walk, hs, hw, rfl⟩ := exists_walk_of_dependencies h
  have hcovers := covers_of_walkRoots hw
  refine ⟨named, mark, hs, fun name fields => lookup_schemas_iff hc hs, ?_, ?_⟩
  · intro entry he
    exact .inl (hcovers.begun (List.mem_map_of_mem he))
  · intro node hn
    obtain ⟨schema, hsource, hedges, _, hread⟩ := hcovers.sourced node (hcovers.mem_walked hn)
    exact ⟨schema, hsource, hedges, hread⟩

/-- Marks do not matter to the references inside a schema. -/
theorem mentions_map (fields : Fields) (mark : Option Nat) :
    mentions (.map fields mark) = mentions (.ofFields fields) := by
  rw [mentions_eq, mentions_eq (.ofFields fields)]
  rfl

theorem Readable.unmarked {fields : Fields} {mark : Option Nat} (h : Readable (.map fields mark)) :
    Readable (.ofFields fields) := by
  cases h with
  | reference ht => exact .reference ht
  | leaf hl => exact absurd rfl (hl fields mark)
  | map ht hn hi => exact .map ht hn hi

namespace Graph.Records

variable {components : Value} {named : List (String × Value)} {graph : Graph} {node : String}

/-- The reference to a component names no other component. -/
theorem exists_lookup_of_names (h : graph.Records components named) {kind : ComponentKind}
    {name : String} {found : Fields}
    (hnames : Components.Names components kind (.text (refTo name)) found) :
    ∃ mark, named.lookup name = some (.map found mark) := by
  obtain ⟨r, hp, _, hl⟩ := hnames
  obtain ⟨text, htext, hparse⟩ := Reference.exists_text_of_parse hp
  injection htext with htext
  injection htext with htext
  subst htext
  cases Reference.eq_of_parse?_write hparse
  exact (h.lookup_iff name found).1 hl

/-- The component that a node names and the one it resolves to: the node depends on the references
    inside one of the two. -/
theorem sourced_of_names (h : graph.Records components named) (hn : graph.IsNode node)
    {kind : ComponentKind} {found fields : Fields}
    (hnames : Components.Names components kind (.text node) found)
    (hr : Components.resolve components (.text node) = .ok fields) :
    ∃ source, (source = fields ∨ source = found) ∧
      (∀ ref, graph.Depends node ref ↔ ref ∈ mentions (.ofFields source)) ∧
      Readable (.ofFields source) := by
  obtain ⟨schema, hs, hedges, hread⟩ := h.sourced node hn
  have hd : ∀ ref, graph.Depends node ref ↔ ref ∈ mentions schema := by
    intro ref
    rw [Depends, hedges, mem_foldl_addOnce]
    simp
  cases hs with
  | resolved hres =>
    cases hr.symm.trans hres
    exact ⟨fields, .inl rfl, hd, hread⟩
  | @written name schema hl =>
    obtain ⟨mark, hmark⟩ := h.exists_lookup_of_names hnames
    cases hl.symm.trans hmark
    exact ⟨found, .inr rfl, fun ref => by rw [hd, mentions_map], hread.unmarked⟩

/-- The references inside the component that a node resolves to are the dependencies of the node or
    of one it depends on: where it names a component that is a reference itself, they are those of a
    component further on. -/
theorem exists_owner_of_leads (h : graph.Records components named) {kind : ComponentKind}
    {fields : Fields} {value : Value} {steps : Nat}
    (hl : Components.Leads components kind value fields steps) (hle : steps ≤ Components.maxDepth)
    (hv : value = .text node) (hn : graph.IsNode node) :
    ∃ owner, Relation.ReflTransGen graph.Depends node owner ∧
      (∀ ref, graph.Depends owner ref ↔ ref ∈ mentions (.ofFields fields)) ∧
      Readable (.ofFields fields) := by
  induction hl generalizing node with
  | here hnames hplain =>
    subst hv
    have hr := (Components.Leads.here hnames hplain).resolve hle
    obtain ⟨source, rfl | rfl, hd, hread⟩ := h.sourced_of_names hn hnames hr
    · exact ⟨node, .refl, hd, hread⟩
    · exact ⟨node, .refl, hd, hread⟩
  | @next value next found fields steps hnames htarget hl ih =>
    subst hv
    have hr := (Components.Leads.next hnames htarget hl).resolve hle
    obtain ⟨source, rfl | rfl, hd, hread⟩ := h.sourced_of_names hn hnames hr
    · exact ⟨node, .refl, hd, hread⟩
    · -- The node names a reference, and depends on nothing but what that one refers to.
      obtain ⟨nextRef, rfl⟩ := hl.exists_text
      have ht : Reference.target? (.ofFields source) = some (.text nextRef) := htarget
      have hedge : graph.Depends node nextRef := by
        rw [hd, mentions_of_target ht]
        simp
      obtain ⟨owner, hpath, hrest⟩ := ih (by omega) rfl (.inr ⟨node, hedge⟩)
      exact ⟨owner, .head hedge hpath, hrest⟩

/-- A node depends on every reference inside the component it resolves to. -/
theorem transGen_of_mention (h : graph.Records components named) (hn : graph.IsNode node)
    {fields : Fields} (hr : Components.resolve components (.text node) = .ok fields) {ref : String}
    (hm : ref ∈ mentions (.ofFields fields)) : Relation.TransGen graph.Depends node ref := by
  obtain ⟨r, _, taken, hle, hl⟩ := Components.resolve_eq_ok_iff.1 hr
  obtain ⟨owner, hpath, hd, _⟩ := h.exists_owner_of_leads hl hle rfl hn
  exact .tail' hpath ((hd ref).2 hm)

theorem readable_of_resolve (h : graph.Records components named) (hn : graph.IsNode node)
    {fields : Fields} (hr : Components.resolve components (.text node) = .ok fields) :
    Readable (.ofFields fields) := by
  obtain ⟨r, _, taken, hle, hl⟩ := Components.resolve_eq_ok_iff.1 hr
  obtain ⟨_, _, _, hread⟩ := h.exists_owner_of_leads hl hle rfl hn
  exact hread

end Graph.Records

end RestContract.Schema
