import Mathlib.Data.List.Perm.Basic
import RestContract.Proofs.DeclarationOrder
import RestContract.Proofs.SoundWalk

/-!
# Component schemas that can be ordered

Whether the component schemas of a document can be ordered is a matter of the schemas and not of the
order in which they are listed, as long as they refer to each other by references that are written
from names. Each of them has to lead to a component that can be declared, all have to be sound, and
none may use itself.

The dependency graph is not a matter of the schemas alone. A component that is a reference depends
on what it refers to if the walk begins with it, and on what the referred component depends on if
the walk comes to it over another reference. Both give the same cycles.
-/

namespace RestContract

/-- Where no key stands twice, a field is found exactly if it is there. -/
theorem Fields.get?_eq_some_iff_mem {fields : Fields} (h : (fields.map Prod.fst).Nodup)
    {name : String} {value : Value} :
    fields.get? name = some value ↔ (.text name, value) ∈ fields := by
  induction fields with
  | nil => simp [get?]
  | cons field rest ih =>
    obtain ⟨key, found⟩ := field
    rw [List.map_cons, List.nodup_cons] at h
    rw [get?, List.mem_cons, Prod.mk.injEq]
    by_cases heq : key = .text name
    · subst heq
      have hrest : (.text name, value) ∉ rest := by
        intro hm
        exact h.1 (List.mem_map.2 ⟨_, hm, rfl⟩)
      simp [hrest, eq_comm]
    · simp [heq, Ne.symm heq, ih h.2]

end RestContract

namespace RestContract.Schema

open Graph Relation

/-- All references that are met in a schema are written from names of component schemas. -/
def Canonical (schema : Value) : Prop :=
  ∀ ref, Meets schema ref → ∃ name, ref = .text (refTo name)

/-- The reference to one of some component schemas. -/
def Known (named : List (String × Value)) (ref : String) : Prop :=
  ∃ entry ∈ named, refTo entry.1 = ref

/-- The component that a reference leads to mentions another reference. -/
def Uses (components : Value) (ref other : String) : Prop :=
  ∃ fields, Components.resolve components (.text ref) = .ok fields ∧
    other ∈ mentions (.ofFields fields)

/-- The component that a reference names is a reference to another one. -/
def Renames (named : List (String × Value)) (ref other : String) : Prop :=
  ∃ entry ∈ named, refTo entry.1 = ref ∧ Reference.target? entry.2 = some (.text other)

/-- Component schemas that can be ordered. -/
structure Orderable (components : Value) (named : List (String × Value)) : Prop where
  leading : ∀ entry ∈ named, ∃ target,
    Components.resolve components (.text (refTo entry.1)) = .ok target ∧
      Sound (Known named) (.ofFields target) ∧ Fields.recordFields? target ≠ none
  sound : ∀ entry ∈ named, Sound (Known named) entry.2
  acyclic : ∀ entry ∈ named, ¬ TransGen (Uses components) (refTo entry.1) (refTo entry.1)

/-- The component schemas of a document, each name once and all of them canonical. -/
structure Lists (document components : Value) (named : List (String × Value)) : Prop where
  components_eq : Components.ofDocument document = .ok components
  schemas_eq : ∃ mark, componentSchemas document = .ok (.map (textFields named) mark)
  nodup : (named.map Prod.fst).Nodup
  canonical : ∀ entry ∈ named, Canonical entry.2

theorem textFields_injective : Function.Injective textFields := by
  refine List.map_injective_iff.2 ?_
  rintro ⟨name, value⟩ ⟨other, found⟩ h
  cases h
  rfl

theorem keys_textFields (named : List (String × Value)) :
    (textFields named).map Prod.fst = (named.map Prod.fst).map Scalar.text := by
  rw [textFields, List.map_map, List.map_map]
  rfl

theorem nodup_keys_textFields {named : List (String × Value)} :
    ((textFields named).map Prod.fst).Nodup ↔ (named.map Prod.fst).Nodup := by
  have hinj : Function.Injective Scalar.text := fun a b h => Scalar.text.inj h
  rw [keys_textFields, List.nodup_map_iff hinj]

theorem lookup_eq_some_iff_mem {named : List (String × Value)} (h : (named.map Prod.fst).Nodup)
    {name : String} {value : Value} : named.lookup name = some value ↔ (name, value) ∈ named := by
  rw [← get?_textFields, Fields.get?_eq_some_iff_mem (nodup_keys_textFields.2 h)]
  simp [textFields]

namespace Lists

variable {document components : Value} {named : List (String × Value)}

theorem mem_of_names (h : Lists document components named) {kind : ComponentKind} {name : String}
    {fields : Fields} (hn : Components.Names components kind (.text (refTo name)) fields) :
    kind = .schemas ∧ ∃ mark, (name, .map fields mark) ∈ named := by
  obtain ⟨r, hr, hk, hl⟩ := hn
  obtain ⟨_, htext, hparse⟩ := Reference.exists_text_of_parse hr
  injection htext with htext
  injection htext with htext
  subst htext
  cases Reference.eq_of_parse?_write hparse
  obtain ⟨mark, hs⟩ := h.schemas_eq
  obtain ⟨own, hlookup⟩ := (lookup_schemas_iff h.components_eq hs).1 hl
  exact ⟨hk.symm, own, (lookup_eq_some_iff_mem h.nodup).1 hlookup⟩

/-- Over any number of references, a reference written from a name leads to one of the component
    schemas, and first of all it names one. -/
theorem of_leads (h : Lists document components named) {kind : ComponentKind} {value : Value}
    {fields : Fields} {steps : Nat} (hl : Components.Leads components kind value fields steps)
    {name : String} (hv : value = .text (refTo name)) :
    Known named (refTo name) ∧ ∃ entry ∈ named, ∃ mark, entry.2 = .map fields mark := by
  induction hl generalizing name with
  | here hn hp =>
    subst hv
    obtain ⟨_, mark, hm⟩ := h.mem_of_names hn
    exact ⟨⟨_, hm, rfl⟩, _, hm, mark, rfl⟩
  | @next value next found fields steps hn hr _ ih =>
    subst hv
    obtain ⟨_, mark, hm⟩ := h.mem_of_names hn
    obtain ⟨other, rfl⟩ := h.canonical _ hm next (.here hr)
    exact ⟨⟨_, hm, rfl⟩, (ih rfl).2⟩

theorem of_resolve (h : Lists document components named) {name : String} {fields : Fields}
    (hr : Components.resolve components (.text (refTo name)) = .ok fields) :
    Known named (refTo name) ∧ ∃ entry ∈ named, ∃ mark, entry.2 = .map fields mark := by
  obtain ⟨r, _, steps, _, hl⟩ := Components.resolve_eq_ok_iff.1 hr
  exact h.of_leads hl rfl

theorem entry_of_names (h : Lists document components named) {entry : String × Value}
    (hm : entry ∈ named) {kind : ComponentKind} {found : Fields}
    (hn : Components.Names components kind (.text (refTo entry.1)) found) :
    ∃ mark, entry.2 = .map found mark := by
  obtain ⟨_, mark, hfound⟩ := h.mem_of_names hn
  have heq := (lookup_eq_some_iff_mem h.nodup).2 hfound
  rw [(lookup_eq_some_iff_mem h.nodup).2 hm] at heq
  exact ⟨mark, Option.some.inj heq⟩

/-- A component that is no reference is what the reference to it leads to. -/
theorem eq_of_resolve (h : Lists document components named) {entry : String × Value}
    (hm : entry ∈ named) (ht : Reference.target? entry.2 = none) {target : Fields}
    (hr : Components.resolve components (.text (refTo entry.1)) = .ok target) :
    ∃ mark, entry.2 = .map target mark := by
  obtain ⟨r, _, steps, _, hl⟩ := Components.resolve_eq_ok_iff.1 hr
  cases hl with
  | here hn _ => exact h.entry_of_names hm hn
  | next hn hr _ =>
    obtain ⟨mark, heq⟩ := h.entry_of_names hm hn
    rw [heq] at ht
    cases ht.symm.trans hr

/-- A component that is a reference leads to what the reference leads to, over one more. -/
theorem leads_of_target (h : Lists document components named) {entry : String × Value}
    (hm : entry ∈ named) {next : Value} (ht : Reference.target? entry.2 = some next)
    {kind : ComponentKind} {target : Fields} {steps : Nat}
    (hl : Components.Leads components kind (.text (refTo entry.1)) target steps) :
    ∃ fewer, steps = fewer + 1 ∧ Components.Leads components kind next target fewer := by
  cases hl with
  | here hn hp =>
    obtain ⟨mark, heq⟩ := h.entry_of_names hm hn
    rw [heq] at ht
    cases hp.symm.trans ht
  | @next _ other found _ fewer hn hr hl =>
    obtain ⟨mark, heq⟩ := h.entry_of_names hm hn
    rw [heq] at ht
    cases hr.symm.trans ht
    exact ⟨fewer, rfl, hl⟩

end Lists

/-! ## Schemas that have been ordered -/

section

variable {document components : Value} {named : List (String × Value)} {all : List Declaration}
  {graph : Graph} {room : Nat}

theorem Scope.Arranged.exists_target (ha : Scope.Arranged ⟨components, all, room⟩ graph named)
    {ref : String} (hn : graph.IsNode ref) :
    ∃ target, Components.resolve components (.text ref) = .ok target ∧
      Fields.recordFields? target ≠ none := by
  have hm := (ha.order.complete ref).2 hn
  obtain ⟨declaration, hd, rfl⟩ := List.mem_map.1 hm
  obtain ⟨_, fields, _, _, _, _, hr, hs⟩ := Declaration.exists_of_ofRef (ha.made declaration hd)
  refine ⟨fields, hr, ?_⟩
  rw [hs]
  exact Option.some_ne_none _

theorem isNode_of_transGen {ref other : String} (h : TransGen graph.Depends ref other) :
    graph.IsNode other := by
  cases h with
  | single h => exact .inr ⟨_, h⟩
  | tail _ h => exact .inr ⟨_, h⟩

theorem Lists.sound_of_arranged (h : Lists document components named)
    (ha : Scope.Arranged ⟨components, all, room⟩ graph named) {entry : String × Value}
    (he : entry ∈ named) : Sound (Known named) entry.2 := by
  obtain ⟨target, hr, _⟩ := ha.exists_target (ha.records.rooted entry he)
  cases ht : Reference.target? entry.2 with
  | some ref =>
    obtain ⟨name, rfl⟩ := h.canonical entry he ref (.here ht)
    refine .reference ht ?_
    obtain ⟨r, _, steps, _, hl⟩ := Components.resolve_eq_ok_iff.1 hr
    obtain ⟨_, _, hl⟩ := h.leads_of_target he ht hl
    exact (h.of_leads hl rfl).1
  | none =>
    obtain ⟨mark, heq⟩ := h.eq_of_resolve he ht hr
    have hread := ha.records.readable_of_resolve (ha.records.rooted entry he) hr
    have hsound : Sound (Known named) (.ofFields target) := by
      refine hread.sound ?_
      intro ref hm
      obtain ⟨name, rfl⟩ := h.canonical entry he ref (heq ▸ hm.unmarked mark)
      refine ⟨_, rfl, ?_⟩
      have hpath := ha.records.transGen_of_mention (ha.records.rooted entry he) hr hm.mem_mentions
      obtain ⟨_, hr', _⟩ := ha.exists_target (isNode_of_transGen hpath)
      exact (h.of_resolve hr').1
    exact heq ▸ hsound.remark mark

theorem transGen_depends_of_uses (ha : Scope.Arranged ⟨components, all, room⟩ graph named)
    {ref other : String} (hn : graph.IsNode ref) (h : TransGen (Uses components) ref other) :
    TransGen graph.Depends ref other := by
  induction h with
  | single hu =>
    obtain ⟨fields, hr, hm⟩ := hu
    exact ha.records.transGen_of_mention hn hr hm
  | tail _ hu ih =>
    obtain ⟨fields, hr, hm⟩ := hu
    exact ih.trans (ha.records.transGen_of_mention (isNode_of_transGen ih) hr hm)

/-- Schemas that have been ordered can be ordered. -/
theorem Lists.orderable_of_arranged (h : Lists document components named)
    (ha : Scope.Arranged ⟨components, all, room⟩ graph named) : Orderable components named where
  leading := by
    intro entry he
    obtain ⟨target, hr, hrecord⟩ := ha.exists_target (ha.records.rooted entry he)
    obtain ⟨_, other, ho, mark, heq⟩ := h.of_resolve hr
    have hs := h.sound_of_arranged ha ho
    rw [heq] at hs
    exact ⟨target, hr, hs.remark none, hrecord⟩
  sound := fun entry he => h.sound_of_arranged ha he
  acyclic := by
    intro entry he hcycle
    refine ha.order.not_cyclic ⟨refTo entry.1, ?_⟩
    exact transGen_depends_of_uses ha (ha.records.rooted entry he) hcycle

/-! ## Ordering schemas -/

theorem Orderable.leads_known (h : Orderable components named) :
    Leading components (Known named) := by
  rintro ref ⟨entry, he, rfl⟩
  obtain ⟨target, hr, hs, _⟩ := h.leading entry he
  exact ⟨target, hr, hs⟩

theorem Orderable.exists_dependencies (ho : Orderable components named)
    (h : Lists document components named) :
    ∃ graph, dependencies document components = .ok graph ∧
      ∀ node, graph.IsNode node → Known named node := by
  obtain ⟨mark, hs⟩ := h.schemas_eq
  obtain ⟨walk, hw, hwalked⟩ := exists_walkRoots ho.leads_known (Walk.beginning named)
    (fun entry he => ⟨entry, he, rfl⟩) ho.sound
  refine ⟨walk.graph, dependencies_of_walk hs hw, ?_⟩
  intro node hn
  rcases hwalked node ((covers_of_walkRoots hw).mem_walked hn) with hm | hm
  · cases hm
  · exact hm

/-- A dependency is a use or a renaming. -/
theorem uses_or_renames (ho : Orderable components named) (h : Lists document components named)
    (hr : graph.Records components named) {ref other : String} (hk : Known named ref)
    (hd : graph.Depends ref other) : Uses components ref other ∨ Renames named ref other := by
  obtain ⟨entry, he, rfl⟩ := hk
  obtain ⟨schema, hs, hedges, _⟩ := hr.sourced _ (hr.rooted entry he)
  rw [Depends, hedges, mem_foldl_addOnce] at hd
  have hm := hd.resolve_left (by simp)
  generalize hn : refTo entry.1 = node at hs
  cases hs with
  | resolved hres =>
    subst hn
    exact .inl ⟨_, hres, hm⟩
  | @written name _ hl =>
    have hname := refTo_injective hn
    subst hname
    have heq := (lookup_eq_some_iff_mem h.nodup).2 he
    cases heq.symm.trans hl
    cases ht : Reference.target? entry.2 with
    | some ref =>
      obtain ⟨text, rfl, _⟩ := (ho.sound entry he).exists_text ht
      rw [mentions_of_target ht, List.mem_singleton] at hm
      subst hm
      exact .inr ⟨entry, he, rfl, ht⟩
    | none =>
      obtain ⟨target, hres, _⟩ := ho.leading entry he
      obtain ⟨mark, heq⟩ := h.eq_of_resolve he ht hres
      rw [heq, mentions_map] at hm
      exact .inl ⟨target, hres, hm⟩

theorem absorbs {α : Type} {R A : α → α → Prop} (habsorb : ∀ x y z, A x y → R y z → R x z)
    {x y z : α} (h : ReflTransGen A x y) (hr : R y z) : R x z := by
  induction h using ReflTransGen.head_induction_on with
  | refl => exact hr
  | head ha _ ih => exact habsorb _ _ _ ha ih

/-- A path along two relations of which the second only goes before the first: steps of the first,
    then steps of the second. -/
theorem transGen_split {α : Type} {R A : α → α → Prop} (habsorb : ∀ x y z, A x y → R y z → R x z)
    {x z : α} (h : TransGen (fun a b => R a b ∨ A a b) x z) :
    (∃ w, TransGen R x w ∧ ReflTransGen A w z) ∨ TransGen A x z := by
  induction h with
  | single h =>
    rcases h with hr | ha
    · exact .inl ⟨_, .single hr, .refl⟩
    · exact .inr (.single ha)
  | tail _ hstep ih =>
    rcases ih with ⟨w, hw, hy⟩ | hy <;> rcases hstep with hr | ha
    · exact .inl ⟨_, hw.tail (absorbs habsorb hy hr), .refl⟩
    · exact .inl ⟨w, hw, hy.tail ha⟩
    · exact .inl ⟨_, .single (absorbs habsorb hy.to_reflTransGen hr), .refl⟩
    · exact .inr (hy.tail ha)

/-- A reference uses what the reference that it renames uses. -/
theorem uses_of_renames (ho : Orderable components named) (h : Lists document components named)
    (ref other used : String) (hn : Renames named ref other) (hu : Uses components other used) :
    Uses components ref used := by
  obtain ⟨entry, he, rfl, ht⟩ := hn
  obtain ⟨fields, hr, hm⟩ := hu
  obtain ⟨target, hres, _⟩ := ho.leading entry he
  obtain ⟨r, _, steps, hle, hl⟩ := Components.resolve_eq_ok_iff.1 hres
  obtain ⟨fewer, rfl, hfewer⟩ := h.leads_of_target he ht hl
  have hother := hfewer.resolve (Nat.le_of_succ_le hle)
  cases hr.symm.trans hother
  exact ⟨fields, hres, hm⟩

/-- Every renaming brings the component closer that a reference leads to. -/
theorem exists_leads_of_renames (h : Lists document components named) {ref other : String}
    (hn : TransGen (Renames named) ref other) {kind : ComponentKind} {target : Fields} {steps : Nat}
    (hl : Components.Leads components kind (.text ref) target steps) :
    ∃ fewer < steps, Components.Leads components kind (.text other) target fewer := by
  induction hn with
  | single hn =>
    obtain ⟨entry, he, rfl, ht⟩ := hn
    obtain ⟨fewer, rfl, hfewer⟩ := h.leads_of_target he ht hl
    exact ⟨fewer, Nat.lt_succ_self fewer, hfewer⟩
  | tail _ hn ih =>
    obtain ⟨middle, hlt, hmiddle⟩ := ih
    obtain ⟨entry, he, rfl, ht⟩ := hn
    obtain ⟨fewer, rfl, hfewer⟩ := h.leads_of_target he ht hmiddle
    exact ⟨fewer, by omega, hfewer⟩

theorem not_renames_self (ho : Orderable components named) (h : Lists document components named)
    {entry : String × Value} (he : entry ∈ named) :
    ¬ TransGen (Renames named) (refTo entry.1) (refTo entry.1) := by
  intro hcycle
  have hnone : ∀ steps kind target,
      ¬ Components.Leads components kind (.text (refTo entry.1)) target steps := by
    intro steps
    induction steps using Nat.strong_induction_on with
    | _ steps ih =>
      intro kind target hl
      obtain ⟨fewer, hlt, hfewer⟩ := exists_leads_of_renames h hcycle hl
      exact ih fewer hlt kind target hfewer
  obtain ⟨target, hres, _⟩ := ho.leading entry he
  obtain ⟨r, _, steps, _, hl⟩ := Components.resolve_eq_ok_iff.1 hres
  exact hnone steps r.kind target hl

/-- No node of the dependency graph depends on itself where no component uses itself. -/
theorem Orderable.not_cyclic (ho : Orderable components named)
    (h : Lists document components named) (hr : graph.Records components named)
    (hk : ∀ node, graph.IsNode node → Known named node) : ¬ graph.Cyclic := by
  rintro ⟨node, hcycle⟩
  have hstep : ∀ ref other, graph.Depends ref other →
      Uses components ref other ∨ Renames named ref other := by
    intro ref other hd
    obtain ⟨targets, he, _⟩ := exists_entry_of_depends hd
    exact uses_or_renames ho h hr (hk ref (.inl (List.mem_map_of_mem he))) hd
  obtain ⟨entry, he, rfl⟩ := hk node (isNode_of_transGen hcycle)
  have hpath := TransGen.mono hstep _ _ hcycle
  rcases transGen_split (uses_of_renames ho h) hpath with ⟨last, hfirst, hlast⟩ | hrename
  · -- The cycle uses something first, and comes back to that over renamings alone.
    obtain ⟨used, hu, hrest⟩ := TransGen.head'_iff.1 hfirst
    have hback := absorbs (uses_of_renames ho h) hlast hu
    obtain ⟨fields, hres, hm⟩ := hu
    obtain ⟨target, hres', hs, _⟩ := ho.leading entry he
    cases hres.symm.trans hres'
    obtain ⟨other, hother, rfl⟩ := hs.known_of_mem_mentions hm
    exact ho.acyclic other hother (TransGen.tail' hrest hback)
  · exact not_renames_self ho h he hrename

theorem exists_ofRef {ref : String} {target : Fields}
    (hr : Components.resolve components (.text ref) = .ok target)
    (hs : Fields.recordFields? target ≠ none) :
    ∃ declaration, Declaration.ofRef components ref = .ok declaration := by
  obtain ⟨r, hparse, _⟩ := Components.resolve_eq_ok_iff.1 hr
  obtain ⟨schema, hs⟩ := Option.ne_none_iff_exists'.1 hs
  unfold Declaration.ofRef
  rw [hparse, ok_bind, hr, ok_bind, hs]
  exact ⟨_, rfl⟩

theorem Lists.eq_named (h : Lists document components named) {others : List (String × Value)}
    {mark : Option Nat} (hs : componentSchemas document = .ok (.map (textFields others) mark)) :
    others = named := by
  obtain ⟨_, hs'⟩ := h.schemas_eq
  injection hs.symm.trans hs' with hmap
  injection hmap with hfields
  exact textFields_injective hfields

/-- Schemas that can be ordered are ordered. -/
theorem Orderable.exists_declarations (ho : Orderable components named)
    (h : Lists document components named) :
    ∃ all, (declarations document components).result = .ok all := by
  obtain ⟨graph, hg, hk⟩ := ho.exists_dependencies h
  obtain ⟨others, _, hs, hrecords⟩ := exists_records_of_dependencies h.components_eq hg
  cases h.eq_named hs
  have horder : ∃ refs, declarationOrder graph = .ok refs := by
    have hspec := graph.isOrder_or_isCycle
    cases hfound : graph.order with
    | ok refs => exact ⟨refs, by rw [declarationOrder, hfound]⟩
    | error path =>
      rw [hfound] at hspec
      exact absurd (cyclic_of_isCycle hspec) (ho.not_cyclic h hrecords hk)
  obtain ⟨refs, hrefs⟩ := horder
  have hnodes : ∀ ref ∈ refs, ∃ declaration, Declaration.ofRef components ref = .ok declaration := by
    intro ref hm
    obtain ⟨entry, he, rfl⟩ := hk ref (((isOrder_of_declarationOrder hrefs).complete ref).1 hm)
    obtain ⟨target, hr, _, hrecord⟩ := ho.leading entry he
    exact exists_ofRef hr hrecord
  obtain ⟨all, hall⟩ := exists_forall₂ hnodes
  exact ⟨all, result_declarations_eq_ok_iff.2 ⟨graph, refs, hg, hrefs, hall⟩⟩

/-- Schemas have been ordered along a graph whose nodes are the component schemas. -/
theorem Lists.exists_arranged (h : Lists document components named)
    (hd : (declarations document components).result = .ok all) :
    ∃ graph, Scope.Arranged ⟨components, all, usualRoom⟩ graph named ∧
      ∀ node, graph.IsNode node ↔ Known named node := by
  obtain ⟨graph, refs, hg, hr, hall⟩ := result_declarations_eq_ok_iff.1 hd
  obtain ⟨others, _, hs, ha⟩ := exists_arranged_of_dependencies usualRoom h.components_eq hg hr hall
  cases h.eq_named hs
  obtain ⟨_, hg', hk⟩ := (h.orderable_of_arranged ha).exists_dependencies h
  cases hg.symm.trans hg'
  refine ⟨graph, ha, fun node => ⟨hk node, ?_⟩⟩
  rintro ⟨entry, he, rfl⟩
  exact ha.records.rooted entry he

/-- The component schemas of a document are ordered exactly if they can be. -/
theorem Lists.exists_declarations_iff (h : Lists document components named) :
    (∃ all, (declarations document components).result = .ok all) ↔ Orderable components named := by
  constructor
  · rintro ⟨all, hd⟩
    obtain ⟨graph, ha, _⟩ := h.exists_arranged hd
    exact h.orderable_of_arranged ha
  · intro ho
    exact ho.exists_declarations h

end

end RestContract.Schema
