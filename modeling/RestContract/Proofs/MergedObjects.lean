import RestContract.Proofs.MergeLinks
import RestContract.Proofs.UnlinkedValidators

/-!
# Objects that are merged

The validators of objects can be merged, others cannot. But the members of a union of all
combinations are merged whatever they are. So everything that is merged in a validator can be merged
exactly if no such union of several members with another member is met on the way to that validator:
`merges_objects_iff` says so in terms of the schemas.
-/

namespace RestContract.Compile

open Schema Validation Expr Relation

/-! ## Validators that can be merged -/

theorem settled_objectForm {R : Relates} {fields : Fields} {e : Expr} (h : ObjectForm R fields e) :
    Settled e := by
  cases h <;> exact settled_z _ (by simp)

theorem settled_typeForm {R : Relates} {fields : Fields} {type : Value} {e : Expr}
    (h : TypeForm R fields type e) : Settled e := by
  cases h with
  | tags => exact settled_z _ (by simp)
  | tag _ h =>
    cases h with
    | text =>
      unfold Compile.text
      split <;> exact settled_z _ (by simp)
    | object _ h => exact settled_objectForm h
    | _ => exact settled_z _ (by simp)

theorem settled_anyOf {es : List Expr} (h : ∀ e ∈ es, Settled e) : Settled (anyOf es) := by
  unfold anyOf union
  split
  · next hsole =>
    obtain ⟨selection, hs, rfl⟩ := List.map_eq_singleton_iff.1 hsole
    obtain ⟨e, rfl, rfl⟩ := selections_eq_singleton_iff.1 hs
    exact h e (List.mem_singleton_self e)
  · exact settled_z _ (by simp)

theorem settled_enumeration {type : Value} {values : List Value} {e : Expr}
    (h : (enumeration type values).result = .ok e) : Settled e := by
  cases enumerationForm_of_enumeration h <;> exact settled_z _ (by simp)

theorem settled_of_membersForm {R : Relates} (hR : ∀ {schema p e}, R schema p e → Settled e)
    {members : Value} {es : List Expr} (h : MembersForm R members es) : ∀ e ∈ es, Settled e := by
  obtain ⟨parts, _, h⟩ := h
  intro e he
  obtain ⟨_, _, hr⟩ := exists_of_mem_forall₂ h he
  exact hR hr

theorem settled_baseForm {R : Relates} (hR : ∀ {schema p e}, R schema p e → Settled e)
    {fields : Fields} {type : Value} {e : Expr} (h : BaseForm R fields type e) : Settled e := by
  cases h with
  | oneOf _ h => exact settled_union (settled_of_membersForm hR h)
  | allOf _ _ h => exact settled_joinBy (by simp) (settled_of_membersForm hR h)
  | anyOf _ _ _ h => exact settled_anyOf (settled_of_membersForm hR h)
  | enum _ _ _ h => exact settled_enumeration h
  | typed _ _ h => exact settled_typeForm h

theorem Mergeless.settled_chain {e : Expr} {calls : List Call} (hs : Settled e)
    (h : Mergeless calls) : Settled (chain e calls) := by
  refine Expr.settled_chain hs fun call hc => ?_
  obtain ⟨method, args, heq, hm, _⟩ := h call hc
  exact ⟨method, args, heq, hm⟩

variable {scope : Scope} {objects : String → Prop} {schema : Value} {p : Presence} {e : Expr}

/-- The last call of a validator does not merge. -/
theorem settled_of_compiles (h : Compiles scope schema p e) : Settled e := by
  have hconcrete : ∀ {fields p e}, ConcreteForm (fun _ _ e => Settled e) fields p e → Settled e := by
    intro fields p e h
    cases h with
    | sole _ h => exact h
    | chain _ _ h hc => exact Mergeless.settled_chain (settled_baseForm id h) (mergeless_calls hc)
  obtain ⟨room, steps, h⟩ := h
  refine of_compileAt (R := fun _ _ e => Settled e) (fun schema p e h => ?_) h
  cases h with
  | declared => exact Mergeless.settled_chain (.bare (by simp)) (mergeless_presence [] p)
  | followed _ _ _ h => exact hconcrete h
  | plain _ h => exact hconcrete h

theorem mergeable_iff_unlinked (hs : Settled e) :
    Mergeable objects e ↔ Unlinked "object" objects e := by
  constructor
  · intro h
    cases h with
    | made => exact .inl ⟨_, rfl⟩
    | merged => exact absurd hs (not_settled_chain_merge _ _)
    | named h => exact .inr ⟨_, rfl, h⟩
  · rintro (⟨args, rfl⟩ | ⟨name, rfl, h⟩)
    · exact .made
    · exact .named h

/-- A validator can be merged exactly if its schema is one of an object with nothing to call on its
    validator. -/
theorem mergeable_iff_of_compiles (h : Compiles scope schema p e) :
    Mergeable objects e ↔ LeavesUnlinked scope "object" objects schema p := by
  rw [mergeable_iff_unlinked (settled_of_compiles h), unlinked_iff_of_compiles (by decide) h]

/-! ## What is merged on the way -/

/-- The members of a union of all combinations, if there are several. -/
structure Alternatives (fields : Fields) (parts : List Value) : Prop where
  oneOf : (fields.get "oneOf").isVacant = true
  allOf : (fields.get "allOf").isVacant = true
  anyOf : (fields.get "anyOf").isVacant = false
  listed : (fields.get "anyOf").asParts = .ok parts
  several : 2 ≤ parts.length

/-- Every member of a union of several combinations has a validator that can be merged. -/
def MergesMembers (scope : Scope) (objects : String → Prop) (fields : Fields) : Prop :=
  ∀ parts, Alternatives fields parts → ∀ part ∈ parts,
    LeavesUnlinked scope "object" objects part .unstated

/-- This holds of every schema that the compiler comes to on its way. -/
def MergesObjects (scope : Scope) (objects : String → Prop) (schema : Value) : Prop :=
  ∀ outer fields, ReflTransGen (Enters scope) schema outer → Stands scope outer fields →
    MergesMembers scope objects fields

/-- This holds of the fields of a schema and, where the schema is taken with a type, of every schema
    that the compiler comes to from there. -/
def MergesWithin (scope : Scope) (objects : String → Prop) (fields : Fields) (type : Value) : Prop :=
  MergesMembers scope objects fields ∧
    ∀ inner, Taken fields type inner → MergesObjects scope objects inner

section

variable {fields : Fields} {type : Value}

theorem enters_iff_of_stands {inner : Value} (hs : Stands scope schema fields) :
    Enters scope schema inner ↔ Taken fields (fields.get "type") inner := by
  cases hs with
  | plain ht => exact ⟨fun h => h.taken ht, .plain ht⟩
  | expanded he => exact ⟨he.taken_of_enters, .expanded he⟩

theorem mergesObjects_iff_of_stands (hs : Stands scope schema fields) :
    MergesObjects scope objects schema ↔
      MergesWithin scope objects fields (fields.get "type") := by
  constructor
  · refine fun h => ⟨h schema fields .refl hs, fun inner hi outer others hpath => ?_⟩
    exact h outer others (.head ((enters_iff_of_stands hs).2 hi) hpath)
  · rintro ⟨hmembers, hinner⟩ outer others hpath ho
    rcases ReflTransGen.cases_head hpath with rfl | ⟨inner, hi, hpath⟩
    · cases hs.eq ho
      exact hmembers
    · exact hinner inner ((enters_iff_of_stands hs).1 hi) outer others hpath ho

theorem mergesObjects_of_target {ref : Value} {declaration : Declaration}
    (ht : Reference.target? schema = some ref) (hf : scope.find? ref = some declaration) :
    MergesObjects scope objects schema := by
  intro outer fields hpath hs
  rcases ReflTransGen.cases_head hpath with rfl | ⟨inner, hi, _⟩
  · exact (hs.not_declared ht hf).elim
  · cases hi with
    | expanded he => exact (Stands.not_declared (.expanded he) ht hf).elim
    | plain hn => cases hn.symm.trans ht

theorem mergesMembers_of_ne (h : (fields.get "oneOf").isVacant = false ∨
    (fields.get "allOf").isVacant = false ∨ (fields.get "anyOf").isVacant = true) :
    MergesMembers scope objects fields := by
  intro parts ha
  rcases h with h | h | h
  · cases h.symm.trans ha.oneOf
  · cases h.symm.trans ha.allOf
  · cases h.symm.trans ha.anyOf

theorem mergesMembers_congr {other : Fields}
    (h : ∀ name, name ≠ "type" → fields.get? name = other.get? name) :
    MergesMembers scope objects fields ↔ MergesMembers scope objects other := by
  have hget : ∀ {name}, name ≠ "type" → fields.get name = other.get name := get_congr h
  have halternatives : ∀ parts, Alternatives fields parts ↔ Alternatives other parts := by
    intro parts
    constructor
    · rintro ⟨h₁, h₂, h₃, h₄, h₅⟩
      rw [hget (by simp)] at h₁ h₂ h₃ h₄
      exact ⟨h₁, h₂, h₃, h₄, h₅⟩
    · rintro ⟨h₁, h₂, h₃, h₄, h₅⟩
      rw [← hget (by simp)] at h₁ h₂ h₃ h₄
      exact ⟨h₁, h₂, h₃, h₄, h₅⟩
  simp only [MergesMembers, halternatives]

/-- A schema that is taken with another type keeps its members. -/
theorem mergesObjects_retyped_iff (hr : fields.get? "$ref" = none) (tag : Value) :
    MergesObjects scope objects (retyped fields tag) ↔ MergesWithin scope objects fields tag := by
  have hs : Stands scope (retyped fields tag) (fields.put "type" tag) :=
    .plain (target?_retyped hr tag)
  have hmembers : MergesMembers scope objects (fields.put "type" tag) ↔
      MergesMembers scope objects fields :=
    mergesMembers_congr fun name hn => fields.get?_put_of_ne tag hn
  rw [mergesObjects_iff_of_stands hs, MergesWithin, MergesWithin, hmembers]
  simp only [taken_retyped_iff]

/-! ## The forms of a validator -/

/-- Everything that is merged in a validator can be merged exactly if this holds of every member on
    the way to it. -/
def MergesIff (scope : Scope) (objects : String → Prop) : Relates := fun schema p e =>
  Compiles scope schema p e ∧
    (MergesOnly (Mergeable objects) e ↔ MergesObjects scope objects schema)

theorem mergesOnly_iff_of_encloses {P : Expr → Prop} {es : List Expr} (h : Encloses e es) :
    MergesOnly P e ↔ ∀ x ∈ es, MergesOnly P x := by
  have hne : ∀ {method}, method ∈ makers → method ≠ "merge" := by
    rintro method hm rfl
    simp [makers] at hm
  cases h with
  | leaf hm => simp [mergesOnly_z_iff (hne hm)]
  | file =>
    rw [mergesOnly_z_iff (by simp)]
    simp [MergesOnly, merges]
  | any hm =>
    have hany : MergesOnly P (z "any" []) := (mergesOnly_z_iff (by simp)).2 (by simp)
    simp [mergesOnly_z_iff (hne hm), hany]
  | one hm => simp [mergesOnly_z_iff (hne hm)]
  | properties h =>
    rw [mergesOnly_z_iff (by simp)]
    simp only [List.mem_singleton, forall_eq]
    induction h with
    | nil => simp [MergesOnly, merges, mergesOfProperties]
    | @cons _ e compiled es hp _ ih =>
      obtain ⟨key, rfl⟩ := hp
      have hcons : MergesOnly P (.object (.valued key e :: compiled)) ↔
          MergesOnly P e ∧ MergesOnly P (.object compiled) := by
        simp only [MergesOnly, merges, mergesOfProperties, List.forall_mem_append]
      rw [List.forall_mem_cons]
      exact hcons.trans (and_congr_right fun _ => ih)

theorem forall_mergesOnly_iff {schemas : List Value} {es : List Expr}
    (h : List.Forall₂ (fun schema e => ∃ p, MergesIff scope objects schema p e) schemas es) :
    (∀ e ∈ es, MergesOnly (Mergeable objects) e) ↔
      ∀ schema ∈ schemas, MergesObjects scope objects schema := by
  induction h with
  | nil => simp
  | cons h _ ih =>
    obtain ⟨p, _, hiff⟩ := h
    rw [List.forall_mem_cons, List.forall_mem_cons, hiff, ih]

theorem mergesOnly_iff_of_enclosesTaken
    (h : EnclosesTaken (MergesIff scope objects) fields type e) :
    MergesOnly (Mergeable objects) e ↔
      ∀ inner, Taken fields type inner → MergesObjects scope objects inner := by
  obtain ⟨schemas, es, ht, he, hall⟩ := h
  rw [mergesOnly_iff_of_encloses he, forall_mergesOnly_iff hall]
  simp only [ht]

theorem mergesOnly_iff_of_typeForm (hr : fields.get? "$ref" = none) (hu : Uncomposed fields)
    (he : fields.get? "enum" = none) (hs : ∀ tag mark, type ≠ .list [tag] mark)
    (h : TypeForm (MergesIff scope objects) fields type e) :
    MergesOnly (Mergeable objects) e ↔
      ∀ inner, Taken fields type inner → MergesObjects scope objects inner := by
  cases h with
  | @tags first second rest mark es h =>
    have hall := forall_mergesOnly_iff
      ((List.forall₂_map_left_iff.2 h).imp fun _ _ h => ⟨Presence.unstated, h⟩)
    have hmembers : MergesMembers scope objects fields := mergesMembers_of_ne (.inr (.inr hu.anyOf))
    rw [mergesOnly_z_iff (by simp)]
    simp only [List.mem_singleton, forall_eq, mergesOnly_array_iff, hall, List.forall_mem_map,
      mergesObjects_retyped_iff hr, MergesWithin, hmembers, true_and,
      taken_list_iff hu.composition_eq_none]
    constructor
    · rintro h inner ⟨tag, ht, hi⟩
      exact h tag ht inner hi
    · exact fun h tag ht inner hi => h inner ⟨tag, ht, hi⟩
  | tag ht h =>
    exact mergesOnly_iff_of_enclosesTaken
      (enclosesTaken_of_tagForm ⟨hu.composition_eq_none, he⟩ (single_of_ne hs ht) h)

theorem mergesOnly_iff_of_members {members : Value} {es : List Expr}
    (hc : composition fields = some members)
    (h : MembersForm (MergesIff scope objects) members es) :
    (∀ e ∈ es, MergesOnly (Mergeable objects) e) ↔
      ∀ inner, Taken fields type inner → MergesObjects scope objects inner := by
  obtain ⟨parts, hp, h⟩ := h
  rw [forall_mergesOnly_iff (h.imp fun _ _ h => ⟨Presence.unstated, h⟩)]
  simp only [taken_iff_of_members hc hp]

theorem forall_mergeable_iff {parts : List Value} {es : List Expr}
    (h : List.Forall₂ (fun part e => MergesIff scope objects part .unstated e) parts es) :
    (∀ e ∈ es, Mergeable objects e) ↔
      ∀ part ∈ parts, LeavesUnlinked scope "object" objects part .unstated := by
  induction h with
  | nil => simp
  | cons h _ ih =>
    rw [List.forall_mem_cons, List.forall_mem_cons, mergeable_iff_of_compiles h.1, ih]

theorem mergesOnly_enumeration {P : Expr → Prop} {values : List Value}
    (h : (enumeration type values).result = .ok e) : MergesOnly P e := by
  have hliteral : ∀ value, MergesOnly P (z "literal" [ofValue value]) := by
    intro value
    rw [mergesOnly_z_iff (by simp)]
    simp [mergesOnly_ofValue]
  cases enumerationForm_of_enumeration h with
  | mixed => simp [mergesOnly_z_iff]
  | sole => exact hliteral _
  | texts => simp [mergesOnly_z_iff, mergesOnly_array_iff, mergesOnly_ofValue]
  | others => simp [mergesOnly_z_iff, mergesOnly_array_iff, hliteral]

theorem mergesOnly_iff_of_baseForm (hr : fields.get? "$ref" = none)
    (hs : ∀ tag mark, type ≠ .list [tag] mark)
    (h : BaseForm (MergesIff scope objects) fields type e) :
    MergesOnly (Mergeable objects) e ↔ MergesWithin scope objects fields type := by
  have hsettled : ∀ {members es}, MembersForm (MergesIff scope objects) members es →
      ∀ e ∈ es, Settled e := settled_of_membersForm fun h => settled_of_compiles h.1
  have hwithin : MergesMembers scope objects fields → (MergesWithin scope objects fields type ↔
      ∀ inner, Taken fields type inner → MergesObjects scope objects inner) :=
    and_iff_right
  cases h with
  | oneOf hv h =>
    rw [mergesOnly_union_iff, hwithin (mergesMembers_of_ne (.inl hv)),
      mergesOnly_iff_of_members (composition_eq_oneOf hv) h]
  | allOf ho hv h =>
    rw [mergesOnly_joinBy_iff (by simp) (hsettled h),
      hwithin (mergesMembers_of_ne (.inr (.inl hv))),
      mergesOnly_iff_of_members (composition_eq_allOf ho hv) h]
  | anyOf ho ha hv h =>
    -- The base of `anyOf` links its alternatives itself when there are several of them, so beside
    -- what each of them merges each of them has to be one that may be merged.
    rw [mergesOnly_anyOf_iff (fun _ _ => .merged) (hsettled h),
      mergesOnly_iff_of_members (composition_eq_anyOf ho ha hv) h, and_comm]
    refine and_congr_left' ?_
    obtain ⟨parts, hp, hall⟩ := h
    rw [forall_mergeable_iff hall, ← hall.length_eq]
    constructor
    · intro hmembers others halternatives
      cases hp.symm.trans halternatives.listed
      exact hmembers halternatives.several
    · exact fun hmembers hl => hmembers parts ⟨ho, ha, hv, hp, hl⟩
  | enum hu hv _ h =>
    have hn : ∀ inner, ¬ Taken fields type inner :=
      fun inner => not_taken_of_enum hu.composition_eq_none hv
    rw [hwithin (mergesMembers_of_ne (.inr (.inr hu.anyOf)))]
    exact iff_of_true (mergesOnly_enumeration h) fun inner hi => absurd hi (hn inner)
  | typed hu he h =>
    rw [mergesOnly_iff_of_typeForm hr hu he hs h,
      hwithin (mergesMembers_of_ne (.inr (.inr hu.anyOf)))]

theorem mergesOnly_iff_of_concreteForm (hr : fields.get? "$ref" = none)
    (hs : Stands scope schema fields) (h : ConcreteForm (MergesIff scope objects) fields p e) :
    MergesOnly (Mergeable objects) e ↔ MergesObjects scope objects schema := by
  rw [mergesObjects_iff_of_stands hs]
  cases h with
  | sole ht h =>
    rw [h.2, mergesObjects_retyped_iff hr, ht, MergesWithin, MergesWithin]
    simp only [taken_sole_iff]
  | chain ht _ h hc =>
    have hsettled := settled_baseForm (fun h => settled_of_compiles h.1) h
    rw [mergesOnly_chain_iff hsettled (mergeless_calls hc), mergesOnly_iff_of_baseForm hr ht h]

theorem mergesOnly_iff_of_form (h : Form scope (MergesIff scope objects) schema p e) :
    MergesOnly (Mergeable objects) e ↔ MergesObjects scope objects schema := by
  cases h with
  | declared ht hf =>
    refine iff_of_true ?_ (mergesObjects_of_target ht hf)
    rw [mergesOnly_chain_iff (.bare (by simp)) (mergeless_presence [] p)]
    simp [MergesOnly, merges]
  | followed ht hf hr h =>
    exact mergesOnly_iff_of_concreteForm (Components.get?_ref_of_resolve hr)
      (.expanded ⟨_, ht, hf, hr⟩) h
  | plain ht h => exact mergesOnly_iff_of_concreteForm ht (.plain ht) h

theorem mergesOnly_iff_of_compiles (h : Compiles scope schema p e) :
    MergesOnly (Mergeable objects) e ↔ MergesObjects scope objects schema :=
  compiles_induct (fun _ _ _ => mergesOnly_iff_of_form) h

end

/-! ## Declarations of objects -/

/-- A name is declared to be a validator that can be merged. -/
inductive MergeableName (scope : Scope) : String → Prop where
  | declared {declaration : Declaration} {e : Expr} (hd : declaration ∈ scope.declarations)
    (he : (compile scope (.ofFields declaration.schema) .unstated).result = .ok e)
    (h : Mergeable (MergeableName scope) e) : MergeableName scope declaration.identifier

/-- A name is declared for a schema of an object with nothing to call on its validator. -/
inductive ObjectName (scope : Scope) : String → Prop where
  | declared {declaration : Declaration} {e : Expr} (hd : declaration ∈ scope.declarations)
    (he : (compile scope (.ofFields declaration.schema) .unstated).result = .ok e)
    (h : LeavesUnlinked scope "object" (ObjectName scope) (.ofFields declaration.schema) .unstated) :
    ObjectName scope declaration.identifier

theorem MergeableName.least {P : String → Prop}
    (hP : ∀ declaration ∈ scope.declarations, ∀ e,
      (compile scope (.ofFields declaration.schema) .unstated).result = .ok e →
        Mergeable P e → P declaration.identifier) {name : String}
    (h : MergeableName scope name) : P name :=
  @MergeableName.rec scope (fun name _ => P name) (fun e _ => Mergeable P e)
    (fun hd he _ ih => hP _ hd _ he ih) .made (fun _ _ he ho => .merged he ho)
    (fun _ ih => .named ih) name h

theorem ObjectName.least {P : String → Prop}
    (hP : ∀ declaration ∈ scope.declarations, ∀ e,
      (compile scope (.ofFields declaration.schema) .unstated).result = .ok e →
        LeavesUnlinked scope "object" P (.ofFields declaration.schema) .unstated →
          P declaration.identifier) {name : String}
    (h : ObjectName scope name) : P name :=
  @ObjectName.rec scope (fun name _ => P name)
    (fun schema p _ => LeavesUnlinked scope "object" P schema p)
    (fun hd he _ ih => hP _ hd _ he ih) (fun ht hf _ hp ih => .declared ht hf ih hp)
    (fun hr hc ht hm => .typed hr hc ht hm) (fun hr hc hm hp _ ih => .sole hr hc hm hp ih) name h

theorem compiles_of_compile (h : (compile scope schema p).result = .ok e) :
    Compiles scope schema p e := ⟨scope.room, 0, h⟩

theorem mergeableName_iff_objectName {name : String} :
    MergeableName scope name ↔ ObjectName scope name := by
  constructor
  · intro h
    refine h.least fun declaration hd e he hm => .declared hd he ?_
    exact (mergeable_iff_of_compiles (compiles_of_compile he)).1 hm
  · intro h
    refine h.least fun declaration hd e he hl => .declared hd he ?_
    exact (mergeable_iff_of_compiles (compiles_of_compile he)).2 hl

/-- In a validator only validators of objects are merged, and only into such, exactly if every union
    of several combinations on the way to it is one of schemas of objects. -/
theorem merges_objects_iff (h : (compile scope schema p).result = .ok e) :
    (∀ m ∈ merges e, Mergeable (MergeableName scope) m.1 ∧ Mergeable (MergeableName scope) m.2) ↔
      MergesObjects scope (ObjectName scope) schema := by
  have hsame : MergeableName scope = ObjectName scope :=
    funext fun _ => propext mergeableName_iff_objectName
  rw [hsame]
  exact mergesOnly_iff_of_compiles (compiles_of_compile h)

/-- A combination of two objects. -/
def objectChoice : Value :=
  .object [("anyOf", .ofItems [.object [("type", .text "object")],
    .object [("properties", .object [("a", .object [("type", .text "number")])])]])]

/-- `z.object({})` and `z.object({ a: z.number().optional() })` -/
def objectValidators : List Expr :=
  [z "object" [.object []],
    z "object" [.object [Expr.property "a" (chain (z "number" []) [.call "optional" []])]]]

theorem merges_objects_iff_objectChoice :
    let scope : Scope := .bare
    (compile scope objectChoice .unstated).result = .ok (anyOf objectValidators) ∧
      MergesObjects scope (ObjectName scope) objectChoice := by
  intro scope
  have hcompile : (compile scope objectChoice .unstated).result = .ok (anyOf objectValidators) := rfl
  refine ⟨hcompile, (merges_objects_iff hcompile).1 ?_⟩
  have hsettled : ∀ e ∈ objectValidators, Settled e := by
    simp [objectValidators, settled_z]
  refine (mergesOnly_anyOf_iff (fun _ _ => .merged) hsettled).2 ⟨?_, fun _ => ?_⟩
  · simp [objectValidators, MergesOnly, merges, mergesOfCalls, mergesOfAll, mergesOfProperties, z,
      Expr.property, chain]
  · simp only [objectValidators, List.forall_mem_cons]
    exact ⟨.made, .made, by simp⟩

/-- A combination of a text and a number. -/
def scalarChoice : Value :=
  .object [("anyOf", .ofItems [.object [("type", .text "string")], .object [("type", .text "number")]])]

/-- The validators of a text and of a number are merged. -/
theorem exists_merge_of_scalars :
    ∃ document context e, (Context.ofDocument document).result = .ok context ∧
      (compile context.scope scalarChoice .unstated).result = .ok e ∧
      ¬ ∀ m ∈ merges e, Mergeable (MergeableName context.scope) m.1 ∧
        Mergeable (MergeableName context.scope) m.2 := by
  refine ⟨documentOf [], _, anyOf [z "string" [], z "number" []],
    Context.result_ofDocument_empty, rfl, fun h => ?_⟩
  have hsettled : ∀ e ∈ [z "string" [], z "number" []], Settled e := by
    simp [settled_z]
  have hmembers := ((mergesOnly_anyOf_iff (fun _ _ => .merged) hsettled).1 h).2 (by simp)
  have htext := (mergeable_iff_unlinked (settled_z [] (by simp))).1 (hmembers _ List.mem_cons_self)
  simp [unlinked_z_iff] at htext

end RestContract.Compile
