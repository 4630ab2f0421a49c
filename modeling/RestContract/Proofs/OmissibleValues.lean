import RestContract.Proofs.RepeatedReferences

/-!
# Required values that may be missing

The validator of a required value has no link of its own that lets the value be missing. But only
the outermost schema is told that its value is required. The members of a composition, the schema
taken with each of several types and the schemas that are declared are compiled without a word on
that, and what is nullable there may be missing as well. So a required value can be left out exactly
if such a schema is met at the top of its validator: `atTop_required_iff` says where that is.
-/

namespace RestContract

namespace Expr

/-- A call of a method stands at the top level of an expression: among its own calls, at the top
    level of a member if it is a union, or behind a name of which `carried` says so. -/
inductive Carries (method : String) (carried : String → Prop) : Expr → Prop where
  | link {base : Expr} {calls : List Call} {args : List Expr} (h : .call method args ∈ calls) :
    Carries method carried (.chained base calls)
  | base {base : Expr} {calls : List Call} (hm : isMade base calls = false)
    (h : Carries method carried base) : Carries method carried (.chained base calls)
  | member {members : List Expr} {calls : List Call} {e : Expr} (he : e ∈ members)
    (h : Carries method carried e) :
    Carries method carried (.chained (.identifier "z") (.call "union" [.array members] :: calls))
  | named {name : String} (h : carried name) : Carries method carried (.identifier name)

/-- The methods after which a value may be missing. -/
def omitting : List String := ["optional", "nullish"]

section

variable {method : String} {carried : String → Prop} {e base : Expr} {earlier calls : List Call}

theorem not_mem_makers (hm : method ∈ omitting) : method ∉ makers := by
  revert method
  decide

theorem not_mem_narrowing (hm : method ∈ omitting) : method ∉ Validation.narrowing := by
  revert method
  decide

theorem carries_append_iff (h : ∀ call ∈ calls, IsMethod call) :
    Carries method carried (.chained base (earlier ++ calls)) ↔
      Carries method carried (.chained base earlier) ∨ ∃ args, .call method args ∈ calls := by
  constructor
  · intro hc
    generalize hall : earlier ++ calls = all at hc
    cases hc with
    | link hmem =>
      subst hall
      rcases List.mem_append.1 hmem with hmem | hmem
      · exact .inl (.link hmem)
      · exact .inr ⟨_, hmem⟩
    | base hmade hbase =>
      subst hall
      rw [isMade_append h] at hmade
      exact .inl (.base hmade hbase)
    | member he hmember =>
      -- A call that makes the base is the first one; with no call before them it would be one of
      -- `calls`, and none of these is a maker.
      cases earlier with
      | nil =>
        obtain ⟨_, _, heq, hn⟩ := h (.call "union" _) (hall ▸ List.mem_cons_self)
        cases heq
        simp [makers] at hn
      | cons first rest =>
        cases hall
        exact .inl (.member he hmember)
  · rintro (hc | ⟨args, hmem⟩)
    · cases hc with
      | link hmem => exact .link (List.mem_append_left _ hmem)
      | base hmade hbase => exact .base ((isMade_append h).trans hmade) hbase
      | member he hmember => exact .member he hmember
    · exact .link (List.mem_append_right _ hmem)

theorem carries_chained_nil_iff :
    Carries method carried (.chained base []) ↔ Carries method carried base := by
  have hmade : isMade base [] = false := by cases base <;> rfl
  constructor
  · intro hc
    cases hc with
    | link hmem => cases hmem
    | base _ h => exact h
  · exact .base hmade

/-- The links of an expression are its own and those of the methods that are called on it. -/
theorem carries_chain_iff (h : ∀ call ∈ calls, IsMethod call) :
    Carries method carried (chain e calls) ↔
      Carries method carried e ∨ ∃ args, .call method args ∈ calls := by
  have hbase : Carries method carried (.chained e calls) ↔
      Carries method carried e ∨ ∃ args, .call method args ∈ calls := by
    rw [← List.nil_append calls, carries_append_iff h, carries_chained_nil_iff, List.nil_append]
  unfold chain
  split
  · simp
  · exact carries_append_iff h
  · exact hbase

theorem not_carries_z {maker : String} (args : List Expr) (hm : method ∈ omitting)
    (hmaker : maker ∈ makers) (hu : maker ≠ "union") : ¬ Carries method carried (z maker args) := by
  intro h
  generalize hz : z maker args = made at h
  cases h with
  | link hmem =>
    cases hz
    cases List.mem_singleton.1 hmem
    exact not_mem_makers hm hmaker
  | base hmade =>
    cases hz
    simp [isMade, hmaker] at hmade
  | member =>
    cases hz
    exact hu rfl
  | named => cases hz

theorem carries_z_union_iff {es : List Expr} (hm : method ∈ omitting) :
    Carries method carried (z "union" [.array es]) ↔ ∃ e ∈ es, Carries method carried e := by
  constructor
  · intro h
    generalize hz : z "union" [.array es] = made at h
    cases h with
    | link hmem =>
      cases hz
      cases List.mem_singleton.1 hmem
      simp [omitting] at hm
    | base hmade =>
      cases hz
      simp [isMade, makers] at hmade
    | member he h =>
      cases hz
      exact ⟨_, he, h⟩
    | named => cases hz
  · rintro ⟨e, he, h⟩
    exact .member he h

end

end Expr

namespace Compile

open Schema Validation Expr

section

variable {method : String} {carried : String → Prop} {es : List Expr}

theorem carries_union_iff (hm : method ∈ omitting) :
    Carries method carried (union es) ↔ ∃ e ∈ es, Carries method carried e := by
  unfold union
  split
  · simp
  · exact carries_z_union_iff hm

/-- Of the members that are joined, only the first stands at the top. -/
theorem carries_joinBy_iff {joining : String} (hn : joining ∉ makers) (hne : joining ≠ method) :
    Carries method carried (joinBy joining es) ↔
      ∃ first rest, es = first :: rest ∧ Carries method carried first := by
  cases es with
  | nil =>
    constructor
    · intro h
      cases h
    · rintro ⟨first, rest, heq, _⟩
      cases heq
  | cons first rest =>
    have hmethods : ∀ call ∈ rest.map fun member => Call.call joining [member], IsMethod call := by
      intro call h
      obtain ⟨member, _, rfl⟩ := List.mem_map.1 h
      exact ⟨joining, [member], rfl, hn⟩
    have hcalls : ¬ ∃ args, .call method args ∈ rest.map fun e => Call.call joining [e] := by
      rintro ⟨args, h⟩
      obtain ⟨e, _, heq⟩ := List.mem_map.1 h
      cases heq
      exact hne rfl
    rw [joinBy, carries_chain_iff hmethods, or_iff_left hcalls]
    constructor
    · intro h
      exact ⟨first, rest, rfl, h⟩
    · rintro ⟨_, _, heq, h⟩
      cases heq
      exact h

theorem carries_anyOf_iff (hm : method ∈ omitting) :
    Carries method carried (anyOf es) ↔ ∃ e ∈ es, Carries method carried e := by
  have hn : "merge" ∉ makers := by simp [makers]
  have hne : "merge" ≠ method := by
    rintro rfl
    simp [omitting] at hm
  rw [anyOf, carries_union_iff hm]
  constructor
  · rintro ⟨joined, hj, hc⟩
    obtain ⟨selection, hs, rfl⟩ := List.mem_map.1 hj
    obtain ⟨first, rest, rfl, hfirst⟩ := (carries_joinBy_iff hn hne).1 hc
    exact ⟨first, (mem_selections.1 hs).1.subset List.mem_cons_self, hfirst⟩
  · rintro ⟨e, he, hc⟩
    have hs : [e] ∈ selections es := mem_selections.2 ⟨List.singleton_sublist.2 he, by simp⟩
    exact ⟨_, List.mem_map_of_mem hs, (carries_joinBy_iff hn hne).2 ⟨e, [], rfl, hc⟩⟩

theorem not_carries_enumeration {type : Value} {values : List Value} {e : Expr}
    (hm : method ∈ omitting) (h : (enumeration type values).result = .ok e) :
    ¬ Carries method carried e := by
  cases enumerationForm_of_enumeration h <;>
    exact not_carries_z _ hm (by simp [makers]) (by simp)

end

/-! ## Schemas whose values may be missing -/

/-- The fields that a schema is compiled from, where it is no reference to a declaration. -/
inductive Stands (scope : Scope) : Value → Fields → Prop where
  | plain {fields : Fields} {mark : Option Nat}
    (ht : Reference.target? (.map fields mark) = none) : Stands scope (.map fields mark) fields
  | expanded {schema : Value} {fields : Fields} (he : Expands scope schema fields) :
    Stands scope schema fields

/-- A type that is a list of several types, which may be the only item of further lists. -/
inductive Plural : Value → Prop where
  | many {first second : Value} {rest : List Value} {mark : Option Nat} :
    Plural (.list (first :: second :: rest) mark)
  | sole {tag : Value} {mark : Option Nat} (h : Plural tag) : Plural (.list [tag] mark)

/-- The members of a composition that stand at the top of its validator. -/
inductive Tops (fields : Fields) : Value → Prop where
  | oneOf {member : Value} {parts : List Value} (hv : (fields.get "oneOf").isVacant = false)
    (hp : (fields.get "oneOf").asParts = .ok parts) (hm : member ∈ parts) : Tops fields member
  | allOf {first : Value} {rest : List Value} (ho : (fields.get "oneOf").isVacant = true)
    (hv : (fields.get "allOf").isVacant = false)
    (hp : (fields.get "allOf").asParts = .ok (first :: rest)) : Tops fields first
  | anyOf {member : Value} {parts : List Value} (ho : (fields.get "oneOf").isVacant = true)
    (ha : (fields.get "allOf").isVacant = true) (hv : (fields.get "anyOf").isVacant = false)
    (hp : (fields.get "anyOf").asParts = .ok parts) (hm : member ∈ parts) : Tops fields member

/-- A value of a schema that is no optional property may be missing: the schema is nullable and is
    not told that its value is required, at least not where it is taken with each of its types, or
    this holds of a member at its top or of the declaration that it refers to. Of the methods that
    let a value be missing, only one comes up this way. -/
inductive Omits (scope : Scope) (method : String) (omitted : String → Prop) :
    Value → Presence → Prop where
  | nullable {schema : Value} {fields : Fields} {p : Presence} (hm : method = "nullish")
    (hs : Stands scope schema fields) (hn : (fields.get "nullable").isVacant = false)
    (hp : p ≠ .required ∨ Typed fields ∧ Plural (fields.get "type")) :
    Omits scope method omitted schema p
  | member {schema member : Value} {fields : Fields} {p : Presence}
    (hs : Stands scope schema fields) (ht : Tops fields member)
    (h : Omits scope method omitted member .unstated) : Omits scope method omitted schema p
  | declared {schema ref : Value} {declaration : Declaration} {p : Presence}
    (ht : Reference.target? schema = some ref) (hf : scope.find? ref = some declaration)
    (h : omitted declaration.identifier) : Omits scope method omitted schema p

/-- The validator that a name is declared to be carries a call of the method at its top level. -/
inductive Carried (scope : Scope) (method : String) : String → Prop where
  | declared {declaration : Declaration} {e : Expr} (hd : declaration ∈ scope.declarations)
    (he : (compile scope (.ofFields declaration.schema) .unstated).result = .ok e)
    (h : Carries method (Carried scope method) e) : Carried scope method declaration.identifier

/-- A name is declared for a schema whose values may be missing. -/
inductive Omitted (scope : Scope) (method : String) : String → Prop where
  | declared {declaration : Declaration} {e : Expr} (hd : declaration ∈ scope.declarations)
    (he : (compile scope (.ofFields declaration.schema) .unstated).result = .ok e)
    (h : Omits scope method (Omitted scope method) (.ofFields declaration.schema) .unstated) :
    Omitted scope method declaration.identifier

/-- A call of a method stands at the top level of a validator, or of the declaration it is. -/
def AtTop (scope : Scope) (method : String) (e : Expr) : Prop :=
  Carries method (Carried scope method) e

/-- A value of a schema may be missing although it is required. -/
def Omissible (scope : Scope) (schema : Value) : Prop :=
  Omits scope "nullish" (Omitted scope "nullish") schema .required

theorem Carried.least {scope : Scope} {method : String} {P : String → Prop}
    (hP : ∀ declaration ∈ scope.declarations, ∀ e,
      (compile scope (.ofFields declaration.schema) .unstated).result = .ok e →
        Carries method P e → P declaration.identifier) {name : String}
    (h : Carried scope method name) : P name :=
  @Carried.rec scope method (fun name _ => P name) (fun e _ => Carries method P e)
    (fun hd he _ ih => hP _ hd _ he ih) (fun h => .link h) (fun hm _ ih => .base hm ih)
    (fun he _ ih => .member he ih) (fun _ ih => .named ih) name h

theorem Omitted.least {scope : Scope} {method : String} {P : String → Prop}
    (hP : ∀ declaration ∈ scope.declarations, ∀ e,
      (compile scope (.ofFields declaration.schema) .unstated).result = .ok e →
        Omits scope method P (.ofFields declaration.schema) .unstated → P declaration.identifier)
    {name : String} (h : Omitted scope method name) : P name :=
  @Omitted.rec scope method (fun name _ => P name) (fun schema p _ => Omits scope method P schema p)
    (fun hd he _ ih => hP _ hd _ he ih) (fun hm hs hn hp => .nullable hm hs hn hp)
    (fun hs ht _ ih => .member hs ht ih) (fun ht hf _ ih => .declared ht hf ih) name h

section

variable {scope : Scope} {method : String} {omitted : String → Prop} {fields : Fields}
  {schema type : Value} {p : Presence} {e : Expr}

theorem Stands.eq {other : Fields} (h : Stands scope schema fields)
    (ho : Stands scope schema other) : fields = other := by
  cases h with
  | plain ht =>
    cases ho with
    | plain => rfl
    | expanded he =>
      obtain ⟨_, ht', _⟩ := he
      cases ht.symm.trans ht'
  | expanded he =>
    cases ho with
    | plain ht =>
      obtain ⟨_, ht', _⟩ := he
      cases ht.symm.trans ht'
    | expanded ho => exact he.eq ho

theorem Stands.not_declared {ref : Value} {declaration : Declaration}
    (h : Stands scope schema fields) (ht : Reference.target? schema = some ref)
    (hf : scope.find? ref = some declaration) : False := by
  cases h with
  | plain hn => cases hn.symm.trans ht
  | expanded he =>
    obtain ⟨_, ht', hf', _⟩ := he
    cases ht.symm.trans ht'
    cases hf.symm.trans hf'

/-- A value may be missing by what stands in the fields of its schema, taken with a type. -/
def OmitsWithin (scope : Scope) (method : String) (omitted : String → Prop) (fields : Fields)
    (type : Value) (p : Presence) : Prop :=
  (method = "nullish" ∧ (fields.get "nullable").isVacant = false ∧
      (p ≠ .required ∨ Typed fields ∧ Plural type)) ∨
    ∃ member, Tops fields member ∧ Omits scope method omitted member .unstated

theorem omits_iff_of_stands (hs : Stands scope schema fields) :
    Omits scope method omitted schema p ↔
      OmitsWithin scope method omitted fields (fields.get "type") p := by
  constructor
  · intro h
    cases h with
    | nullable hm hs' hn hp =>
      cases hs.eq hs'
      exact .inl ⟨hm, hn, hp⟩
    | member hs' ht h =>
      cases hs.eq hs'
      exact .inr ⟨_, ht, h⟩
    | declared ht hf => exact (hs.not_declared ht hf).elim
  · rintro (⟨hm, hn, hp⟩ | ⟨member, ht, h⟩)
    · exact .nullable hm hs hn hp
    · exact .member hs ht h

theorem omits_iff_of_target {ref : Value} {declaration : Declaration}
    (ht : Reference.target? schema = some ref) (hf : scope.find? ref = some declaration) :
    Omits scope method omitted schema p ↔ omitted declaration.identifier := by
  constructor
  · intro h
    cases h with
    | nullable _ hs | member hs => exact (hs.not_declared ht hf).elim
    | declared ht' hf' h =>
      cases ht.symm.trans ht'
      cases hf.symm.trans hf'
      exact h
  · exact .declared ht hf

theorem Tops.congr {other : Fields}
    (hab : ∀ name, name ≠ "type" → fields.get? name = other.get? name) {member : Value}
    (h : Tops fields member) : Tops other member := by
  have hget : ∀ {name}, name ≠ "type" → fields.get name = other.get name := get_congr hab
  cases h with
  | oneOf hv hp hm =>
    rw [hget (by simp)] at hv hp
    exact .oneOf hv hp hm
  | allOf ho hv hp =>
    rw [hget (by simp)] at ho hv hp
    exact .allOf ho hv hp
  | anyOf ho ha hv hp hm =>
    rw [hget (by simp)] at ho ha hv hp
    exact .anyOf ho ha hv hp hm

/-- A schema that is taken with another type is compiled from the same fields otherwise. -/
theorem omits_retyped_iff (hr : fields.get? "$ref" = none) (tag : Value) :
    Omits scope method omitted (retyped fields tag) p ↔
      OmitsWithin scope method omitted fields tag p := by
  have hput : ∀ name, name ≠ "type" → (fields.put "type" tag).get? name = fields.get? name :=
    fun name hn => fields.get?_put_of_ne tag hn
  have htops : ∀ member, Tops (fields.put "type" tag) member ↔ Tops fields member :=
    fun member => ⟨.congr hput, .congr fun name hn => (hput name hn).symm⟩
  have htyped : Typed (fields.put "type" tag) ↔ Typed fields :=
    ⟨.congr hput, .congr fun name hn => (hput name hn).symm⟩
  have hnullable : (fields.put "type" tag).get "nullable" = fields.get "nullable" :=
    get_congr hput (by simp)
  have hs : Stands scope (retyped fields tag) (fields.put "type" tag) :=
    .plain (target?_retyped hr tag)
  rw [omits_iff_of_stands hs, OmitsWithin, OmitsWithin, Fields.get_put_self, hnullable, htyped]
  simp only [htops]

theorem tops_iff_of_oneOf {parts : List Value} {member : Value}
    (hv : (fields.get "oneOf").isVacant = false) (hp : (fields.get "oneOf").asParts = .ok parts) :
    Tops fields member ↔ member ∈ parts := by
  constructor
  · intro h
    cases h with
    | oneOf _ hp' hm =>
      cases hp.symm.trans hp'
      exact hm
    | allOf ho | anyOf ho => cases hv.symm.trans ho
  · exact .oneOf hv hp

theorem tops_iff_of_allOf {parts : List Value} {member : Value}
    (ho : (fields.get "oneOf").isVacant = true) (hv : (fields.get "allOf").isVacant = false)
    (hp : (fields.get "allOf").asParts = .ok parts) :
    Tops fields member ↔ ∃ rest, parts = member :: rest := by
  constructor
  · intro h
    cases h with
    | oneOf hv' => cases ho.symm.trans hv'
    | allOf _ _ hp' =>
      cases hp.symm.trans hp'
      exact ⟨_, rfl⟩
    | anyOf _ ha => cases hv.symm.trans ha
  · rintro ⟨rest, rfl⟩
    exact .allOf ho hv hp

theorem tops_iff_of_anyOf {parts : List Value} {member : Value}
    (ho : (fields.get "oneOf").isVacant = true) (ha : (fields.get "allOf").isVacant = true)
    (hv : (fields.get "anyOf").isVacant = false) (hp : (fields.get "anyOf").asParts = .ok parts) :
    Tops fields member ↔ member ∈ parts := by
  constructor
  · intro h
    cases h with
    | oneOf hv' => cases ho.symm.trans hv'
    | allOf _ hv' => cases ha.symm.trans hv'
    | anyOf _ _ _ hp' hm =>
      cases hp.symm.trans hp'
      exact hm
  · exact .anyOf ho ha hv hp

theorem Uncomposed.not_tops (hu : Uncomposed fields) (member : Value) : ¬ Tops fields member := by
  intro h
  cases h with
  | oneOf hv => cases hu.oneOf.symm.trans hv
  | allOf _ hv => cases hu.allOf.symm.trans hv
  | anyOf _ _ hv => cases hu.anyOf.symm.trans hv

end

/-! ## The validator of a schema whose values may be missing -/

section

variable {scope : Scope} {method : String} {omitted : String → Prop} {fields : Fields}
  {schema type : Value} {p : Presence} {e : Expr} (hm : method ∈ omitting)

/-- Unless a schema is one of an optional property, a call that lets its value be missing stands at
    the top of its validator exactly if the value may be missing. -/
def CarriesOmits (scope : Scope) (method : String) (omitted : String → Prop) : Relates :=
  fun schema p e => p ≠ .optional →
    (Carries method omitted e ↔ Omits scope method omitted schema p)

include hm

theorem mem_presence_iff (fields : Fields) (hp : p ≠ .optional) :
    (∃ args, .call method args ∈ presence fields p) ↔
      method = "nullish" ∧ (fields.get "nullable").isVacant = false ∧ p ≠ .required := by
  have hne : method ≠ "nullable" := by
    rintro rfl
    simp [omitting] at hm
  unfold presence
  cases hv : (fields.get "nullable").isVacant <;> cases p <;> simp_all

theorem mem_calls_iff {calls : List Call} (hp : p ≠ .optional)
    (h : Validation.calls fields type p = .ok calls) :
    (∃ args, .call method args ∈ calls) ↔
      method = "nullish" ∧ (fields.get "nullable").isVacant = false ∧ p ≠ .required := by
  obtain ⟨narrowed, default, rfl, hn, hd⟩ := exists_of_calls h
  have hnarrowed : ∀ args, .call method args ∉ narrowed :=
    fun args hmem => not_mem_narrowing hm ((callsOnly_constraints hn).mem hmem)
  have hdefault : ∀ args, .call method args ∉ default := by
    intro args hmem
    have hmethod := (callsOnly_defaultCalls hd).mem hmem
    rw [List.mem_singleton] at hmethod
    simp [hmethod, omitting] at hm
  rw [← mem_presence_iff hm fields hp]
  simp [hnarrowed, hdefault]

omit hm in
theorem exists_carries_iff {schemas : List Value} {es : List Expr}
    (h : List.Forall₂ (fun schema e => CarriesOmits scope method omitted schema .unstated e)
      schemas es) :
    (∃ e ∈ es, Carries method omitted e) ↔
      ∃ schema ∈ schemas, Omits scope method omitted schema .unstated := by
  induction h with
  | nil => simp
  | cons h _ ih => simp [h (by simp), ih]

theorem not_carries_objectForm {R : Relates} (h : ObjectForm R fields e) :
    ¬ Carries method omitted e := by
  cases h <;> exact not_carries_z _ hm (by simp [makers]) (by simp)

theorem not_carries_tagForm {R : Relates} (h : TagForm R fields type e) :
    ¬ Carries method omitted e := by
  cases h with
  | text =>
    unfold Compile.text
    split <;> exact not_carries_z _ hm (by simp [makers]) (by simp)
  | object _ h => exact not_carries_objectForm hm h
  | _ => exact not_carries_z _ hm (by simp [makers]) (by simp)

/-- The validators for several types each have the links of the schema, the one for a single type
    has none. -/
theorem carries_typeForm_iff (hr : fields.get? "$ref" = none) (hu : Uncomposed fields)
    (hs : ∀ tag mark, type ≠ .list [tag] mark)
    (h : TypeForm (CarriesOmits scope method omitted) fields type e) :
    Carries method omitted e ↔
      method = "nullish" ∧ (fields.get "nullable").isVacant = false ∧ Plural type := by
  cases h with
  | @tags first second rest mark es h =>
    have hmembers := exists_carries_iff (List.forall₂_map_left_iff.2 h)
    rw [carries_z_union_iff hm, hmembers]
    simp only [List.mem_map, exists_exists_and_eq_and, omits_retyped_iff hr, OmitsWithin]
    constructor
    · rintro ⟨tag, _, ⟨hn, hv, _⟩ | ⟨member, ht, _⟩⟩
      · exact ⟨hn, hv, .many⟩
      · exact absurd ht (hu.not_tops member)
    · rintro ⟨hn, hv, _⟩
      exact ⟨first, List.mem_cons_self, .inl ⟨hn, hv, .inl (by simp)⟩⟩
  | tag ht h =>
    refine iff_of_false (not_carries_tagForm hm h) ?_
    rintro ⟨_, _, hplural⟩
    cases hplural with
    | many => exact ht _ _ _ _ rfl
    | sole => exact hs _ _ rfl

theorem carries_baseForm_iff (hr : fields.get? "$ref" = none)
    (hs : ∀ tag mark, type ≠ .list [tag] mark)
    (h : BaseForm (CarriesOmits scope method omitted) fields type e) :
    Carries method omitted e ↔
      (method = "nullish" ∧ (fields.get "nullable").isVacant = false ∧
          Typed fields ∧ Plural type) ∨
        ∃ member, Tops fields member ∧ Omits scope method omitted member .unstated := by
  cases h with
  | oneOf hv h =>
    have hn := not_typed_of_composition (composition_eq_oneOf hv)
    obtain ⟨parts, hp, h⟩ := h
    rw [carries_union_iff hm, exists_carries_iff h]
    simp only [hn, tops_iff_of_oneOf hv hp, false_and, and_false, false_or]
  | allOf ho hv h =>
    have hn := not_typed_of_composition (composition_eq_allOf ho hv)
    obtain ⟨parts, hp, h⟩ := h
    have hne : "and" ≠ method := by
      rintro rfl
      simp [omitting] at hm
    rw [carries_joinBy_iff (by simp [makers]) hne]
    simp only [hn, tops_iff_of_allOf ho hv hp, false_and, and_false, false_or]
    cases h with
    | nil => simp
    | cons h _ => simp [h (by simp)]
  | anyOf ho ha hv h hl =>
    have hn := not_typed_of_composition (composition_eq_anyOf ho ha hv)
    obtain ⟨parts, hp, h⟩ := h
    rw [carries_anyOf_iff hm, exists_carries_iff h]
    simp only [hn, tops_iff_of_anyOf ho ha hv hp, false_and, and_false, false_or]
  | enum hu hv _ h =>
    have hn : ¬ Typed fields := fun ht => by cases hv.symm.trans ht.enum
    simp [not_carries_enumeration hm h, hn, hu.not_tops]
  | typed hu hv h =>
    have ht : Typed fields := ⟨hu.composition_eq_none, hv⟩
    rw [carries_typeForm_iff hm hr hu hs h]
    simp [ht, hu.not_tops]

theorem carries_concreteForm_iff (hr : fields.get? "$ref" = none) (hp : p ≠ .optional)
    (h : ConcreteForm (CarriesOmits scope method omitted) fields p e) :
    Carries method omitted e ↔ OmitsWithin scope method omitted fields (fields.get "type") p := by
  cases h with
  | @sole tag mark _ ht h =>
    have hplural : Plural (fields.get "type") ↔ Plural tag := by
      rw [ht]
      constructor
      · intro hs
        cases hs
        assumption
      · exact .sole
    rw [h hp, omits_retyped_iff hr, OmitsWithin, OmitsWithin, hplural]
  | chain ht _ h hc =>
    rw [carries_chain_iff (bare_calls hc).isMethod, carries_baseForm_iff hm hr ht h,
      mem_calls_iff hm hp hc, OmitsWithin]
    constructor
    · rintro ((⟨hn, hv, ht⟩ | htops) | ⟨hn, hv, hp⟩)
      · exact .inl ⟨hn, hv, .inr ht⟩
      · exact .inr htops
      · exact .inl ⟨hn, hv, .inl hp⟩
    · rintro (⟨hn, hv, hp | ht⟩ | htops)
      · exact .inr ⟨hn, hv, hp⟩
      · exact .inl (.inl ⟨hn, hv, ht⟩)
      · exact .inl (.inr htops)

theorem carriesOmits_of_form (h : Form scope (CarriesOmits scope method omitted) schema p e) :
    CarriesOmits scope method omitted schema p e := by
  intro hp
  cases h with
  | declared ht hf =>
    have hnone : ¬ ∃ args, .call method args ∈ presence [] p := by
      rw [mem_presence_iff hm [] hp]
      rintro ⟨_, hv, _⟩
      cases hv
    rw [omits_iff_of_target ht hf, carries_chain_iff (bare_presence [] p).isMethod,
      or_iff_left hnone]
    constructor
    · intro h
      cases h
      assumption
    · exact .named
  | followed ht hf hr h =>
    rw [omits_iff_of_stands (.expanded ⟨_, ht, hf, hr⟩)]
    exact carries_concreteForm_iff hm (Components.get?_ref_of_resolve hr) hp h
  | plain ht h =>
    rw [omits_iff_of_stands (.plain ht)]
    exact carries_concreteForm_iff hm ht hp h

/-- A call that lets a value be missing stands at the top of a validator exactly if values of its
    schema may be missing, whatever that means for the names that are declared. -/
theorem carries_compile_iff (h : (compile scope schema p).result = .ok e) (hp : p ≠ .optional) :
    Carries method omitted e ↔ Omits scope method omitted schema p :=
  compile_induct (fun _ _ _ => carriesOmits_of_form hm) h hp

theorem carried_iff_omitted {name : String} :
    Carried scope method name ↔ Omitted scope method name := by
  constructor
  · intro h
    refine h.least fun declaration hd e he hc => .declared hd he ?_
    exact (carries_compile_iff hm he (by simp)).1 hc
  · intro h
    refine h.least fun declaration hd e he ho => .declared hd he ?_
    exact (carries_compile_iff hm he (by simp)).2 ho

end

theorem not_omits_optional {scope : Scope} {omitted : String → Prop} (hn : ∀ name, ¬ omitted name)
    {schema : Value} {p : Presence} : ¬ Omits scope "optional" omitted schema p := by
  intro h
  induction h with
  | nullable hm => simp at hm
  | member _ _ _ ih => exact ih
  | declared _ _ h => exact hn _ h

theorem not_omitted_optional {scope : Scope} (name : String) : ¬ Omitted scope "optional" name :=
  fun h => h.least (P := fun _ => False) fun _ _ _ _ ho => not_omits_optional (fun _ => id) ho

/-- At the top of the validator of a required schema stands no call that makes it optional, and one
    that lets it be null or missing exactly if a nullable schema is met there that was not told that
    its value is required. -/
theorem atTop_required_iff {scope : Scope} {schema : Value} {e : Expr}
    (h : (compile scope schema .required).result = .ok e) :
    ¬ AtTop scope "optional" e ∧ (AtTop scope "nullish" e ↔ Omissible scope schema) := by
  have hcarried : ∀ method ∈ omitting, (AtTop scope method e ↔
      Omits scope method (Omitted scope method) schema .required) := by
    intro method hm
    have hsame : Carried scope method = Omitted scope method :=
      funext fun _ => propext (carried_iff_omitted hm)
    rw [AtTop, hsame]
    exact carries_compile_iff hm h (by simp)
  constructor
  · rw [hcarried _ (by simp [omitting])]
    exact not_omits_optional not_omitted_optional
  · exact hcarried _ (by simp [omitting])

/-- A text that may be null, or a number. -/
def nullableChoice : Value :=
  .object [("oneOf", .ofItems [.object [("type", .text "string"), ("nullable", .bool true)],
    .object [("type", .text "number")]])]

/-- `z.union([z.string().nullish(), z.number()])` -/
def nullableUnion : Expr :=
  Expr.z "union" [.array [.chained (.identifier "z") [.call "string" [], .call "nullish" []],
    Expr.z "number" []]]

theorem compile_nullableChoice {scope : Scope} (h : scope.room = usualRoom) :
    (compile scope nullableChoice .required).result = .ok nullableUnion := by
  rw [compile, h]
  rfl

theorem atTop_nullableUnion (scope : Scope) : AtTop scope "nullish" nullableUnion :=
  .member List.mem_cons_self (.link (List.mem_cons_of_mem _ (List.mem_singleton_self _)))

theorem atTop_required_iff_nullableChoice :
    let scope : Scope := .bare
    (compile scope nullableChoice .required).result = .ok nullableUnion ∧
      ¬ AtTop scope "optional" nullableUnion ∧ Omissible scope nullableChoice := by
  intro scope
  have hcompile : (compile scope nullableChoice .required).result = .ok nullableUnion :=
    compile_nullableChoice rfl
  obtain ⟨hoptional, hnullish⟩ := atTop_required_iff hcompile
  exact ⟨hcompile, hoptional, hnullish.1 (atTop_nullableUnion scope)⟩

/-- The validator of a required choice between a nullable schema and another one can be left out. -/
theorem exists_atTop_nullish :
    ∃ document context schema e, (Context.ofDocument document).result = .ok context ∧
      (compile context.scope schema .required).result = .ok e ∧
      AtTop context.scope "nullish" e :=
  ⟨documentOf [], _, nullableChoice, nullableUnion, Context.result_ofDocument_empty,
    compile_nullableChoice rfl, atTop_nullableUnion _⟩

end Compile
end RestContract
