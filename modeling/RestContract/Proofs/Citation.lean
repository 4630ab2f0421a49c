import RestContract.Proofs.CompiledForm
import RestContract.Proofs.Resolution
import RestContract.Proofs.UsedNames

/-!
# What a validator cites

The schemas inside a schema that its validator is made of, and the declarations that are met among
them. The names that a validator uses are the identifiers of the declarations that its schema cites.
-/

namespace RestContract

namespace Fields

theorem get?_put_self (fields : Fields) (name : String) (value : Value) :
    (fields.put name value).get? name = some value := by
  induction fields with
  | nil => simp [put, get?]
  | cons field rest ih =>
    obtain ⟨key, old⟩ := field
    unfold put
    split
    · next h => rw [get?, if_pos h]
    · next h => rw [get?, if_neg h, ih]

theorem get_put_self (fields : Fields) (name : String) (value : Value) :
    (fields.put name value).get name = value := by
  rw [get, get?_put_self, Option.getD_some]

theorem get?_put_of_ne (fields : Fields) {name other : String} (value : Value)
    (h : other ≠ name) : (fields.put name value).get? other = fields.get? other := by
  induction fields with
  | nil => simp [put, get?, Ne.symm h]
  | cons field rest ih =>
    obtain ⟨key, old⟩ := field
    unfold put
    split
    · next hk =>
      have hne : key ≠ .text other := by
        rw [hk]
        simpa using Ne.symm h
      rw [get?, get?, if_neg hne, if_neg hne]
    · rw [get?, get?, ih]

theorem eq_or_mem_of_mem_put {fields : Fields} {name : String} {value : Value}
    {field : Scalar × Value} (h : field ∈ fields.put name value) :
    field = (.text name, value) ∨ field ∈ fields := by
  induction fields with
  | nil => exact .inl (List.mem_singleton.1 h)
  | cons first rest ih =>
    obtain ⟨key, old⟩ := first
    unfold put at h
    split at h
    · next hk =>
      subst hk
      exact (List.mem_cons.1 h).imp_right (List.mem_cons_of_mem _)
    · rcases List.mem_cons.1 h with rfl | h
      · exact .inr List.mem_cons_self
      · exact (ih h).imp_right (List.mem_cons_of_mem _)

end Fields

namespace Compile

open Schema Validation Expr

/-- The members of the composition that a schema is compiled by. -/
def composition (fields : Fields) : Option Value :=
  if (fields.get "oneOf").isVacant = false then some (fields.get "oneOf")
  else if (fields.get "allOf").isVacant = false then some (fields.get "allOf")
  else if (fields.get "anyOf").isVacant = false then some (fields.get "anyOf")
  else none

theorem Uncomposed.composition_eq_none {fields : Fields} (h : Uncomposed fields) :
    composition fields = none := by
  simp [composition, h.oneOf, h.allOf, h.anyOf]

theorem composition_eq_oneOf {fields : Fields} (hv : (fields.get "oneOf").isVacant = false) :
    composition fields = some (fields.get "oneOf") := by
  simp [composition, hv]

theorem composition_eq_allOf {fields : Fields} (ho : (fields.get "oneOf").isVacant = true)
    (hv : (fields.get "allOf").isVacant = false) :
    composition fields = some (fields.get "allOf") := by
  simp [composition, ho, hv]

theorem composition_eq_anyOf {fields : Fields} (ho : (fields.get "oneOf").isVacant = true)
    (ha : (fields.get "allOf").isVacant = true) (hv : (fields.get "anyOf").isVacant = false) :
    composition fields = some (fields.get "anyOf") := by
  simp [composition, ho, ha, hv]

/-- A schema that is compiled by its type. -/
structure Typed (fields : Fields) : Prop where
  uncomposed : composition fields = none
  enum : fields.get? "enum" = none

theorem not_typed_of_composition {fields : Fields} {members : Value}
    (hc : composition fields = some members) : ¬ Typed fields := by
  intro hu
  cases hc.symm.trans hu.uncomposed

/-- A type that is not a list of further types. -/
def Single (type : Value) : Prop := ∀ first rest mark, type ≠ .list (first :: rest) mark

theorem Single.eq_nil {tags : List Value} {mark : Option Nat} (h : Single (.list tags mark)) :
    tags = [] := by
  cases tags with
  | nil => rfl
  | cons first rest => exact absurd rfl (h first rest mark)

theorem single_of_ne {type : Value} (hs : ∀ tag mark, type ≠ .list [tag] mark)
    (h : ∀ first second rest mark, type ≠ .list (first :: second :: rest) mark) : Single type := by
  rintro first rest mark rfl
  cases rest with
  | nil => exact hs first mark rfl
  | cons second rest => exact h first second rest mark rfl

/-- A schema is compiled on the way to the validator of another one, taken with a type. A list of
    types is taken one by one. -/
inductive Taken (fields : Fields) : Value → Value → Prop where
  | member {type members schema : Value} {parts : List Value}
    (hc : composition fields = some members) (hp : members.asParts = .ok parts)
    (hm : schema ∈ parts) : Taken fields type schema
  | tag {tags : List Value} {mark : Option Nat} {tag schema : Value} (ht : tag ∈ tags)
    (h : Taken fields tag schema) : Taken fields (.list tags mark) schema
  | items (hu : Typed fields) (hi : (fields.get "items").isNull = false) :
    Taken fields (.text "array") (fields.get "items")
  | additional {type : Value} {additional : Fields} {mark : Option Nat} (hu : Typed fields)
    (hs : Single type) (ht : IsObject fields type)
    (hp : (fields.get "properties").isVacant = true)
    (ha : fields.get "additionalProperties" = .map additional mark) :
    Taken fields type (.map additional mark)
  | property {type schema : Value} {key : Scalar} {entries : Fields} (hu : Typed fields)
    (hs : Single type) (ht : IsObject fields type)
    (hn : isRecord fields = false)
    (he : (fields.get "properties").orEmptyMap.asFields = .ok entries)
    (hm : (key, schema) ∈ entries) : Taken fields type schema

/-- A schema cites a declaration: one of the schemas that its validator is made of is a reference to
    it. -/
inductive Cites (scope : Scope) : Value → Declaration → Prop where
  | declared {schema ref : Value} {declaration : Declaration}
    (ht : Reference.target? schema = some ref) (hf : scope.find? ref = some declaration) :
    Cites scope schema declaration
  | followed {schema ref inner : Value} {fields : Fields} {declaration : Declaration}
    (ht : Reference.target? schema = some ref) (hf : scope.find? ref = none)
    (hr : Components.resolve scope.components ref = .ok fields)
    (hi : Taken fields (fields.get "type") inner) (h : Cites scope inner declaration) :
    Cites scope schema declaration
  | plain {fields : Fields} {mark : Option Nat} {inner : Value} {declaration : Declaration}
    (ht : Reference.target? (.map fields mark) = none)
    (hi : Taken fields (fields.get "type") inner) (h : Cites scope inner declaration) :
    Cites scope (.map fields mark) declaration

/-! ## The type does not matter to what stands beside it -/

section

variable {a b : Fields} (hab : ∀ name, name ≠ "type" → a.get? name = b.get? name)

include hab

theorem get_congr {name : String} (h : name ≠ "type") : a.get name = b.get name := by
  rw [Fields.get, Fields.get, hab name h]

theorem composition_congr : composition a = composition b := by
  unfold composition
  rw [get_congr hab (by simp), get_congr hab (by simp), get_congr hab (by simp)]

theorem Typed.congr (h : Typed a) : Typed b where
  uncomposed := by rw [← composition_congr hab, h.uncomposed]
  enum := by rw [← hab _ (by simp), h.enum]

theorem IsObject.congr {type : Value} (h : IsObject a type) : IsObject b type := by
  rw [IsObject, ← get_congr hab (by simp)]
  exact h

theorem Taken.congr {type schema : Value} (h : Taken a type schema) : Taken b type schema := by
  have hget : ∀ {name}, name ≠ "type" → a.get name = b.get name := get_congr hab
  induction h with
  | member hc hp hm => exact .member (composition_congr hab ▸ hc) hp hm
  | tag ht h ih => exact .tag ht ih
  | items hu hi =>
    rw [hget (by simp)] at hi ⊢
    exact .items (hu.congr hab) hi
  | additional hu hs ht hp ha =>
    rw [hget (by simp)] at hp ha
    exact .additional (hu.congr hab) hs (ht.congr hab) hp ha
  | property hu hs ht hn he hm =>
    rw [isRecord, hget (by simp), hget (by simp)] at hn
    rw [hget (by simp)] at he
    exact .property (hu.congr hab) hs (ht.congr hab) hn he hm

end

theorem taken_put_iff {fields : Fields} {type other schema : Value} :
    Taken (fields.put "type" other) type schema ↔ Taken fields type schema := by
  have h : ∀ name, name ≠ "type" → (fields.put "type" other).get? name = fields.get? name :=
    fun name hn => fields.get?_put_of_ne other hn
  exact ⟨.congr h, .congr fun name hn => (h name hn).symm⟩

/-! ## What is taken, form by form -/

section

variable {fields : Fields} {type schema : Value}

theorem taken_iff_of_members {members : Value} {parts : List Value}
    (hc : composition fields = some members) (hp : members.asParts = .ok parts) :
    Taken fields type schema ↔ schema ∈ parts := by
  constructor
  · intro h
    induction h with
    | member hc' hp' hm =>
      cases hc.symm.trans hc'
      cases hp.symm.trans hp'
      exact hm
    | tag _ _ ih => exact ih
    | items hu | additional hu | property hu => cases hc.symm.trans hu.uncomposed
  · exact .member hc hp

theorem not_taken_of_enum {values : Value} (hc : composition fields = none)
    (he : fields.get? "enum" = some values) : ¬ Taken fields type schema := by
  intro h
  induction h with
  | member hc' => cases hc.symm.trans hc'
  | tag _ _ ih => exact ih
  | items hu | additional hu | property hu => cases he.symm.trans hu.enum

theorem taken_list_iff {first : Value} {rest : List Value} {mark : Option Nat}
    (hu : composition fields = none) :
    Taken fields (.list (first :: rest) mark) schema ↔
      ∃ tag ∈ first :: rest, Taken fields tag schema := by
  constructor
  · intro h
    cases h with
    | member hc => cases hu.symm.trans hc
    | tag ht h => exact ⟨_, ht, h⟩
    | additional _ hs => exact absurd rfl (hs first rest mark)
    | property _ hs => exact absurd rfl (hs first rest mark)
  · rintro ⟨tag, ht, h⟩
    exact .tag ht h

theorem not_isObject_of_mem {tag : String} (hm : tag ∈ plainTags) :
    ¬ IsObject fields (.text tag) := by
  rintro (h | ⟨_, h⟩)
  · cases h
    simp [plainTags] at hm
  · exact h tag hm rfl

theorem taken_array_iff (hu : Typed fields) :
    Taken fields (.text "array") schema ↔
      (fields.get "items").isNull = false ∧ schema = fields.get "items" := by
  constructor
  · intro h
    cases h with
    | member hc => cases hu.uncomposed.symm.trans hc
    | items _ hi => exact ⟨hi, rfl⟩
    | additional _ _ ht | property _ _ ht => exact absurd ht (not_isObject_of_mem (by simp [plainTags]))
  · rintro ⟨hi, rfl⟩
    exact .items hu hi

theorem taken_object_iff (hu : Typed fields) (hs : Single type) (ht : IsObject fields type) :
    Taken fields type schema ↔
      (fields.get "properties").isVacant = true ∧
          (∃ additional mark, fields.get "additionalProperties" = .map additional mark ∧
            schema = .map additional mark) ∨
        isRecord fields = false ∧ ∃ entries key,
          (fields.get "properties").orEmptyMap.asFields = .ok entries ∧ (key, schema) ∈ entries := by
  constructor
  · intro h
    cases h with
    | member hc => cases hu.uncomposed.symm.trans hc
    | tag hm h =>
      rw [hs.eq_nil] at hm
      cases hm
    | items => exact absurd ht (not_isObject_of_mem (by simp [plainTags]))
    | additional _ _ _ hp ha => exact .inl ⟨hp, _, _, ha, rfl⟩
    | property _ _ _ hn he hm => exact .inr ⟨hn, _, _, he, hm⟩
  · rintro (⟨hp, additional, mark, ha, rfl⟩ | ⟨hn, entries, key, he, hm⟩)
    · exact .additional hu hs ht hp ha
    · exact .property hu hs ht hn he hm

/-- Neither a list nor an object takes anything along. -/
theorem not_taken_of_scalar (hu : Typed fields) (hs : Single type) (ha : type ≠ .text "array")
    (ho : ¬ IsObject fields type) : ¬ Taken fields type schema := by
  intro h
  cases h with
  | member hc => cases hu.uncomposed.symm.trans hc
  | tag hm h =>
    rw [hs.eq_nil] at hm
    cases hm
  | items => exact ha rfl
  | additional _ _ ht | property _ _ ht => exact ho ht

/-! ## What a validator is made of -/

/-- A validator that the library makes from these validators and from no others. -/
inductive Encloses : Expr → List Expr → Prop where
  | leaf {method : String} (hm : method ∈ makers) : Encloses (z method []) []
  | file : Encloses (z "instanceof" [.identifier "File"]) []
  | any {method : String} (hm : method ∈ makers) (hi : method ≠ "instanceof") :
    Encloses (z method [z "any" []]) []
  | one {method : String} {e : Expr} (hm : method ∈ makers) (hi : method ≠ "instanceof") :
    Encloses (z method [e]) [e]
  | properties {compiled : List Property} {es : List Expr}
    (h : List.Forall₂ (fun p e => ∃ key, p = .valued key e) compiled es) :
    Encloses (z "object" [.object compiled]) es

/-- A validator is made of the validators of what is taken with a type. -/
def EnclosesTaken (R : Relates) (fields : Fields) (type : Value) (e : Expr) : Prop :=
  ∃ schemas es, (∀ schema, Taken fields type schema ↔ schema ∈ schemas) ∧ Encloses e es ∧
    List.Forall₂ (fun schema e => ∃ p, R schema p e) schemas es

variable {R : Relates} {e : Expr}

theorem exists_of_propertyForm {required : List Scalar} {entries : Fields} {compiled : List Property}
    (h : List.Forall₂ (PropertyForm R required) entries compiled) :
    ∃ es, List.Forall₂ (fun p e => ∃ key, p = .valued key e) compiled es ∧
      List.Forall₂ (fun schema e => ∃ p, R schema p e) (entries.map Prod.snd) es := by
  induction h with
  | nil => exact ⟨[], .nil, .nil⟩
  | cons h _ ih =>
    obtain ⟨e, rfl, he⟩ := h
    obtain ⟨es, hp, hr⟩ := ih
    exact ⟨e :: es, .cons ⟨_, rfl⟩ hp, .cons ⟨_, he⟩ hr⟩

theorem enclosesTaken_of_objectForm (hu : Typed fields) (hs : Single type)
    (ht : IsObject fields type) (h : ObjectForm R fields e) : EnclosesTaken R fields type e := by
  cases h with
  | anyRecord hp ha =>
    refine ⟨[], [], fun schema => ?_, .any (by simp [makers]) (by simp), .nil⟩
    rw [taken_object_iff hu hs ht, isRecord, ha, hp]
    simp
  | @record additional mark value hp ha h =>
    refine ⟨[.map additional mark], [value], fun schema => ?_, .one (by simp [makers]) (by simp),
      .cons ⟨_, h⟩ .nil⟩
    rw [taken_object_iff hu hs ht, isRecord, ha, hp]
    simp
  | @properties required entries compiled hn hr he h =>
    obtain ⟨es, hp, hall⟩ := exists_of_propertyForm h
    refine ⟨entries.map Prod.snd, es, fun schema => ?_, .properties hp, hall⟩
    rw [taken_object_iff hu hs ht]
    constructor
    · rintro (⟨hp, additional, mark, ha, rfl⟩ | ⟨_, others, key, ho, hm⟩)
      · simp [isRecord, hp, ha] at hn
      · cases he.symm.trans ho
        exact List.mem_map_of_mem hm
    · intro hm
      obtain ⟨⟨key, value⟩, hentry, rfl⟩ := List.mem_map.1 hm
      exact .inr ⟨hn, entries, key, he, hentry⟩

theorem enclosesTaken_of_tagForm (hu : Typed fields) (hs : Single type)
    (h : TagForm R fields type e) : EnclosesTaken R fields type e := by
  have hnone : Encloses e [] → (∀ schema, ¬ Taken fields type schema) →
      EnclosesTaken R fields type e :=
    fun he hn => ⟨[], [], by simpa using hn, he, .nil⟩
  have hplain : ∀ tag ∈ plainTags, tag ≠ "array" → ∀ schema, ¬ Taken fields (.text tag) schema := by
    intro tag hm hne schema
    exact not_taken_of_scalar hu (by simp [Single]) (by simpa using hne) (not_isObject_of_mem hm)
  cases h with
  | text =>
    refine hnone ?_ (hplain _ (by simp [plainTags]) (by simp))
    unfold Compile.text
    split
    · exact .file
    · exact .leaf (by simp [makers])
  | number | integer | boolean | null =>
    exact hnone (.leaf (by simp [makers])) (hplain _ (by simp [plainTags]) (by simp))
  | anyArray hi =>
    refine hnone (.any (by simp [makers]) (by simp)) fun schema hm => ?_
    rw [taken_array_iff hu, hi] at hm
    cases hm.1
  | @array item hi h =>
    refine ⟨[fields.get "items"], [item], fun schema => ?_, .one (by simp [makers]) (by simp),
      .cons ⟨_, h⟩ .nil⟩
    rw [taken_array_iff hu, List.mem_singleton]
    simp [hi]
  | object ht h => exact enclosesTaken_of_objectForm hu hs ht h
  | unknown ht hp =>
    refine hnone (.leaf (by simp [makers])) fun schema => not_taken_of_scalar hu hs ?_ ?_
    · rintro rfl
      simp at ht
    · rintro (rfl | ⟨hn, _⟩)
      · simp at ht
      · rw [hp] at hn
        cases hn

end

/-! ## Names and citations -/

section

variable (scope : Scope)

/-- A schema that is no reference cites what the schemas it is compiled from cite. -/
def CitesWithin (fields : Fields) (declaration : Declaration) : Prop :=
  ∃ schema, Taken fields (fields.get "type") schema ∧ Cites scope schema declaration

theorem cites_iff_of_target {schema ref : Value} {declaration found : Declaration}
    (ht : Reference.target? schema = some ref) (hf : scope.find? ref = some found) :
    Cites scope schema declaration ↔ declaration = found := by
  constructor
  · intro h
    cases h with
    | declared ht' hf' =>
      cases ht.symm.trans ht'
      exact Option.some.inj (hf'.symm.trans hf)
    | followed ht' hf' =>
      cases ht.symm.trans ht'
      cases hf.symm.trans hf'
    | plain ht' => cases ht.symm.trans ht'
  · rintro rfl
    exact .declared ht hf

theorem cites_iff_of_followed {schema ref : Value} {fields : Fields} {declaration : Declaration}
    (ht : Reference.target? schema = some ref) (hf : scope.find? ref = none)
    (hr : Components.resolve scope.components ref = .ok fields) :
    Cites scope schema declaration ↔ CitesWithin scope fields declaration := by
  constructor
  · intro h
    cases h with
    | declared ht' hf' =>
      cases ht.symm.trans ht'
      cases hf.symm.trans hf'
    | followed ht' _ hr' hi h =>
      cases ht.symm.trans ht'
      cases hr.symm.trans hr'
      exact ⟨_, hi, h⟩
    | plain ht' => cases ht.symm.trans ht'
  · rintro ⟨_, hi, h⟩
    exact .followed ht hf hr hi h

theorem cites_map_iff {fields : Fields} {mark : Option Nat} {declaration : Declaration}
    (ht : Reference.target? (.map fields mark) = none) :
    Cites scope (.map fields mark) declaration ↔ CitesWithin scope fields declaration := by
  constructor
  · intro h
    cases h with
    | declared ht' | followed ht' => cases ht.symm.trans ht'
    | plain _ hi h => exact ⟨_, hi, h⟩
  · rintro ⟨_, hi, h⟩
    exact .plain ht hi h

/-- The identifiers that a schema cites. -/
def Cited (schema : Value) (name : String) : Prop :=
  ∃ declaration, Cites scope schema declaration ∧ declaration.identifier = name

/-- A validator uses the identifiers that its schema cites, and no other names. -/
def UsesCited : Relates := fun schema _ e => ∀ name, name ∈ names e ↔ Cited scope schema name

variable {scope}

/-- Validators that use what some schemas cite, one each. -/
theorem exists_names_iff {schemas : List Value} {es : List Expr}
    (h : List.Forall₂ (fun schema e => UsesCited scope schema .unstated e) schemas es)
    (name : String) : (∃ e ∈ es, name ∈ names e) ↔ ∃ schema ∈ schemas, Cited scope schema name := by
  induction h with
  | nil => simp
  | cons h _ ih => simp [h name, ih]

theorem mem_names_of_encloses {e : Expr} {es : List Expr} (h : Encloses e es) (name : String) :
    name ∈ names e ↔ ∃ x ∈ es, name ∈ names x := by
  cases h with
  | leaf hm => simp [z, names, isMade, hm, namesOfCalls, namesOfAll]
  | file => simp [z, names, isMade, makers, namesOfCalls]
  | any hm hi =>
    have hany : names (z "any" []) = [] := names_z [] (by simp [makers]) (by simp)
    simp [names_z _ hm hi, namesOfAll, hany]
  | one hm hi => simp [names_z _ hm hi, namesOfAll]
  | properties h =>
    rw [names_z _ (by simp [makers]) (by simp)]
    induction h with
    | nil => simp [namesOfAll, names, namesOfProperties]
    | cons hp _ ih =>
      obtain ⟨key, rfl⟩ := hp
      simp only [namesOfAll, names, namesOfProperties, List.append_nil, List.mem_append] at ih ⊢
      rw [ih]
      simp

/-- The identifiers cited by what is taken with a type. -/
def CitedWithin (scope : Scope) (fields : Fields) (type : Value) (name : String) : Prop :=
  ∃ schema, Taken fields type schema ∧ Cited scope schema name

theorem citedWithin_iff {fields : Fields} {type : Value} {schemas : List Value}
    (h : ∀ schema, Taken fields type schema ↔ schema ∈ schemas) (name : String) :
    CitedWithin scope fields type name ↔ ∃ schema ∈ schemas, Cited scope schema name := by
  unfold CitedWithin
  simp only [h]

theorem names_of_enclosesTaken {fields : Fields} {type : Value} {e : Expr}
    (h : EnclosesTaken (UsesCited scope) fields type e) (name : String) :
    name ∈ names e ↔ CitedWithin scope fields type name := by
  obtain ⟨schemas, es, ht, he, hall⟩ := h
  rw [mem_names_of_encloses he, citedWithin_iff ht]
  exact exists_names_iff (hall.imp fun _ _ ⟨_, h⟩ => h) name

theorem taken_retyped_iff {fields : Fields} {tag schema : Value} :
    Taken (fields.put "type" tag) ((fields.put "type" tag).get "type") schema ↔
      Taken fields tag schema := by
  rw [taken_put_iff, Fields.get_put_self]

theorem target?_retyped {fields : Fields} (hp : fields.get? "$ref" = none) (tag : Value) :
    Reference.target? (retyped fields tag) = none := by
  rw [retyped, Reference.target?, Fields.get?_put_of_ne fields tag (by simp), hp]

/-- A schema that is no reference, taken with another type, cites what is taken with that type. -/
theorem cited_retyped_iff {fields : Fields} {tag : Value} (hp : fields.get? "$ref" = none)
    (name : String) : Cited scope (retyped fields tag) name ↔ CitedWithin scope fields tag name := by
  have ht : Reference.target? (retyped fields tag) = none := target?_retyped hp tag
  simp only [Cited, retyped, cites_map_iff scope ht, CitesWithin, taken_retyped_iff, CitedWithin]
  constructor
  · rintro ⟨declaration, ⟨schema, hm, hc⟩, hi⟩
    exact ⟨schema, hm, declaration, hc, hi⟩
  · rintro ⟨schema, hm, declaration, hc, hi⟩
    exact ⟨declaration, ⟨schema, hm, hc⟩, hi⟩

theorem names_of_typeForm {fields : Fields} {type : Value} {e : Expr} (hu : Typed fields)
    (hp : fields.get? "$ref" = none) (hs : ∀ tag mark, type ≠ .list [tag] mark)
    (h : TypeForm (UsesCited scope) fields type e) (name : String) :
    name ∈ names e ↔ CitedWithin scope fields type name := by
  cases h with
  | @tags first second rest mark es h =>
    have hmembers := exists_names_iff (List.forall₂_map_left_iff.2 h) name
    rw [names_z _ (by simp [makers]) (by simp)]
    simp only [namesOfAll, names, List.append_nil, mem_namesOfAll]
    rw [hmembers]
    simp only [List.mem_map, exists_exists_and_eq_and, cited_retyped_iff hp, CitedWithin,
      taken_list_iff hu.uncomposed]
    constructor
    · rintro ⟨tag, ht, schema, hm, hc⟩
      exact ⟨schema, ⟨tag, ht, hm⟩, hc⟩
    · rintro ⟨schema, ⟨tag, ht, hm⟩, hc⟩
      exact ⟨tag, ht, schema, hm, hc⟩
  | tag ht h =>
    exact names_of_enclosesTaken (enclosesTaken_of_tagForm hu (single_of_ne hs ht) h) name

theorem names_of_members {fields : Fields} {type members : Value} {es : List Expr}
    (hc : composition fields = some members) (h : MembersForm (UsesCited scope) members es)
    (name : String) : (∃ e ∈ es, name ∈ names e) ↔ CitedWithin scope fields type name := by
  obtain ⟨parts, hp, h⟩ := h
  rw [exists_names_iff h, citedWithin_iff fun schema => taken_iff_of_members hc hp]

theorem names_of_baseForm {fields : Fields} {e : Expr} (hp : fields.get? "$ref" = none)
    {type : Value} (hs : ∀ tag mark, type ≠ .list [tag] mark)
    (h : BaseForm (UsesCited scope) fields type e) (name : String) :
    name ∈ names e ↔ CitedWithin scope fields type name := by
  cases h with
  | oneOf hv h =>
    rw [mem_names_union]
    exact names_of_members (composition_eq_oneOf hv) h name
  | allOf ho hv h =>
    rw [mem_names_joinBy (by simp [makers])]
    exact names_of_members (composition_eq_allOf ho hv) h name
  | anyOf ho ha hv h hl =>
    rw [mem_names_anyOf]
    exact names_of_members (composition_eq_anyOf ho ha hv) h name
  | enum hu hv _ h =>
    have hn : ∀ schema, ¬ Taken fields type schema :=
      fun schema => not_taken_of_enum hu.composition_eq_none hv
    simp [CitedWithin, names_enumeration h, hn]
  | typed hu hv h =>
    exact names_of_typeForm ⟨hu.composition_eq_none, hv⟩ hp hs h name

theorem taken_sole_iff {fields : Fields} {tag schema : Value} {mark : Option Nat} :
    Taken fields (.list [tag] mark) schema ↔ Taken fields tag schema := by
  constructor
  · intro h
    cases h with
    | member hc hp hm => exact .member hc hp hm
    | tag ht h =>
      rw [List.mem_singleton] at ht
      exact ht ▸ h
    | additional _ hs | property _ hs => exact absurd rfl (hs tag [] mark)
  · exact .tag (List.mem_singleton_self tag)

theorem names_of_concreteForm {fields : Fields} {p : Presence} {e : Expr}
    (hp : fields.get? "$ref" = none) (h : ConcreteForm (UsesCited scope) fields p e)
    (name : String) : name ∈ names e ↔ CitedWithin scope fields (fields.get "type") name := by
  cases h with
  | sole ht h =>
    rw [h name, cited_retyped_iff hp, ht, CitedWithin, CitedWithin]
    simp only [taken_sole_iff]
  | chain ht _ h hc =>
    rw [names_chain_bare _ (Validation.bare_calls hc)]
    exact names_of_baseForm hp ht h name

theorem cited_iff_citedWithin {schema : Value} {fields : Fields}
    (h : ∀ declaration, Cites scope schema declaration ↔ CitesWithin scope fields declaration)
    (name : String) : Cited scope schema name ↔ CitedWithin scope fields (fields.get "type") name := by
  simp only [Cited, h, CitesWithin, CitedWithin]
  constructor
  · rintro ⟨declaration, ⟨schema, hm, hc⟩, hi⟩
    exact ⟨schema, hm, declaration, hc, hi⟩
  · rintro ⟨schema, hm, declaration, hc, hi⟩
    exact ⟨declaration, ⟨schema, hm, hc⟩, hi⟩

theorem usesCited_of_form {schema : Value} {p : Presence} {e : Expr}
    (h : Form scope (UsesCited scope) schema p e) : UsesCited scope schema p e := by
  intro name
  cases h with
  | declared ht hf =>
    rw [names_chain_bare _ (Validation.bare_presence [] p), names, List.mem_singleton, Cited]
    simp only [cites_iff_of_target scope ht hf]
    constructor
    · rintro rfl
      exact ⟨_, rfl, rfl⟩
    · rintro ⟨_, rfl, rfl⟩
      rfl
  | followed ht hf hr h =>
    rw [names_of_concreteForm (Components.get?_ref_of_resolve hr) h name]
    exact (cited_iff_citedWithin (fun _ => cites_iff_of_followed scope ht hf hr) name).symm
  | plain ht h =>
    rw [names_of_concreteForm ht h name]
    exact (cited_iff_citedWithin (fun _ => cites_map_iff scope ht) name).symm

/-- The names that a validator uses are the identifiers that its schema cites. -/
theorem mem_names_compile_iff {schema : Value} {p : Presence} {e : Expr}
    (h : (compile scope schema p).result = .ok e) (name : String) :
    name ∈ names e ↔ Cited scope schema name :=
  compile_induct (fun _ _ _ => usesCited_of_form) h name

end

end Compile
end RestContract
