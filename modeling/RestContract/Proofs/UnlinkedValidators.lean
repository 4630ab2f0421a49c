import RestContract.Proofs.OmissibleValues

/-!
# Validators without links

Which schemas have a validator that is left as a method of the library makes it, without any link
behind it: those of the type that this method is for which have nothing to call on the validator, the
references to declarations of that kind, and the compositions of a single such schema.
-/

namespace RestContract

namespace Expr

/-- A validator as a method of the library makes it, or a name that is said to be one. -/
def Unlinked (maker : String) (named : String → Prop) (e : Expr) : Prop :=
  (∃ args, e = z maker args) ∨ ∃ name, e = .identifier name ∧ named name

section

variable {maker : String} {named : String → Prop} {e base : Expr} {calls : List Call}

theorem unlinked_z_iff {other : String} {args : List Expr} :
    Unlinked maker named (z other args) ↔ maker = other := by
  constructor
  · rintro (⟨others, h⟩ | ⟨name, h, _⟩)
    · cases h
      rfl
    · cases h
  · rintro rfl
    exact .inl ⟨args, rfl⟩

theorem unlinked_identifier_iff {name : String} :
    Unlinked maker named (.identifier name) ↔ named name := by
  constructor
  · rintro (⟨args, h⟩ | ⟨_, h, hn⟩)
    · cases h
    · cases h
      exact hn
  · exact fun h => .inr ⟨name, rfl, h⟩

theorem not_unlinked_chained (hm : maker ∈ makers) (hcalls : ∀ call ∈ calls, IsMethod call)
    (hne : calls ≠ []) (earlier : List Call) :
    ¬ Unlinked maker named (.chained base (earlier ++ calls)) := by
  rintro (⟨args, h⟩ | ⟨name, h, _⟩)
  · obtain ⟨last, hlast⟩ := List.exists_mem_of_ne_nil calls hne
    obtain ⟨method, others, rfl, hmethod⟩ := hcalls last hlast
    injection h with _ h
    have hmem : Call.call method others ∈ [Call.call maker args] :=
      h ▸ List.mem_append_right _ hlast
    cases List.mem_singleton.1 hmem
    exact hmethod hm
  · cases h

/-- A validator on which methods are called is no longer as it was made. -/
theorem unlinked_chain_iff (hm : maker ∈ makers) (hcalls : ∀ call ∈ calls, IsMethod call) :
    Unlinked maker named (chain e calls) ↔ Unlinked maker named e ∧ calls = [] := by
  unfold chain
  split
  · simp
  · next hne =>
    exact iff_of_false (not_unlinked_chained hm hcalls (fun h => hne h) _) fun h => hne h.2
  · next hne _ =>
    exact iff_of_false (not_unlinked_chained hm hcalls (fun h => hne h) []) fun h => hne h.2

end

end Expr

namespace Compile

open Schema Validation Expr

/-- The methods that make the validators of texts, numbers, lists and objects. -/
def typeMakers : List String := ["string", "number", "array", "object"]

section

variable {maker : String} {named : String → Prop} {es : List Expr}

theorem mem_makers (hm : maker ∈ typeMakers) : maker ∈ makers := by
  revert maker
  decide

theorem ne_of_mem_typeMakers {other : String} (hm : maker ∈ typeMakers) (ho : other ∉ typeMakers) :
    maker ≠ other := by
  rintro rfl
  exact ho hm

theorem unlinked_union_iff (hm : maker ∈ typeMakers) :
    Unlinked maker named (union es) ↔ ∃ e, es = [e] ∧ Unlinked maker named e := by
  unfold union
  split
  · simp
  · next hn =>
    rw [unlinked_z_iff]
    refine iff_of_false (ne_of_mem_typeMakers hm (by decide)) ?_
    rintro ⟨e, he, _⟩
    exact hn e he

theorem unlinked_joinBy_iff {joining : String} (hm : maker ∈ typeMakers) (hj : joining ∉ makers) :
    Unlinked maker named (joinBy joining es) ↔ ∃ e, es = [e] ∧ Unlinked maker named e := by
  cases es with
  | nil =>
    constructor
    · rintro (⟨args, h⟩ | ⟨name, h, _⟩) <;> cases h
    · rintro ⟨e, he, _⟩
      cases he
  | cons first rest =>
    have hcalls : ∀ call ∈ rest.map fun member => Call.call joining [member], IsMethod call := by
      intro call h
      obtain ⟨member, _, rfl⟩ := List.mem_map.1 h
      exact ⟨joining, [member], rfl, hj⟩
    rw [joinBy, unlinked_chain_iff (mem_makers hm) hcalls, List.map_eq_nil_iff]
    constructor
    · rintro ⟨h, rfl⟩
      exact ⟨first, rfl, h⟩
    · rintro ⟨e, he, h⟩
      cases he
      exact ⟨h, rfl⟩

/-- There is a single selection of at least one item only of a single item. -/
theorem selections_eq_singleton_iff {α : Type} {items selection : List α} :
    selections items = [selection] ↔ ∃ item, items = [item] ∧ selection = [item] := by
  constructor
  · intro h
    have hone : ∀ other : List α, other.Sublist items → other ≠ [] → other = selection := by
      intro other hsub hne
      exact List.mem_singleton.1 (h ▸ mem_selections.2 ⟨hsub, hne⟩)
    cases items with
    | nil =>
      obtain ⟨hsub, hne⟩ := mem_selections.1 (h ▸ List.mem_singleton_self selection)
      exact absurd (List.sublist_nil.1 hsub) hne
    | cons first rest =>
      have hfirst := hone [first] (by simp) (by simp)
      have hall := hone (first :: rest) (List.Sublist.refl _) (by simp)
      rw [← hfirst] at hall
      cases hall
      exact ⟨first, rfl, hfirst.symm⟩
  · rintro ⟨item, rfl, rfl⟩
    simp [selections, powerSet]

theorem unlinked_anyOf_iff (hm : maker ∈ typeMakers) :
    Unlinked maker named (anyOf es) ↔ ∃ e, es = [e] ∧ Unlinked maker named e := by
  rw [anyOf, unlinked_union_iff hm]
  simp only [List.map_eq_singleton_iff, selections_eq_singleton_iff]
  constructor
  · rintro ⟨_, ⟨_, ⟨e, rfl, rfl⟩, rfl⟩, h⟩
    exact ⟨e, rfl, h⟩
  · rintro ⟨e, rfl, h⟩
    exact ⟨e, ⟨[e], ⟨e, rfl, rfl⟩, rfl⟩, h⟩

theorem not_unlinked_enumeration {type : Value} {values : List Value} {e : Expr}
    (hm : maker ∈ typeMakers) (h : (enumeration type values).result = .ok e) :
    ¬ Unlinked maker named e := by
  cases enumerationForm_of_enumeration h <;>
    exact fun he => ne_of_mem_typeMakers hm (by decide) (unlinked_z_iff.1 he)

end

/-! ## Schemas whose validators have no links -/

/-- The fields that a schema is compiled from, with a type that is no list of a single type. -/
inductive ReadAs (scope : Scope) : Value → Fields → Prop where
  | stands {schema : Value} {fields : Fields} (hs : Stands scope schema fields)
    (ht : ∀ tag mark, fields.get "type" ≠ .list [tag] mark) : ReadAs scope schema fields
  | sole {schema tag : Value} {mark : Option Nat} {outer fields : Fields}
    (hs : Stands scope schema outer) (ht : outer.get "type" = .list [tag] mark)
    (h : ReadAs scope (retyped outer tag) fields) : ReadAs scope schema fields

/-- The method that makes the validator of a type. -/
inductive Makes (fields : Fields) : Value → String → Prop where
  | text (hb : (fields.get "format").isText "binary" = false) :
    Makes fields (.text "string") "string"
  | number : Makes fields (.text "number") "number"
  | integer : Makes fields (.text "integer") "number"
  | array : Makes fields (.text "array") "array"
  | object {type : Value} (hs : Single type) (ho : IsObject fields type)
    (hr : isRecord fields = false) : Makes fields type "object"

/-- A schema whose only member has some property, if the schema is a composition. -/
def SoleMember (fields : Fields) (P : Value → Prop) : Prop :=
  ∃ members member, composition fields = some members ∧ members.asParts = .ok [member] ∧ P member

/-- The validator of a schema is left as this method makes it, or it is a name that is said to be
    such a validator. -/
inductive LeavesUnlinked (scope : Scope) (maker : String) (named : String → Prop) :
    Value → Presence → Prop where
  | declared {schema ref : Value} {declaration : Declaration} {p : Presence}
    (ht : Reference.target? schema = some ref) (hf : scope.find? ref = some declaration)
    (hn : named declaration.identifier) (hp : p ≠ .optional) :
    LeavesUnlinked scope maker named schema p
  | typed {schema : Value} {fields : Fields} {p : Presence} (hr : ReadAs scope schema fields)
    (hc : Validation.calls fields (fields.get "type") p = .ok []) (ht : Typed fields)
    (hm : Makes fields (fields.get "type") maker) : LeavesUnlinked scope maker named schema p
  | sole {schema members member : Value} {fields : Fields} {p : Presence}
    (hr : ReadAs scope schema fields)
    (hc : Validation.calls fields (fields.get "type") p = .ok [])
    (hm : composition fields = some members) (hp : members.asParts = .ok [member])
    (h : LeavesUnlinked scope maker named member .unstated) :
    LeavesUnlinked scope maker named schema p

/-- What a schema has before its calls is left as this method makes it. -/
def BaseUnlinked (scope : Scope) (maker : String) (named : String → Prop) (fields : Fields) : Prop :=
  Typed fields ∧ Makes fields (fields.get "type") maker ∨
    SoleMember fields fun member => LeavesUnlinked scope maker named member .unstated

section

variable {scope : Scope} {maker : String} {named : String → Prop} {fields : Fields}
  {schema type : Value} {p : Presence} {e : Expr}

theorem ReadAs.eq {other : Fields} (h : ReadAs scope schema fields) (ho : ReadAs scope schema other) :
    fields = other := by
  induction h with
  | stands hs ht =>
    cases ho with
    | stands hs' => exact hs.eq hs'
    | sole hs' ht' =>
      cases hs.eq hs'
      exact absurd ht' (ht _ _)
  | sole hs ht _ ih =>
    cases ho with
    | stands hs' ht' =>
      cases hs.eq hs'
      exact absurd ht (ht' _ _)
    | sole hs' ht' h' =>
      cases hs.eq hs'
      cases ht.symm.trans ht'
      exact ih h'

theorem ReadAs.exists_stands (h : ReadAs scope schema fields) : ∃ outer, Stands scope schema outer := by
  cases h with
  | stands hs | sole hs => exact ⟨_, hs⟩

theorem leavesUnlinked_iff_of_target {ref : Value} {declaration : Declaration}
    (ht : Reference.target? schema = some ref) (hf : scope.find? ref = some declaration) :
    LeavesUnlinked scope maker named schema p ↔ named declaration.identifier ∧ p ≠ .optional := by
  constructor
  · intro h
    cases h with
    | declared ht' hf' hn hp =>
      cases ht.symm.trans ht'
      cases hf.symm.trans hf'
      exact ⟨hn, hp⟩
    | typed hr | sole hr =>
      obtain ⟨outer, hs⟩ := hr.exists_stands
      exact (hs.not_declared ht hf).elim
  · exact fun ⟨hn, hp⟩ => .declared ht hf hn hp

theorem leavesUnlinked_iff_of_readAs (hr : ReadAs scope schema fields) :
    LeavesUnlinked scope maker named schema p ↔
      BaseUnlinked scope maker named fields ∧
        Validation.calls fields (fields.get "type") p = .ok [] := by
  constructor
  · intro h
    cases h with
    | declared ht hf =>
      obtain ⟨outer, hs⟩ := hr.exists_stands
      exact (hs.not_declared ht hf).elim
    | typed hr' hc ht hm =>
      cases hr.eq hr'
      exact ⟨.inl ⟨ht, hm⟩, hc⟩
    | sole hr' hc hm hp h =>
      cases hr.eq hr'
      exact ⟨.inr ⟨_, _, hm, hp, h⟩, hc⟩
  · rintro ⟨⟨ht, hm⟩ | ⟨members, member, hm, hp, h⟩, hc⟩
    · exact .typed hr hc ht hm
    · exact .sole hr hc hm hp h

theorem readAs_of_sole {outer : Fields} {tag : Value} {mark : Option Nat}
    (hs : Stands scope schema outer) (ht : outer.get "type" = .list [tag] mark)
    (h : ReadAs scope schema fields) : ReadAs scope (retyped outer tag) fields := by
  cases h with
  | stands hs' ht' =>
    cases hs.eq hs'
    exact absurd ht (ht' _ _)
  | sole hs' ht' h =>
    cases hs.eq hs'
    cases ht.symm.trans ht'
    exact h

/-- Only what a schema is compiled from matters, if it is no reference to a declaration. -/
theorem LeavesUnlinked.congr {other : Value} (h : LeavesUnlinked scope maker named schema p)
    (hn : ∀ {ref declaration}, Reference.target? schema = some ref →
      scope.find? ref = some declaration → False)
    (hr : ∀ {fields}, ReadAs scope schema fields → ReadAs scope other fields) :
    LeavesUnlinked scope maker named other p := by
  cases h with
  | declared ht hf => exact (hn ht hf).elim
  | typed hs hc ht hm => exact .typed (hr hs) hc ht hm
  | sole hs hc hm hp h => exact .sole (hr hs) hc hm hp h

/-! ## The forms of a validator without links -/

/-- A validator is left as this method makes it exactly if its schema leaves it so. -/
def UnlinkedIff (scope : Scope) (maker : String) (named : String → Prop) : Relates :=
  fun schema p e => Unlinked maker named e ↔ LeavesUnlinked scope maker named schema p

theorem exists_sole_iff {members : Value} {es : List Expr}
    (hc : composition fields = some members)
    (h : MembersForm (UnlinkedIff scope maker named) members es) :
    (∃ e, es = [e] ∧ Unlinked maker named e) ↔ BaseUnlinked scope maker named fields := by
  obtain ⟨parts, hp, h⟩ := h
  constructor
  · rintro ⟨e, rfl, he⟩
    cases h with
    | cons hpart hnil =>
      cases hnil
      exact .inr ⟨members, _, hc, hp, hpart.1 he⟩
  · rintro (⟨ht, _⟩ | ⟨_, member, hc', hp', hl⟩)
    · exact absurd ht (not_typed_of_composition hc)
    · cases hc.symm.trans hc'
      cases hp.symm.trans hp'
      cases h with
      | cons hpart hnil =>
        cases hnil
        exact ⟨_, rfl, hpart.2 hl⟩

theorem makes_plain_iff {tag : String} (ht : tag ∈ plainTags) :
    Makes fields (.text tag) maker ↔
      tag = "string" ∧ (fields.get "format").isText "binary" = false ∧ maker = "string" ∨
        (tag = "number" ∨ tag = "integer") ∧ maker = "number" ∨ tag = "array" ∧ maker = "array" := by
  constructor
  · intro h
    cases h with
    | object _ ho => exact absurd ho (not_isObject_of_mem ht)
    | text hb => simp [hb]
    | _ => simp
  · rintro (⟨rfl, hb, rfl⟩ | ⟨rfl | rfl, rfl⟩ | ⟨rfl, rfl⟩)
    · exact .text hb
    · exact .number
    · exact .integer
    · exact .array

/-- A type that is no plain tag makes nothing but objects. -/
theorem makes_iff_of_ne (hn : ∀ tag ∈ plainTags, type ≠ .text tag) :
    Makes fields type maker ↔
      Single type ∧ IsObject fields type ∧ isRecord fields = false ∧ maker = "object" := by
  constructor
  · intro h
    cases h with
    | object hs ho hr => exact ⟨hs, ho, hr, rfl⟩
    | _ => exact absurd rfl (hn _ (by decide))
  · rintro ⟨hs, ho, hr, rfl⟩
    exact .object hs ho hr

variable (hm : maker ∈ typeMakers)

include hm

theorem unlinked_objectForm_iff {R : Relates} (h : ObjectForm R fields e) :
    Unlinked maker named e ↔ isRecord fields = false ∧ maker = "object" := by
  have hrecord : maker ≠ "record" := ne_of_mem_typeMakers hm (by decide)
  cases h with
  | anyRecord hp ha => simp [unlinked_z_iff, hrecord, isRecord, hp, ha]
  | record hp ha => simp [unlinked_z_iff, hrecord, isRecord, hp, ha]
  | properties hn => simp [unlinked_z_iff, hn]

theorem unlinked_tagForm_iff {R : Relates} (hs : Single type) (h : TagForm R fields type e) :
    Unlinked maker named e ↔ Makes fields type maker := by
  have hne : ∀ {other}, other ∉ typeMakers → maker ≠ other := ne_of_mem_typeMakers hm
  cases h with
  | text =>
    rw [makes_plain_iff (by decide)]
    unfold Compile.text
    split
    · next hb => simp [unlinked_z_iff, hne, typeMakers, hb]
    · next hb => simp [unlinked_z_iff, hb]
  | number | integer =>
    rw [unlinked_z_iff, makes_plain_iff (by decide)]
    simp
  | boolean | null =>
    rw [unlinked_z_iff, makes_plain_iff (by decide)]
    simp [hne, typeMakers]
  | anyArray | array =>
    rw [unlinked_z_iff, makes_plain_iff (by decide)]
    simp
  | object ho h =>
    rw [unlinked_objectForm_iff hm h, makes_iff_of_ne ?_]
    · simp [hs, ho]
    · rintro tag ht rfl
      exact not_isObject_of_mem ht ho
  | unknown ht hp =>
    rw [unlinked_z_iff, makes_iff_of_ne ?_]
    · have hnot : ¬ IsObject fields type := by
        rintro (rfl | ⟨hn, _⟩)
        · simp at ht
        · cases hp.symm.trans hn
      simp [hne, typeMakers, hnot]
    · rintro tag _ rfl
      simp at ht

theorem unlinked_typeForm_iff {R : Relates} (hs : ∀ tag mark, type ≠ .list [tag] mark)
    (h : TypeForm R fields type e) : Unlinked maker named e ↔ Makes fields type maker := by
  cases h with
  | @tags first second rest mark es h =>
    rw [unlinked_z_iff, makes_iff_of_ne (by simp)]
    refine iff_of_false (ne_of_mem_typeMakers hm (by decide)) ?_
    rintro ⟨hsingle, _⟩
    exact hsingle _ _ _ rfl
  | tag ht h => exact unlinked_tagForm_iff hm (single_of_ne hs ht) h

theorem unlinked_baseForm_iff (hs : ∀ tag mark, fields.get "type" ≠ .list [tag] mark)
    (h : BaseForm (UnlinkedIff scope maker named) fields (fields.get "type") e) :
    Unlinked maker named e ↔ BaseUnlinked scope maker named fields := by
  have hsole : composition fields = none → ∀ P, ¬ SoleMember fields P := by
    rintro hn P ⟨members, _, hc, _⟩
    cases hn.symm.trans hc
  cases h with
  | oneOf hv h =>
    rw [unlinked_union_iff hm, exists_sole_iff (composition_eq_oneOf hv) h]
  | allOf ho hv h =>
    rw [unlinked_joinBy_iff hm (by decide), exists_sole_iff (composition_eq_allOf ho hv) h]
  | anyOf ho ha hv h =>
    rw [unlinked_anyOf_iff hm, exists_sole_iff (composition_eq_anyOf ho ha hv) h]
  | enum hu hv _ h =>
    refine iff_of_false (not_unlinked_enumeration hm h) ?_
    rintro (⟨ht, _⟩ | hmember)
    · cases hv.symm.trans ht.enum
    · exact hsole hu.composition_eq_none _ hmember
  | typed hu hv h =>
    have ht : Typed fields := ⟨hu.composition_eq_none, hv⟩
    rw [unlinked_typeForm_iff hm hs h, BaseUnlinked, and_iff_right ht,
      or_iff_left (hsole hu.composition_eq_none _)]

theorem unlinked_concreteForm_iff (hr : fields.get? "$ref" = none)
    (hs : Stands scope schema fields) (h : ConcreteForm (UnlinkedIff scope maker named) fields p e) :
    Unlinked maker named e ↔ LeavesUnlinked scope maker named schema p := by
  cases h with
  | @sole tag mark _ ht h =>
    have hretyped := target?_retyped hr tag
    refine h.trans ⟨fun hl => ?_, fun hl => ?_⟩
    · exact hl.congr (fun ht' => by cases hretyped.symm.trans ht') (.sole hs ht)
    · exact hl.congr hs.not_declared (readAs_of_sole hs ht)
  | chain ht _ h hc =>
    rw [unlinked_chain_iff (mem_makers hm) (bare_calls hc).isMethod, unlinked_baseForm_iff hm ht h,
      leavesUnlinked_iff_of_readAs (.stands hs ht), hc, Except.ok.injEq]

theorem unlinkedIff_of_form (h : Form scope (UnlinkedIff scope maker named) schema p e) :
    UnlinkedIff scope maker named schema p e := by
  cases h with
  | declared ht hf =>
    have hpresence : presence [] p = [] ↔ p ≠ .optional := by
      cases p <;> simp [presence, Fields.get, Fields.get?, Value.isVacant]
    rw [UnlinkedIff, leavesUnlinked_iff_of_target ht hf,
      unlinked_chain_iff (mem_makers hm) (bare_presence [] p).isMethod, unlinked_identifier_iff,
      hpresence]
  | followed ht hf hr h =>
    exact unlinked_concreteForm_iff hm (Components.get?_ref_of_resolve hr)
      (.expanded ⟨_, ht, hf, hr⟩) h
  | plain ht h => exact unlinked_concreteForm_iff hm ht (.plain ht) h

/-- A validator is left as a method makes it exactly if its schema leaves it so, however deep the
    schema is inside another one. -/
theorem unlinked_iff_of_compiles (h : Compiles scope schema p e) :
    Unlinked maker named e ↔ LeavesUnlinked scope maker named schema p := by
  obtain ⟨room, steps, h⟩ := h
  exact of_compileAt (R := UnlinkedIff scope maker named) (fun _ _ _ => unlinkedIff_of_form hm) h

end

end Compile
end RestContract
