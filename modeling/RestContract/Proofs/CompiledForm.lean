import RestContract.Compile.Schema
import RestContract.Proofs.Runs

/-!
# The form of a validator

What the validator of a schema looks like, given what those of the schemas inside it look like. Each
relation below follows one function of the compiler: it takes a relation between a schema and its
validator and says what the function makes of validators that are so related. A property of all
validators is then proved one step at a time: `compile_induct` asks that a step keeps it.
-/

namespace RestContract.Compile

open Schema Validation

theorem eq_text_of_isText {value : Value} {s : String} (h : value.isText s = true) :
    value = .text s := by
  unfold Value.isText at h
  split at h
  · rw [beq_iff_eq] at h
    rw [h]
  · cases h

/-- A relation between a schema, its presence and its validator. -/
abbrev Relates := Value → Presence → Expr → Prop

variable (scope : Scope) (R : Relates)

/-- The members of a composition and their validators. -/
def MembersForm (value : Value) (es : List Expr) : Prop :=
  ∃ parts, value.asParts = .ok parts ∧ List.Forall₂ (fun part e => R part .unstated e) parts es

/-- A property of an object and the property that it is compiled to. -/
def PropertyForm (required : List Scalar) (entry : Scalar × Value) (compiled : Property) : Prop :=
  ∃ e, compiled = .valued (.scalar entry.1) e ∧
    R entry.2 (if required.any (·.same entry.1) then .required else .optional) e

/-- Whether an object without properties follows the schema of its additional properties. -/
def isRecord (fields : Fields) : Bool :=
  (fields.get "properties").isVacant &&
    match fields.get "additionalProperties" with
    | .bool true | .map .. => true
    | _ => false

/-- What `object` gives. -/
inductive ObjectForm (fields : Fields) : Expr → Prop where
  | anyRecord (hp : (fields.get "properties").isVacant = true)
    (ha : fields.get "additionalProperties" = .bool true) :
    ObjectForm fields (Expr.z "record" [Expr.z "any" []])
  | record {additional : Fields} {mark : Option Nat} {e : Expr}
    (hp : (fields.get "properties").isVacant = true)
    (ha : fields.get "additionalProperties" = .map additional mark)
    (h : R (.map additional mark) .unstated e) : ObjectForm fields (Expr.z "record" [e])
  | properties {required : List Scalar} {entries : Fields} {compiled : List Property}
    (hn : isRecord fields = false) (hr : requiredKeys fields = .ok required)
    (he : (fields.get "properties").orEmptyMap.asFields = .ok entries)
    (h : List.Forall₂ (PropertyForm R required) entries compiled) :
    ObjectForm fields (Expr.z "object" [.object compiled])

/-- The tags other than that of an object. -/
def plainTags : List String := ["string", "number", "integer", "boolean", "null", "array"]

/-- Whether a schema, taken with a type, is one of an object. -/
def IsObject (fields : Fields) (type : Value) : Prop :=
  type = .text "object" ∨
    (fields.get "properties").isNull = false ∧ ∀ tag ∈ plainTags, type ≠ .text tag

theorem isObject_of_isText {fields : Fields} {type : Value}
    (hn : ∀ tag ∈ plainTags, type.isText tag = false)
    (h : type.isText "object" = true ∨ (fields.get "properties").isNull = false) :
    IsObject fields type := by
  refine h.imp eq_text_of_isText fun hp => ⟨hp, ?_⟩
  rintro tag hm rfl
  simpa [Value.isText] using hn tag hm

/-- What `ofTag` gives. -/
inductive TagForm (fields : Fields) : Value → Expr → Prop where
  | text : TagForm fields (.text "string") (Compile.text fields)
  | number : TagForm fields (.text "number") (Expr.z "number" [])
  | integer : TagForm fields (.text "integer") (Expr.z "number" [])
  | boolean : TagForm fields (.text "boolean") (Expr.z "boolean" [])
  | null : TagForm fields (.text "null") (Expr.z "null" [])
  | anyArray (hi : (fields.get "items").isNull = true) :
    TagForm fields (.text "array") (Expr.z "array" [Expr.z "any" []])
  | array {e : Expr} (hi : (fields.get "items").isNull = false)
    (h : R (fields.get "items") .unstated e) : TagForm fields (.text "array") (Expr.z "array" [e])
  | object {type : Value} {e : Expr} (ht : IsObject fields type) (h : ObjectForm R fields e) :
    TagForm fields type e
  | unknown {type : Value} (ht : type = .null ∨ ∃ mark, type = .list [] mark)
    (hp : (fields.get "properties").isNull = true) : TagForm fields type (Expr.z "unknown" [])

/-- What `ofType` gives. -/
inductive TypeForm (fields : Fields) : Value → Expr → Prop where
  | tags {first second : Value} {rest : List Value} {mark : Option Nat} {es : List Expr}
    (h : List.Forall₂ (fun tag e => R (retyped fields tag) .unstated e) (first :: second :: rest)
      es) :
    TypeForm fields (.list (first :: second :: rest) mark) (Expr.z "union" [.array es])
  | tag {type : Value} {e : Expr}
    (ht : ∀ first second rest mark, type ≠ .list (first :: second :: rest) mark)
    (h : TagForm R fields type e) : TypeForm fields type e

/-- A schema without compositions. -/
structure Uncomposed (fields : Fields) : Prop where
  oneOf : (fields.get "oneOf").isVacant = true
  allOf : (fields.get "allOf").isVacant = true
  anyOf : (fields.get "anyOf").isVacant = true

/-- What `base` gives. -/
inductive BaseForm (fields : Fields) (type : Value) : Expr → Prop where
  | oneOf {es : List Expr} (hv : (fields.get "oneOf").isVacant = false)
    (h : MembersForm R (fields.get "oneOf") es) : BaseForm fields type (union es)
  | allOf {es : List Expr} (ho : (fields.get "oneOf").isVacant = true)
    (hv : (fields.get "allOf").isVacant = false) (h : MembersForm R (fields.get "allOf") es) :
    BaseForm fields type (joinBy "and" es)
  | anyOf {es : List Expr} (ho : (fields.get "oneOf").isVacant = true)
    (ha : (fields.get "allOf").isVacant = true) (hv : (fields.get "anyOf").isVacant = false)
    (h : MembersForm R (fields.get "anyOf") es) (hl : es.length ≤ maxAlternatives) :
    BaseForm fields type (Compile.anyOf es)
  | enum {values : Value} {parts : List Value} {e : Expr} (hu : Uncomposed fields)
    (hv : fields.get? "enum" = some values) (hp : values.asParts = .ok parts)
    (h : (enumeration type parts).result = .ok e) : BaseForm fields type e
  | typed {e : Expr} (hu : Uncomposed fields) (hv : fields.get? "enum" = none)
    (h : TypeForm R fields type e) : BaseForm fields type e

/-- What `concrete` gives. -/
inductive ConcreteForm (fields : Fields) (p : Presence) : Expr → Prop where
  | sole {tag : Value} {mark : Option Nat} {e : Expr} (ht : fields.get "type" = .list [tag] mark)
    (h : R (retyped fields tag) p e) : ConcreteForm fields p e
  | chain {e : Expr} {calls : List Call} (ht : ∀ tag mark, fields.get "type" ≠ .list [tag] mark)
    (hn : fields.has "not" = false) (h : BaseForm R fields (fields.get "type") e)
    (hc : Validation.calls fields (fields.get "type") p = .ok calls) :
    ConcreteForm fields p (Expr.chain e calls)

/-- What `compileWith` gives. -/
inductive Form : Relates where
  | declared {schema ref : Value} {p : Presence} {declaration : Declaration}
    (ht : Reference.target? schema = some ref) (hf : scope.find? ref = some declaration) :
    Form schema p (Expr.chain (.identifier declaration.identifier) (presence [] p))
  | followed {schema ref : Value} {p : Presence} {fields : Fields} {e : Expr}
    (ht : Reference.target? schema = some ref) (hf : scope.find? ref = none)
    (hr : Components.resolve scope.components ref = .ok fields) (h : ConcreteForm R fields p e) :
    Form schema p e
  | plain {fields : Fields} {mark : Option Nat} {p : Presence} {e : Expr}
    (ht : Reference.target? (.map fields mark) = none) (h : ConcreteForm R fields p e) :
    Form (.map fields mark) p e

/-! ## One step of the compiler -/

section

variable {scope R} {inner : Nat → Compiler}
  (hR : ∀ steps schema p e, (inner steps schema p).result = .ok e → R schema p e)

include hR

theorem membersForm_of_members {steps : Nat} {value : Value} {es : List Expr}
    (h : (members inner steps value).result = .ok es) : MembersForm R value es := by
  obtain ⟨parts, hp, h⟩ := Traced.exists_of_result_bind h
  exact ⟨parts, hp, (Traced.result_mapM_eq_ok_iff.1 h).imp fun _ _ => hR _ _ _ _⟩

theorem propertyForm_of_property {required : List Scalar} {entry : Scalar × Value}
    {compiled : Property} (h : (property inner required entry.1 entry.2).result = .ok compiled) :
    PropertyForm R required entry compiled := by
  obtain ⟨e, he, h⟩ := Traced.exists_of_result_bind h
  cases h
  exact ⟨e, rfl, hR _ _ _ _ he⟩

theorem objectForm_of_properties {fields : Fields} {e : Expr} (hn : isRecord fields = false)
    (h : (properties inner fields).result = .ok e) : ObjectForm R fields e := by
  obtain ⟨required, hr, h⟩ := Traced.exists_of_result_bind h
  obtain ⟨entries, he, h⟩ := Traced.exists_of_result_bind h
  obtain ⟨compiled, hc, h⟩ := Traced.exists_of_result_bind h
  cases h
  refine .properties hn hr he ((Traced.result_mapM_eq_ok_iff.1 hc).imp fun _ _ => ?_)
  exact propertyForm_of_property hR

theorem objectForm_of_object {fields : Fields} {e : Expr}
    (h : (object inner fields).result = .ok e) : ObjectForm R fields e := by
  unfold object at h
  split at h
  · next hp =>
    split at h
    · next ha =>
      cases h
      exact .anyRecord hp ha
    · next ha =>
      obtain ⟨value, hv, h⟩ := Traced.exists_of_result_bind h
      cases h
      exact .record hp ha (hR _ _ _ _ hv)
    · next ht hm =>
      refine objectForm_of_properties hR ?_ h
      simp only [isRecord, hp, Bool.true_and]
  · next hp =>
    refine objectForm_of_properties hR ?_ h
    simp [isRecord, hp]

theorem arrayForm_of_array {fields : Fields} {e : Expr}
    (h : (array inner fields).result = .ok e) : TagForm R fields (.text "array") e := by
  unfold array at h
  dsimp only at h
  split at h
  · next hi =>
    cases h
    exact .anyArray hi
  · next hi =>
    obtain ⟨item, hitem, h⟩ := Traced.exists_of_result_bind h
    cases h
    exact .array (by simpa using hi) (hR _ _ _ _ hitem)

theorem tagForm_of_ofTag {fields : Fields} {type : Value} {e : Expr}
    (h : (ofTag inner fields type).result = .ok e) : TagForm R fields type e := by
  unfold ofTag at h
  simp only [Bool.or_eq_true] at h
  split at h
  · next ht =>
    cases h
    cases eq_text_of_isText ht
    exact .text
  split at h
  · next ht =>
    cases h
    rcases ht with ht | ht
    · cases eq_text_of_isText ht
      exact .number
    · cases eq_text_of_isText ht
      exact .integer
  split at h
  · next ht =>
    cases h
    cases eq_text_of_isText ht
    exact .boolean
  split at h
  · next ht =>
    cases h
    cases eq_text_of_isText ht
    exact .null
  split at h
  · next ht =>
    cases eq_text_of_isText ht
    exact arrayForm_of_array hR h
  -- An object is told by its properties too, so all tags that have been ruled out are needed.
  next hs hn hb hnull ha =>
  split at h
  · next ho =>
    refine .object (isObject_of_isText ?_ (ho.imp_right fun hp => by simpa using hp))
      (objectForm_of_object hR h)
    simp [plainTags, not_or] at *
    simp [*]
  · next ho =>
    have hp : (fields.get "properties").isNull = true := by
      by_contra hp
      exact ho (.inr (by simpa using hp))
    split at h
    · cases h
      exact .unknown (.inl rfl) hp
    · cases h
      exact .unknown (.inr ⟨_, rfl⟩) hp
    · obtain ⟨_, _, h⟩ := Traced.exists_of_result_bind h
      cases h

theorem typeForm_of_ofType {fields : Fields} {type : Value} {e : Expr}
    (h : (ofType inner fields type).result = .ok e) : TypeForm R fields type e := by
  unfold ofType at h
  split at h
  · obtain ⟨es, hes, h⟩ := Traced.exists_of_result_bind h
    cases h
    exact .tags ((Traced.result_mapM_eq_ok_iff.1 hes).imp fun _ _ => hR _ _ _ _)
  · next hn => exact .tag (fun _ _ _ _ heq => hn _ _ _ _ heq) (tagForm_of_ofTag hR h)

theorem baseForm_of_base {fields : Fields} {type : Value} {e : Expr}
    (h : (base inner fields type).result = .ok e) :
    fields.has "not" = false ∧ BaseForm R fields type e := by
  unfold base at h
  split at h
  · cases h
  next hnot =>
  refine ⟨by simpa using hnot, ?_⟩
  split at h
  · next hv =>
    obtain ⟨es, hes, h⟩ := Traced.exists_of_result_bind h
    cases h
    exact .oneOf (by simpa using hv) (membersForm_of_members hR hes)
  next ho =>
  have ho : (fields.get "oneOf").isVacant = true := by simpa using ho
  split at h
  · next hv =>
    obtain ⟨es, hes, h⟩ := Traced.exists_of_result_bind h
    cases h
    exact .allOf ho (by simpa using hv) (membersForm_of_members hR hes)
  next ha =>
  have ha : (fields.get "allOf").isVacant = true := by simpa using ha
  split at h
  · next hv =>
    obtain ⟨parts, hp, h⟩ := Traced.exists_of_result_bind h
    split at h
    · cases h
    · next hl =>
      obtain ⟨es, hes, h⟩ := Traced.exists_of_result_bind h
      cases h
      have hm := membersForm_of_members hR hes
      obtain ⟨others, hp', hall⟩ := hm
      cases hp.symm.trans hp'
      refine .anyOf ho ha (by simpa using hv) ⟨parts, hp, hall⟩ ?_
      rw [← hall.length_eq]
      omega
  next hv =>
  -- Here no composition is left.
  have hu : Uncomposed fields := ⟨ho, ha, by simpa using hv⟩
  split at h
  · next values he =>
    obtain ⟨parts, hp, h⟩ := Traced.exists_of_result_bind h
    exact .enum hu he hp h
  · next he => exact .typed hu he (typeForm_of_ofType hR h)

theorem concreteForm_of_concrete {fields : Fields} {p : Presence} {e : Expr}
    (h : (concrete inner fields p).result = .ok e) : ConcreteForm R fields p e := by
  unfold concrete at h
  split at h
  · next ht => exact .sole ht (hR _ _ _ _ h)
  · next ht =>
    obtain ⟨validator, hv, h⟩ := Traced.exists_of_result_bind h
    obtain ⟨calls, hc, h⟩ := Traced.exists_of_result_bind h
    cases h
    obtain ⟨hn, hb⟩ := baseForm_of_base hR hv
    exact .chain (fun tag mark heq => ht tag mark heq) hn hb hc

theorem form_of_compileWith {schema : Value} {p : Presence} {e : Expr}
    (h : (compileWith inner scope schema p).result = .ok e) : Form scope R schema p e := by
  unfold compileWith at h
  split at h
  · next ht =>
    obtain ⟨fields, hf, h⟩ := Traced.exists_of_result_bind h
    cases schema with
    | map all mark =>
      cases hf
      exact .plain ht (concreteForm_of_concrete hR h)
    | _ => cases hf
  · next ref ht =>
    obtain ⟨_, _, h⟩ := Traced.exists_of_result_bind h
    split at h
    · next declaration hf =>
      cases h
      exact .declared ht hf
    · next hf =>
      obtain ⟨fields, hr, h⟩ := Traced.exists_of_result_bind h
      exact .followed ht hf hr (concreteForm_of_concrete hR h)

end

/-! ## All steps of the compiler -/

variable {scope R}

theorem of_compileAt (hstep : ∀ schema p e, Form scope R schema p e → R schema p e) {room : Nat} :
    ∀ {steps : Nat} {schema : Value} {p : Presence} {e : Expr},
      (compileAt scope room steps schema p).result = .ok e → R schema p e := by
  induction room with
  | zero =>
    intro steps schema p e h
    unfold compileAt at h
    cases h
  | succ room ih =>
    intro steps schema p e h
    cases steps with
    | zero =>
      have hinner : ∀ (steps : Nat) schema p e,
          (compileAt scope room (steps - 1) schema p).result = .ok e → R schema p e :=
        fun _ _ _ _ => ih
      exact hstep _ _ _ (form_of_compileWith hinner h)
    | succ steps => exact ih h

/-- What every step of the compiler keeps holds of every validator. -/
theorem compile_induct (hstep : ∀ schema p e, Form scope R schema p e → R schema p e)
    {schema : Value} {p : Presence} {e : Expr}
    (h : (compile scope schema p).result = .ok e) : R schema p e :=
  of_compileAt hstep h

/-- A validator that some run of the compiler gives, however deep it is in the schema. -/
def Compiles (scope : Scope) : Relates := fun schema p e =>
  ∃ room steps, (compileAt scope room steps schema p).result = .ok e

theorem form_of_compiles {scope : Scope} {schema : Value} {p : Presence} {e : Expr}
    (h : Compiles scope schema p e) : Form scope (Compiles scope) schema p e := by
  obtain ⟨room, steps, h⟩ := h
  induction room generalizing steps with
  | zero => cases h
  | succ room ih =>
    cases steps with
    | zero =>
      have hinner : ∀ (steps : Nat) schema p e,
          (compileAt scope room (steps - 1) schema p).result = .ok e → Compiles scope schema p e :=
        fun steps _ _ _ h => ⟨room, steps - 1, h⟩
      exact form_of_compileWith hinner h
    | succ steps => exact ih steps h

/-- What every step of the compiler keeps, where the validators that it puts together are known to be
    ones that the compiler gives. -/
theorem compiles_induct
    (hstep : ∀ schema p e, Form scope (fun schema p e => Compiles scope schema p e ∧ R schema p e)
      schema p e → R schema p e)
    {schema : Value} {p : Presence} {e : Expr} (h : Compiles scope schema p e) : R schema p e := by
  obtain ⟨room, steps, h⟩ := h
  induction room generalizing steps schema p e with
  | zero => cases h
  | succ room ih =>
    cases steps with
    | zero =>
      have hinner : ∀ (steps : Nat) schema p e,
          (compileAt scope room (steps - 1) schema p).result = .ok e →
            Compiles scope schema p e ∧ R schema p e :=
        fun steps _ _ _ h => ⟨⟨room, steps - 1, h⟩, ih (steps - 1) h⟩
      exact hstep _ _ _ (form_of_compileWith hinner h)
    | succ steps => exact ih steps h

end RestContract.Compile
