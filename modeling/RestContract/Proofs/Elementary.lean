import RestContract.Proofs.DependencyWalk
import RestContract.Proofs.Validity

/-!
# Elementary schemas

The schemas whose validators are shown to accept the values that are valid under them: references to
components, unions and intersections, and schemas of known types with some common keywords.
-/

namespace RestContract.Schema

def typeTags : List String :=
  ["string", "number", "integer", "boolean", "null", "array", "object"]

/-- A type tag, or some type tags among which those of an array and of an object are not both. -/
inductive IsType : Value → Prop where
  | tag {tag : String} (h : tag ∈ typeTags) : IsType (.text tag)
  | tags {tags : List String} {mark : Option Nat} (hne : tags ≠ []) (h : ∀ tag ∈ tags, tag ∈ typeTags)
    (hb : ¬ ("array" ∈ tags ∧ "object" ∈ tags)) : IsType (.list (tags.map .text) mark)

def typedKeywords : List String :=
  ["type", "minLength", "maxLength", "minimum", "maximum", "exclusiveMinimum", "exclusiveMaximum",
    "minItems", "maxItems", "items", "properties", "required", "additionalProperties"]

/-- A schema of a type without other keywords than these, each of which is what it should be. Only
    an object without properties has a schema for its members: beside properties the validator lets
    every other member pass. -/
structure Shaped (fields : Fields) (type : Value) : Prop where
  typed : fields.get? "type" = some type
  isType : IsType type
  only : ∀ field ∈ fields, ∃ keyword ∈ typedKeywords, field.1 = .text keyword
  minLength : Keyword fields "minLength" fun value => ∃ n : Nat, 0 < n ∧ value = .int n
  maxLength : Keyword fields "maxLength" fun value => ∃ n : Nat, 0 < n ∧ value = .int n
  minimum : Keyword fields "minimum" fun value => value.exact?.isSome = true
  maximum : Keyword fields "maximum" fun value => value.exact?.isSome = true
  exclusiveMinimum : Keyword fields "exclusiveMinimum" fun value => ∃ b, value = .bool b
  exclusiveMaximum : Keyword fields "exclusiveMaximum" fun value => ∃ b, value = .bool b
  minItems : Keyword fields "minItems" fun value => ∃ n : Nat, value = .int n
  maxItems : Keyword fields "maxItems" fun value => ∃ n : Nat, value = .int n
  properties : Keyword fields "properties" fun value =>
    ∃ named mark, value = .map (textFields named) mark
  required : Keyword fields "required" fun value => ∃ (names : List String) (mark : Option Nat),
    value = .list (names.map .text) mark ∧
      ∀ name ∈ names, .text name ∈ (propertiesOf fields).map Prod.fst
  additional : Keyword fields "additionalProperties" fun value =>
    value = .bool true ∨ propertiesOf fields = [] ∧ ∃ other mark, value = .map other mark

/-- An elementary schema, whose references name components that are `known`. The schemas inside it
    have to be elementary where they belong to its type. -/
inductive Elementary (known : String → Prop) : Value → Prop where
  | reference {schema : Value} {name : String}
    (ht : Reference.target? schema = some (.text (refTo name))) (hk : known name) :
    Elementary known schema
  | oneOf {parts : List Value} {m mark : Option Nat} (hne : parts ≠ [])
    (h : ∀ part ∈ parts, Elementary known part) :
    Elementary known (.map [(.text "oneOf", .list parts m)] mark)
  | allOf {parts : List Value} {m mark : Option Nat} (hne : parts ≠ [])
    (h : ∀ part ∈ parts, Elementary known part) :
    Elementary known (.map [(.text "allOf", .list parts m)] mark)
  | typed {fields : Fields} {mark : Option Nat} {type : Value} (hs : Shaped fields type)
    (items : isOrHolds type "array" = true → ∀ items, fields.get? "items" = some items →
      Elementary known items)
    (properties : isOrHolds type "object" = true → ∀ field ∈ propertiesOf fields,
      Elementary known field.2)
    (additional : isOrHolds type "object" = true → ∀ other m,
      fields.get? "additionalProperties" = some (.map other m) →
        Elementary known (.map other m)) :
    Elementary known (.map fields mark)

/-- Components that are known, each of which is an elementary schema. -/
def Closed (schemas : Fields) (known : String → Prop) : Prop :=
  ∀ name, known name → ∃ component, schemas.get? name = some component ∧ Elementary known component

section

variable {known : String → Prop} {fields : Fields} {type schema : Value} {mark : Option Nat}

theorem Elementary.isMap (h : Elementary known schema) : ∃ fields mark, schema = .map fields mark := by
  cases h with
  | reference ht =>
    cases schema with
    | map fields mark => exact ⟨fields, mark, rfl⟩
    | _ => cases ht
  | oneOf | allOf | typed => exact ⟨_, _, rfl⟩

theorem Elementary.unmark {m : Option Nat} (h : Elementary known (.map fields mark)) :
    Elementary known (.map fields m) := by
  cases h with
  | reference ht hk => exact .reference ht hk
  | oneOf hne h => exact .oneOf hne h
  | allOf hne h => exact .allOf hne h
  | typed hs hi hp ha => exact .typed hs hi hp ha

theorem Elementary.isNull (h : Elementary known schema) : schema.isNull = false := by
  obtain ⟨fields, mark, rfl⟩ := h.isMap
  rfl

theorem Elementary.isVacant (h : Elementary known schema) : schema.isVacant = false := by
  cases h with
  | reference ht =>
    cases schema with
    | map fields mark =>
      cases fields with
      | nil => cases ht
      | cons field rest => rfl
    | _ => cases ht
  | oneOf | allOf => rfl
  | @typed fields _ _ hs =>
    cases fields with
    | nil => cases hs.typed
    | cons field rest => rfl

namespace Shaped

theorem get?_eq_none (hs : Shaped fields type) (name : String) (h : name ∉ typedKeywords) :
    fields.get? name = none := by
  cases hg : fields.get? name with
  | none => rfl
  | some value =>
    obtain ⟨keyword, hk, heq⟩ := hs.only _ (Fields.mem_of_get? hg)
    cases heq
    exact absurd hk h

theorem get_eq_null (hs : Shaped fields type) (name : String) (h : name ∉ typedKeywords) :
    fields.get name = .null := by
  rw [Fields.get, hs.get?_eq_none name h]
  rfl

theorem simple (hs : Shaped fields type) : Simple fields where
  ref := hs.get?_eq_none "$ref" (by decide)
  oneOf := hs.get?_eq_none "oneOf" (by decide)
  allOf := hs.get?_eq_none "allOf" (by decide)

theorem get_properties (hs : Shaped fields type) :
    (fields.get "properties").orEmptyMap.asFields = .ok (propertiesOf fields) := by
  unfold propertiesOf Fields.get
  cases hg : fields.get? "properties" with
  | none => rfl
  | some value =>
    obtain ⟨named, m, rfl⟩ := hs.properties value hg
    cases named <;> rfl

theorem not_array_and_object (hs : Shaped fields type) (ha : isOrHolds type "array" = true) :
    isOrHolds type "object" = false := by
  cases hs.isType with
  | tag h =>
    simp only [isOrHolds, Value.isText, beq_iff_eq] at ha
    subst ha
    rfl
  | @tags tags _ _ _ hb =>
    simp only [isOrHolds, List.any_map, List.any_eq_true, List.any_eq_false] at ha ⊢
    obtain ⟨tag, ht, ha⟩ := ha
    intro other ho h
    simp only [Function.comp_apply, Value.isText, beq_iff_eq] at ha h
    exact hb ⟨ha ▸ ht, h ▸ ho⟩

/-- The schemas inside a schema with a type are those that belong to the type. -/
theorem nested_eq (hs : Shaped fields type) : nested fields =
    if isOrHolds type "array" && !(fields.get "items").isNull then .ok [fields.get "items"]
    else objectMembers fields := by
  have hcomposed : compositionMembers fields = .ok [] := by
    simp only [compositionMembers, compositionKeywords, List.mapM_cons, List.mapM_nil, members,
      hs.get_eq_null "allOf" (by decide), hs.get_eq_null "oneOf" (by decide),
      hs.get_eq_null "anyOf" (by decide)]
    rfl
  have htype : fields.get "type" = type := by simp [Fields.get, hs.typed]
  simp only [nested, hcomposed, htype, bind, Except.bind, pure, Except.pure, List.nil_append]
  split
  · rfl
  · cases objectMembers fields <;> rfl

theorem objectMembers_eq (hs : Shaped fields type) (ho : isObjectLike fields = true) :
    objectMembers fields = .ok ((propertiesOf fields).map Prod.snd ++ additionalSchema fields) := by
  rw [objectMembers, if_pos ho, hs.get_properties]
  rfl

theorem mem_typeTags {tag : String} (hs : Shaped fields (.text tag)) : tag ∈ typeTags := by
  cases hs.isType with
  | tag h => exact h

/-- The schema taken with another type. -/
theorem retype (hs : Shaped fields type) {tag : String} (ht : tag ∈ typeTags) :
    Shaped (fields.put "type" (.text tag)) (.text tag) := by
  have hkeyword : ∀ {keyword P}, keyword ≠ "type" → Keyword fields keyword P →
      Keyword (fields.put "type" (.text tag)) keyword P := by
    intro keyword P hk h value hv
    rw [Fields.get?_put_of_ne fields _ hk] at hv
    exact h value hv
  refine ⟨Fields.get?_put_self .., .tag ht, fun field hf => ?_, hkeyword (by decide) hs.minLength,
    hkeyword (by decide) hs.maxLength, hkeyword (by decide) hs.minimum,
    hkeyword (by decide) hs.maximum, hkeyword (by decide) hs.exclusiveMinimum,
    hkeyword (by decide) hs.exclusiveMaximum, hkeyword (by decide) hs.minItems,
    hkeyword (by decide) hs.maxItems, hkeyword (by decide) hs.properties, ?_, ?_⟩
  · rcases Fields.eq_or_mem_of_mem_put hf with rfl | hf
    · exact ⟨"type", by decide, rfl⟩
    · exact hs.only field hf
  · rw [propertiesOf_put]
    exact hkeyword (by decide) hs.required
  · rw [propertiesOf_put]
    exact hkeyword (by decide) hs.additional

/-! ### Where the schemas inside a schema are found -/

theorem mem_inside_of_items (hs : Shaped fields type) (ha : isOrHolds type "array" = true)
    {items : Value} (hi : fields.get? "items" = some items) (hn : items.isNull = false) :
    items ∈ inside (.map fields mark) := by
  have hget : fields.get "items" = items := by simp [Fields.get, hi]
  have hnested := hs.nested_eq
  rw [ha, hget, hn] at hnested
  rw [inside_eq hs.simple.ref hnested]
  exact List.mem_singleton_self items

theorem inside_object (hs : Shaped fields type) (ho : isOrHolds type "object" = true)
    (hl : isObjectLike fields = true) : inside (.map fields mark) =
      (propertiesOf fields).map Prod.snd ++ additionalSchema fields := by
  have ha : isOrHolds type "array" = false := by
    by_contra ha
    rw [Bool.not_eq_false] at ha
    rw [hs.not_array_and_object ha] at ho
    cases ho
  have hnested := hs.nested_eq
  rw [ha, Bool.false_and, if_neg Bool.false_ne_true, hs.objectMembers_eq hl] at hnested
  exact inside_eq hs.simple.ref hnested

theorem mem_inside_of_property (hs : Shaped fields type) (ho : isOrHolds type "object" = true)
    {field : Scalar × Value} (hf : field ∈ propertiesOf fields) :
    field.2 ∈ inside (.map fields mark) := by
  have hl : isObjectLike fields = true := by
    cases hg : fields.get? "properties" with
    | none =>
      rw [propertiesOf, hg] at hf
      cases hf
    | some value =>
      obtain ⟨named, m, rfl⟩ := hs.properties value hg
      simp [isObjectLike, Fields.get, hg, Value.isNull]
  rw [hs.inside_object ho hl]
  exact List.mem_append_left _ (List.mem_map_of_mem hf)

theorem mem_inside_of_additional (hs : Shaped fields type) (ho : isOrHolds type "object" = true)
    {other : Fields} {m : Option Nat} (ha : fields.get? "additionalProperties" = some (.map other m))
    (hv : (Value.map other m).isVacant = false) :
    .map other m ∈ inside (.map fields mark) := by
  have hl : isObjectLike fields = true := by simp [isObjectLike, Fields.get, ha, hv]
  rw [hs.inside_object ho hl, additionalSchema, Fields.get, ha]
  exact List.mem_append_right _ (List.mem_singleton_self _)

end Shaped

theorem Elementary.exists_of_target {ref : Value} (h : Elementary known schema)
    (ht : Reference.target? schema = some ref) : ∃ name, ref = .text (refTo name) ∧ known name := by
  cases h with
  | reference ht' hk =>
    cases ht.symm.trans ht'
    exact ⟨_, rfl, hk⟩
  | oneOf | allOf => simp [Reference.target?, Fields.get?] at ht
  | typed hs => cases hs.simple.ref.symm.trans ht

/-- A record takes the keys of an elementary schema as they are. -/
theorem Elementary.recordFields? (h : Elementary known (.map fields mark))
    (hr : fields.get? "$ref" = none) : fields.recordFields? = some fields := by
  have htext : fields.hasTextKeys = true := by
    cases h with
    | reference ht => cases hr.symm.trans ht
    | oneOf | allOf => rfl
    | typed hs =>
      unfold Fields.hasTextKeys
      rw [List.all_eq_true]
      rintro ⟨key, value⟩ hf
      obtain ⟨keyword, _, rfl⟩ := hs.only _ hf
      rfl
  rw [Fields.recordFields?, if_pos htext]

theorem inside_composition {keyword : String} {parts : List Value} {m : Option Nat}
    (hk : keyword = "oneOf" ∨ keyword = "allOf") :
    inside (.map [(.text keyword, .list parts m)] mark) = parts := by
  refine inside_eq ?_ ?_
  · rcases hk with rfl | rfl <;> simp [Reference.target?, Fields.get?]
  · rcases hk with rfl | rfl <;> cases parts <;>
      simp [nested, compositionMembers, compositionKeywords, members, Fields.get, Fields.get?,
        isOrHolds, objectMembers, isObjectLike, bind, Except.bind, pure, Except.pure,
        Value.isText, Value.isNull, Value.isVacant, Value.orEmptyList, Value.asParts, Value.parts?]

theorem mem_mentions_of_mem_inside {inner : Value} {ref : String} (hi : inner ∈ inside schema)
    (hm : ref ∈ mentions inner) : ref ∈ mentions schema := by
  rw [mentions_eq]
  exact List.mem_append_right _ (List.mem_flatMap.2 ⟨inner, hi, hm⟩)

/-- An elementary schema only depends on the components that it mentions. -/
theorem Elementary.restrict {some : String → Prop} (h : Elementary known schema)
    (hk : ∀ name, known name → refTo name ∈ mentions schema → some name) :
    Elementary some schema := by
  induction h with
  | reference ht hname =>
    refine .reference ht (hk _ hname ?_)
    rw [mentions_of_target ht]
    exact List.mem_singleton_self _
  | oneOf hne _ ih =>
    refine .oneOf hne fun part hp => ih part hp fun name hn hm => hk name hn ?_
    exact mem_mentions_of_mem_inside (by rwa [inside_composition (.inl rfl)]) hm
  | allOf hne _ ih =>
    refine .allOf hne fun part hp => ih part hp fun name hn hm => hk name hn ?_
    exact mem_mentions_of_mem_inside (by rwa [inside_composition (.inr rfl)]) hm
  | typed hs hitems hproperties hadditional ihi ihp iha =>
    refine .typed hs (fun ha items hi => ?_) (fun ho field hf => ?_) fun ho other m hm => ?_
    · refine ihi ha items hi fun name hn hm => hk name hn ?_
      exact mem_mentions_of_mem_inside (hs.mem_inside_of_items ha hi (hitems ha items hi).isNull) hm
    · refine ihp ho field hf fun name hn hm => hk name hn ?_
      exact mem_mentions_of_mem_inside (hs.mem_inside_of_property ho hf) hm
    · refine iha ho other m hm fun name hn hmention => hk name hn ?_
      have hv := (hadditional ho other m hm).isVacant
      exact mem_mentions_of_mem_inside (hs.mem_inside_of_additional ho hm hv) hmention

end

end RestContract.Schema
