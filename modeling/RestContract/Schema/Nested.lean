import RestContract.Reference

/-!
# Nested schemas

The schemas that stand directly inside a schema, in the order of the document: the members of its
compositions, then the items of an array, or else the properties and the schema of the additional
properties of an object.
-/

namespace RestContract.Schema

/-- The keywords whose members are combined into a schema. -/
def compositionKeywords : List String := ["allOf", "oneOf", "anyOf"]

/-- Whether a type is a given tag or a list that holds the tag. -/
def isOrHolds (type : Value) (tag : String) : Bool :=
  match type with
  | .list tags _ => tags.any (·.isText tag)
  | type => type.isText tag

/-- The members of a composition; a keyword that counts as nothing has none. -/
def members (fields : Fields) (keyword : String) : Except Error (List Value) :=
  (fields.get keyword).orEmptyList.asParts

/-- The members of all compositions. -/
def compositionMembers (fields : Fields) : Except Error (List Value) := do
  return (← compositionKeywords.mapM (members fields)).flatten

/-- Whether the nested schemas of a schema are those of an object. -/
def isObjectLike (fields : Fields) : Bool :=
  (fields.get "type").isText "object" || !(fields.get "properties").isNull ||
    !(fields.get "additionalProperties").isVacant

/-- The schema of the additional properties, if it is one. -/
def additionalSchema (fields : Fields) : List Value :=
  match fields.get "additionalProperties" with
  | .map other mark => [.map other mark]
  | _ => []

/-- The schemas of the properties and of the additional properties. -/
def objectMembers (fields : Fields) : Except Error (List Value) :=
  if isObjectLike fields then do
    let properties ← (fields.get "properties").orEmptyMap.asFields
    return properties.map Prod.snd ++ additionalSchema fields
  else return []

/-- The schemas directly inside a schema. An array with items has no properties. -/
def nested (fields : Fields) : Except Error (List Value) := do
  let composed ← compositionMembers fields
  let items := fields.get "items"
  if isOrHolds (fields.get "type") "array" && !items.isNull then return composed ++ [items]
  return composed ++ (← objectMembers fields)

/-! ## Sizes -/

theorem size_lt_of_mem_members {fields : Fields} {keyword : String} {parts : List Value}
    {schema : Value} (h : members fields keyword = .ok parts) (hs : schema ∈ parts)
    (mark : Option Nat) : schema.size < (Value.map fields mark).size := by
  have hempty : ∀ {value : Value}, value.isVacant = true → value.orEmptyList.asParts = .ok [] := by
    intro value hv
    simp [Value.orEmptyList, hv, Value.asParts, Value.parts?]
  by_cases hv : (fields.get keyword).isVacant = true
  · rw [members, hempty hv] at h
    cases h
    cases hs
  · rw [members, Value.orEmptyList, if_neg hv, Value.asParts] at h
    split at h
    · next found hp =>
      cases h
      have hle := Value.size_le_of_mem_parts hp hs
      cases hg : fields.get? keyword with
      | none => simp [Fields.get, hg, Value.isVacant] at hv
      | some value =>
        have := Fields.size_lt_of_get? hg mark
        simp only [Fields.get, hg, Option.getD_some] at hle
        omega
    · cases h

theorem size_lt_of_get_ne_null {fields : Fields} {name : String}
    (h : (fields.get name).isNull = false) (mark : Option Nat) :
    (fields.get name).size < (Value.map fields mark).size := by
  cases hg : fields.get? name with
  | none => simp [Fields.get, hg, Value.isNull] at h
  | some value =>
    have := Fields.size_lt_of_get? hg mark
    simpa [Fields.get, hg] using this

theorem size_lt_of_mem_objectMembers {fields : Fields} {all : List Value} {schema : Value}
    (h : objectMembers fields = .ok all) (hs : schema ∈ all) (mark : Option Nat) :
    schema.size < (Value.map fields mark).size := by
  rw [objectMembers] at h
  split at h
  · obtain ⟨properties, hp, h⟩ := exists_of_bind_eq_ok h
    cases h
    rcases List.mem_append.1 hs with hs | hs
    · obtain ⟨⟨key, value⟩, hf, rfl⟩ := List.mem_map.1 hs
      cases hg : fields.get? "properties" with
      | none =>
        simp [Fields.get, hg, Value.orEmptyMap, Value.isVacant, Value.asFields] at hp
        simp [hp] at hf
      | some found =>
        have hlt := Fields.size_lt_of_get? hg mark
        simp only [Fields.get, hg, Option.getD_some, Value.orEmptyMap] at hp
        split at hp
        · cases hp
          cases hf
        · cases found with
          | map inner innerMark =>
            cases hp
            have := Value.size_le_sizeOfFields hf
            simp only [Value.size] at hlt ⊢
            omega
          | _ => simp [Value.asFields] at hp
    · rw [additionalSchema] at hs
      split at hs
      · next other otherMark heq =>
        have hn : (fields.get "additionalProperties").isNull = false := by rw [heq]; rfl
        have := size_lt_of_get_ne_null hn mark
        rw [heq] at this
        simp only [List.mem_singleton] at hs
        rw [hs]
        exact this
      · cases hs
  · cases h
    cases hs

/-- The schemas directly inside a schema are smaller. -/
theorem size_lt_of_mem_nested {fields : Fields} {inner : List Value} {schema : Value}
    (h : nested fields = .ok inner) (hs : schema ∈ inner) (mark : Option Nat) :
    schema.size < (Value.map fields mark).size := by
  obtain ⟨composed, hc, h⟩ := exists_of_bind_eq_ok h
  have hcomposed : schema ∈ composed → schema.size < (Value.map fields mark).size := by
    intro hm
    obtain ⟨lists, hl, heq⟩ := exists_of_bind_eq_ok hc
    cases heq
    obtain ⟨parts, hp, hmem⟩ := List.mem_flatten.1 hm
    obtain ⟨keyword, _, hk⟩ := exists_of_mem_mapM hl hp
    exact size_lt_of_mem_members hk hmem mark
  dsimp only at h
  split at h
  · next hitems =>
    cases h
    rcases List.mem_append.1 hs with hs | hs
    · exact hcomposed hs
    · simp only [List.mem_singleton] at hs
      rw [hs]
      simp only [Bool.and_eq_true, Bool.not_eq_true'] at hitems
      exact size_lt_of_get_ne_null hitems.2 mark
  · obtain ⟨others, ho, h⟩ := exists_of_bind_eq_ok h
    cases h
    rcases List.mem_append.1 hs with hs | hs
    · exact hcomposed hs
    · exact size_lt_of_mem_objectMembers ho hs mark

end RestContract.Schema
