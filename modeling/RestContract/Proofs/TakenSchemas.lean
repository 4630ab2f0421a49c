import RestContract.Proofs.DeclaredBeforeUse

/-!
# What is taken from a schema

The schemas that are taken from a schema are smaller than it, so taking schemas apart comes to an
end. And where the schema has a validator, all of them have been compiled: what holds of every schema
that was compiled on the way holds of each schema that can be taken.
-/

namespace RestContract.Compile

open Schema Validation

theorem size_lt_of_property {fields entries : Fields} {key : Scalar} {schema : Value}
    (he : (fields.get "properties").orEmptyMap.asFields = .ok entries)
    (hm : (key, schema) ∈ entries) (mark : Option Nat) :
    schema.size < (Value.map fields mark).size := by
  cases hv : (fields.get "properties").isVacant with
  | true =>
    rw [Value.orEmptyMap, if_pos hv] at he
    cases he
    cases hm
  | false =>
    have hlt := size_lt_of_get_ne_null (isNull_of_isVacant hv) mark
    rw [Value.orEmptyMap, hv] at he
    cases hp : fields.get "properties" with
    | map found own =>
      rw [hp] at he hlt
      cases he
      have hle := Value.size_le_sizeOfFields hm
      simp only [Value.size] at hlt ⊢
      omega
    | _ =>
      rw [hp] at he
      cases he

theorem size_lt_of_taken {fields : Fields} {type schema : Value} (h : Taken fields type schema)
    (mark : Option Nat) : schema.size < (Value.map fields mark).size := by
  induction h with
  | member hc hp hm =>
    obtain ⟨_, _, hmembers⟩ := exists_keyword_of_composition hc hp
    exact size_lt_of_mem_members hmembers hm mark
  | tag _ _ ih => exact ih
  | items _ hi => exact size_lt_of_get_ne_null hi mark
  | additional _ _ _ _ ha =>
    rw [← ha]
    exact size_lt_of_get_ne_null (by rw [ha]; rfl) mark
  | property _ _ _ _ he hm => exact size_lt_of_property he hm mark

/-! ## All that is taken has a validator -/

variable {P : Value → Prop} {fields : Fields} {type : Value} {e : Expr}

/-- What the members of a list have in common. -/
theorem forall_of_forall₂ {schemas : List Value} {es : List Expr}
    (h : List.Forall₂ (fun schema _ => P schema) schemas es) : ∀ schema ∈ schemas, P schema := by
  intro schema hm
  obtain ⟨_, _, hP⟩ := exists_of_mem_forall₂ h.flip hm
  exact hP

theorem forall_taken_of_members {members : Value} {es : List Expr}
    (hc : composition fields = some members)
    (h : MembersForm (fun schema _ _ => P schema) members es) :
    ∀ schema, Taken fields type schema → P schema := by
  obtain ⟨parts, hp, h⟩ := h
  intro schema hm
  rw [taken_iff_of_members hc hp] at hm
  exact forall_of_forall₂ h schema hm

theorem forall_taken_of_enclosesTaken
    (h : EnclosesTaken (fun schema _ _ => P schema) fields type e) :
    ∀ schema, Taken fields type schema → P schema := by
  obtain ⟨schemas, es, ht, _, hall⟩ := h
  intro schema hm
  exact forall_of_forall₂ (hall.imp fun _ _ ⟨_, h⟩ => h) schema ((ht schema).1 hm)

theorem forall_taken_of_typeForm (hu : Typed fields) (hs : ∀ tag mark, type ≠ .list [tag] mark)
    (hP : ∀ tag, P (retyped fields tag) → ∀ schema, Taken fields tag schema → P schema)
    (h : TypeForm (fun schema _ _ => P schema) fields type e) :
    ∀ schema, Taken fields type schema → P schema := by
  cases h with
  | tags h =>
    intro schema hm
    obtain ⟨tag, ht, hm⟩ := (taken_list_iff hu.uncomposed).1 hm
    have hall := forall_of_forall₂ (List.forall₂_map_left_iff.2 h)
    exact hP tag (hall _ (List.mem_map_of_mem ht)) schema hm
  | tag ht h =>
    exact forall_taken_of_enclosesTaken (enclosesTaken_of_tagForm hu (single_of_ne hs ht) h)

theorem forall_taken_of_concreteForm {p : Presence}
    (hP : ∀ tag, P (retyped fields tag) → ∀ schema, Taken fields tag schema → P schema)
    (h : ConcreteForm (fun schema _ _ => P schema) fields p e) :
    ∀ schema, Taken fields (fields.get "type") schema → P schema := by
  cases h with
  | sole ht h =>
    intro schema hm
    rw [ht, taken_sole_iff] at hm
    exact hP _ h schema hm
  | chain hs _ h _ =>
    cases h with
    | oneOf hv h => exact forall_taken_of_members (composition_eq_oneOf hv) h
    | allOf ho hv h => exact forall_taken_of_members (composition_eq_allOf ho hv) h
    | anyOf ho ha hv h _ => exact forall_taken_of_members (composition_eq_anyOf ho ha hv) h
    | enum hu hv _ _ =>
      intro schema hm
      exact absurd hm (not_taken_of_enum hu.composition_eq_none hv)
    | typed hu hv h =>
      exact forall_taken_of_typeForm ⟨hu.composition_eq_none, hv⟩ hs hP h

end RestContract.Compile
