import RestContract.Proofs.Acceptance

/-!
# Values that an enumeration accepts

Texts are enumerated as they are, and a single value is written as a constant: such a validator
accepts the listed values and nothing else. Of several numbers or booleans each one becomes the
validator of a constant, and these are enumerated. But the library enumerates texts only, so what is
listed this way is not accepted, nor is anything else.
-/

namespace RestContract

/-- The value of JSON that a constant is, if it is one. -/
def Literal.datum? : Literal → Option Datum
  | .null => some .null
  | .bool b => some (.bool b)
  | .int n => some (.number n)
  | .double x => x.exact?.map .number
  | .text s => some (.text s)

/-- The value of JSON that a value without parts is, if it is one. -/
def Value.datum? : Value → Option Datum
  | .null => some .null
  | .bool b => some (.bool b)
  | .int n => some (.number n)
  | .double x => x.exact?.map .number
  | .text s => some (.text s)
  | _ => none

namespace Expr

/-- The values that the validator of a constant, of a union or of an enumeration accepts. An
    enumeration accepts the texts that stand in its list as they are. -/
inductive Takes : Expr → Datum → Prop where
  | literal {l : Literal} {v : Datum} (h : l.datum? = some v) : Takes (z "literal" [.literal l]) v
  | union {es : List Expr} {e : Expr} {v : Datum} (he : e ∈ es) (h : Takes e v) :
    Takes (z "union" [.array es]) v
  | enum {es : List Expr} {s : String} (h : text s ∈ es) : Takes (z "enum" [.array es]) (.text s)

theorem takes_literal_iff {l : Literal} {v : Datum} :
    Takes (z "literal" [.literal l]) v ↔ l.datum? = some v := by
  constructor
  · intro h
    generalize hz : z "literal" [.literal l] = made at h
    cases h with
    | literal h =>
      cases hz
      exact h
    | union | enum => simp [z] at hz
  · exact .literal

theorem takes_enum_iff {es : List Expr} {v : Datum} :
    Takes (z "enum" [.array es]) v ↔ ∃ s, text s ∈ es ∧ v = .text s := by
  constructor
  · intro h
    generalize hz : z "enum" [.array es] = made at h
    cases h with
    | literal | union => simp [z] at hz
    | enum h =>
      cases hz
      exact ⟨_, h, rfl⟩
  · rintro ⟨s, h, rfl⟩
    exact .enum h

end Expr

namespace Compile

open Expr Validation

/-- A value that is listed for a type: a text for texts, a number of either kind for numbers, a
    boolean for booleans. -/
inductive Listed (tag : String) : Value → Prop where
  | text {s : String} (ht : tag = "string") : Listed tag (.text s)
  | number {value : Value} (ht : tag = "number" ∨ tag = "integer") (hn : isNumber value = true) :
    Listed tag value
  | boolean {b : Bool} (ht : tag = "boolean") : Listed tag (.bool b)

section

variable {tag : String} {value : Value} {values : List Value}

theorem Listed.constant_eq (h : Listed tag value) :
    Expr.constant value = .ok (ofValue value) := by
  cases h with
  | text | boolean => rfl
  | number _ hn => rcases exists_scalar_of_isNumber hn with ⟨n, rfl⟩ | ⟨x, rfl⟩ <;> rfl

theorem Listed.exists_literal (h : Listed tag value) :
    ∃ l, ofValue value = .literal l ∧ l.datum? = value.datum? := by
  cases h with
  | @text s => exact ⟨.text s, rfl, rfl⟩
  | @boolean b => exact ⟨.bool b, rfl, rfl⟩
  | number _ hn =>
    rcases exists_scalar_of_isNumber hn with ⟨n, rfl⟩ | ⟨x, rfl⟩
    · exact ⟨.int n, rfl, rfl⟩
    · exact ⟨.double x, rfl, rfl⟩

/-- Texts are listed for texts only. -/
theorem Listed.isSomeText_iff (h : Listed tag value) : isSomeText value = true ↔ tag = "string" := by
  cases h with
  | text ht => simp [isSomeText, ht]
  | boolean ht => simp [isSomeText, ht]
  | number ht hn =>
    have hne : tag ≠ "string" := by rcases ht with rfl | rfl <;> simp
    rcases exists_scalar_of_isNumber hn with ⟨n, rfl⟩ | ⟨x, rfl⟩ <;> simp [isSomeText, hne]

theorem not_any_isSomeText (h : ∀ value ∈ values, Listed tag value) (ht : tag ≠ "string") :
    values.any isSomeText = false := by
  rw [List.any_eq_false]
  exact fun value hm => fun hs => ht ((h value hm).isSomeText_iff.1 hs)

theorem takes_literal_ofValue_iff (h : Listed tag value) {v : Datum} :
    Takes (z "literal" [ofValue value]) v ↔ value.datum? = some v := by
  obtain ⟨l, hl, hd⟩ := h.exists_literal
  rw [hl, takes_literal_iff, hd]

/-- Texts that are enumerated as they are accept themselves. -/
theorem takes_enum_ofValue_iff (h : ∀ value ∈ values, Listed "string" value) {v : Datum} :
    Takes (z "enum" [.array (values.map ofValue)]) v ↔ ∃ value ∈ values, value.datum? = some v := by
  have htext : ∀ value ∈ values, ∃ s, value = .text s := by
    intro value hm
    have hs := (h value hm).isSomeText_iff.2 rfl
    unfold isSomeText at hs
    split at hs
    · exact ⟨_, rfl⟩
    · cases hs
  rw [takes_enum_iff]
  constructor
  · rintro ⟨s, hs, rfl⟩
    obtain ⟨value, hm, heq⟩ := List.mem_map.1 hs
    obtain ⟨t, rfl⟩ := htext value hm
    cases heq
    exact ⟨.text s, hm, rfl⟩
  · rintro ⟨value, hm, hv⟩
    obtain ⟨s, rfl⟩ := htext value hm
    cases hv
    exact ⟨s, List.mem_map_of_mem hm, rfl⟩

/-- Validators of constants are no texts, so an enumeration of them accepts nothing. -/
theorem not_takes_enum_literals (v : Datum) :
    ¬ Takes (z "enum" [.array (values.map fun value => z "literal" [ofValue value])]) v := by
  rw [takes_enum_iff]
  rintro ⟨s, hs, -⟩
  obtain ⟨value, -, heq⟩ := List.mem_map.1 hs
  cases heq

/-- There is a validator for every list of values of one type. -/
theorem exists_enumeration (h : ∀ value ∈ values, Listed tag value) :
    ∃ e, (enumeration (.text tag) values).result = .ok e := by
  have hconstant : ∀ value ∈ values,
      Compile.constant value = .ok (z "literal" [ofValue value]) := by
    intro value hm
    rw [Compile.constant, (h value hm).constant_eq]
    rfl
  have hmixed : (!(Value.text tag).isText "string" && values.any isSomeText) = false := by
    by_cases ht : tag = "string"
    · simp [Value.isText, ht]
    · simp [not_any_isSomeText h ht]
  unfold enumeration
  rw [hmixed, if_neg Bool.false_ne_true]
  split
  · exact ⟨_, hconstant _ (List.mem_singleton_self _)⟩
  · obtain ⟨es, hes⟩ : ∃ es, List.Forall₂ (fun value e =>
        (if (Value.text tag).isText "string" then Expr.constant else Compile.constant) value = .ok e)
          values es := by
      refine exists_forall₂ fun value hm => ?_
      split
      · exact ⟨_, (h value hm).constant_eq⟩
      · exact ⟨_, hconstant value hm⟩
    refine Traced.exists_result_bind (a := es) ?_ ⟨_, rfl⟩
    exact mapM_eq_ok_iff.2 hes

end

/-- The validator of values of one type accepts these values and nothing else, if they are texts or
    if there is only one. Where there are several numbers or booleans it accepts nothing. -/
theorem takes_enumeration_iff {tag : String} {values : List Value}
    (h : ∀ value ∈ values, Listed tag value) :
    ∃ e, (enumeration (.text tag) values).result = .ok e ∧ ∀ v, Takes e v ↔
      (tag = "string" ∨ values.length = 1) ∧ ∃ value ∈ values, value.datum? = some v := by
  obtain ⟨e, he⟩ := exists_enumeration h
  refine ⟨e, he, fun v => ?_⟩
  cases enumerationForm_of_enumeration he with
  | mixed ht hs =>
    rw [not_any_isSomeText h (by simpa [Value.isText] using ht)] at hs
    cases hs
  | @sole value hm hv =>
    subst hv
    rw [takes_literal_ofValue_iff (h value (List.mem_singleton_self _))]
    simp
  | texts ht =>
    have ht : tag = "string" := by simpa [Value.isText] using ht
    subst ht
    rw [takes_enum_ofValue_iff h]
    simp
  | others ht hs hn =>
    have ht : tag ≠ "string" := by simpa [Value.isText] using ht
    refine iff_of_false (not_takes_enum_literals v) ?_
    rintro ⟨htag | hlength, -⟩
    · exact ht htag
    · obtain ⟨value, hv⟩ := List.length_eq_one_iff.1 hlength
      exact hn value hv

theorem takes_enumeration_iff_texts :
    (∀ value ∈ [Value.text "a", .text "b"], Listed "string" value) ∧
      ∃ e, (enumeration (.text "string") [.text "a", .text "b"]).result = .ok e ∧
        Takes e (.text "b") ∧ ¬ Takes e (.text "c") := by
  have h : ∀ value ∈ [Value.text "a", .text "b"], Listed "string" value := by
    simp only [List.forall_mem_cons]
    exact ⟨.text rfl, .text rfl, by simp⟩
  obtain ⟨e, he, hv⟩ := takes_enumeration_iff h
  refine ⟨h, e, he, (hv _).2 ⟨.inl rfl, .text "b", by simp, rfl⟩, fun hc => ?_⟩
  obtain ⟨-, value, hm, hd⟩ := (hv _).1 hc
  simp only [List.mem_cons, List.not_mem_nil, or_false] at hm
  rcases hm with rfl | rfl <;> simp [Value.datum?] at hd

/-- A number is not accepted where it is listed beside others. -/
theorem exists_listed_not_taken :
    ∃ (values : List Value) (e : Expr) (v : Datum), values ≠ [] ∧
      (∀ value ∈ values, Listed "integer" value) ∧
      (enumeration (.text "integer") values).result = .ok e ∧
      (∃ value ∈ values, value.datum? = some v) ∧ ¬ Takes e v := by
  refine ⟨[.int 1, .int 2, .int 3], _, .number 1, by simp, ?_, rfl, ⟨.int 1, by simp, ?_⟩,
    @not_takes_enum_literals [.int 1, .int 2, .int 3] _⟩
  · simp only [List.forall_mem_cons]
    exact ⟨.number (.inr rfl) rfl, .number (.inr rfl) rfl, .number (.inr rfl) rfl, by simp⟩
  · simp [Value.datum?]

end Compile
end RestContract
