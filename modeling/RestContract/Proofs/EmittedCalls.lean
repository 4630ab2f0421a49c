import RestContract.Compile.Enumeration
import RestContract.Proofs.Runs
import RestContract.Validation.Default

/-!
# What follows a validator, and what an enumeration is made of

The calls for the keywords of a schema, each with the kind of validator that it belongs to, and the
forms of the validator for a list of values. Whatever holds of all these calls and of all these forms
holds of what the compiler writes for keywords and for values.
-/

namespace RestContract

theorem Expr.eq_ofValue_of_constant {value : Value} {e : Expr} (h : constant value = .ok e) :
    e = ofValue value := by
  unfold constant at h
  split at h
  · cases h
    rfl
  · cases h

/-! ## Constraints -/

namespace Validation

open Expr

/-- A call for a keyword, on a validator that this method of the library makes. -/
inductive Constrains : String → Call → Prop where
  | length {method : String} {value : Value} (hm : method ∈ ["min", "max"]) :
    Constrains "string" (.call method [ofValue value])
  | pattern {source : String} : Constrains "string" (.call "regex" [.regex source])
  | format {name : String} {call : Call} (h : formatCall? name = some call) :
    Constrains "string" call
  | whole : Constrains "number" (.call "int" [])
  | bound {method : String} {value : Value}
    (hm : method ∈ ["gt", "gte", "lt", "lte", "multipleOf"]) :
    Constrains "number" (.call method [ofValue value])
  | count {method : String} {value : Value} (hm : method ∈ ["min", "max"]) :
    Constrains "array" (.call method [ofValue value])

/-- The method that makes the validator of a type, where values of the type can be constrained. -/
def constrained? (type : Value) : Option String :=
  if type.isText "string" then some "string"
  else if type.isText "number" || type.isText "integer" then some "number"
  else if type.isText "array" then some "array"
  else none

variable {fields : Fields} {type : Value} {keyword method : String} {calls : List Call}
  {call : Call}

theorem exists_scalar_of_isNumber {value : Value} (h : isNumber value = true) :
    (∃ n, value = .int n) ∨ ∃ x, value = .double x := by
  unfold isNumber at h
  split at h
  · exact .inl ⟨_, rfl⟩
  · exact .inr ⟨_, rfl⟩
  · cases h

theorem eq_of_callWith {value : Value} (h : callWith method value = .ok call) :
    call = .call method [ofValue value] := by
  obtain ⟨e, he, h⟩ := exists_of_bind_eq_ok h
  cases h
  rw [eq_ofValue_of_constant he]

theorem mem_unlessVacant_iff (h : unlessVacant fields keyword method = .ok calls) :
    call ∈ calls ↔ (fields.get keyword).isVacant = false ∧
      call = .call method [ofValue (fields.get keyword)] := by
  unfold unlessVacant at h
  dsimp only at h
  split at h
  · next hv =>
    cases h
    simp [hv]
  · next hv =>
    obtain ⟨only, ho, h⟩ := exists_of_bind_eq_ok h
    cases h
    simp [hv, eq_of_callWith ho]

theorem mem_unlessNull_iff (h : unlessNull fields keyword method = .ok calls) :
    call ∈ calls ↔ (fields.get keyword).isNull = false ∧
      call = .call method [ofValue (fields.get keyword)] := by
  unfold unlessNull at h
  dsimp only at h
  split at h
  · next hv =>
    cases h
    simp [hv]
  · next hv =>
    obtain ⟨only, ho, h⟩ := exists_of_bind_eq_ok h
    cases h
    simp [hv, eq_of_callWith ho]

/-- Whether the value beside a bound is a flag that takes the bound itself out. -/
def excludes : Value → Bool
  | .bool true => true
  | _ => false

theorem mem_boundCalls_iff {bound exclusive : Value} {inclusiveMethod exclusiveMethod : String}
    (h : boundCalls bound exclusive inclusiveMethod exclusiveMethod = .ok calls) :
    call ∈ calls ↔
      (bound.isNull = false ∧
        call = .call (if excludes exclusive then exclusiveMethod else inclusiveMethod)
          [ofValue bound]) ∨
      (bound.isNull = true ∧ isNumber exclusive = true ∧
        call = .call exclusiveMethod [ofValue exclusive]) := by
  unfold boundCalls at h
  split at h
  · next hb =>
    obtain ⟨only, ho, h⟩ := exists_of_bind_eq_ok h
    cases h
    rw [List.mem_singleton, eq_of_callWith ho]
    simp only [Bool.not_eq_true'] at hb
    simp only [hb, true_and, Bool.false_eq_true, false_and, or_false]
    rfl
  next hb =>
  have hb : bound.isNull = true := by simpa using hb
  split at h
  · next hn =>
    obtain ⟨only, ho, h⟩ := exists_of_bind_eq_ok h
    cases h
    simp [hb, hn, eq_of_callWith ho]
  · next hn =>
    cases h
    simp [hb, hn]

theorem exists_of_mem_patternCalls (h : patternCalls fields = .ok calls) (hc : call ∈ calls) :
    ∃ source, call = .call "regex" [.regex source] := by
  unfold patternCalls at h
  dsimp only at h
  split at h
  · cases h
    cases hc
  · obtain ⟨pattern, _, h⟩ := exists_of_bind_eq_ok h
    cases h
    exact ⟨_, List.mem_singleton.1 hc⟩

theorem exists_of_mem_formatCalls (h : formatCalls fields = .ok calls) (hc : call ∈ calls) :
    ∃ name, formatCall? name = some call := by
  obtain ⟨key, _, h⟩ := exists_of_bind_eq_ok h
  split at h
  · cases h
    exact ⟨_, Option.mem_toList.1 hc⟩
  · cases h
    cases hc

/-- The constraints of a text are those of its lengths, unless it is an enumeration, of its pattern
    and of its format. -/
theorem exists_of_textCalls (h : textCalls fields = .ok calls) :
    ∃ lengths pattern format, calls = lengths ++ pattern ++ format ∧
      patternCalls fields = .ok pattern ∧ formatCalls fields = .ok format ∧
      (fields.has "enum" = true ∧ lengths = [] ∨
        fields.has "enum" = false ∧ ∃ lower upper, lengths = lower ++ upper ∧
          unlessVacant fields "minLength" "min" = .ok lower ∧
          unlessVacant fields "maxLength" "max" = .ok upper) := by
  unfold textCalls at h
  split at h
  · next he =>
    obtain ⟨lengths, hl, h⟩ := exists_of_bind_eq_ok h
    obtain ⟨pattern, hp, h⟩ := exists_of_bind_eq_ok h
    obtain ⟨format, hf, h⟩ := exists_of_bind_eq_ok h
    cases h
    cases hl
    exact ⟨[], pattern, format, rfl, hp, hf, .inl ⟨he, rfl⟩⟩
  · next he =>
    obtain ⟨lower, hlo, h⟩ := exists_of_bind_eq_ok h
    obtain ⟨upper, hup, h⟩ := exists_of_bind_eq_ok h
    obtain ⟨lengths, hl, h⟩ := exists_of_bind_eq_ok h
    obtain ⟨pattern, hp, h⟩ := exists_of_bind_eq_ok h
    obtain ⟨format, hf, h⟩ := exists_of_bind_eq_ok h
    cases h
    cases hl
    exact ⟨_, pattern, format, rfl, hp, hf, .inr ⟨by simpa using he, lower, upper, rfl, hlo, hup⟩⟩

theorem constrains_of_textCalls (h : textCalls fields = .ok calls) (hc : call ∈ calls) :
    Constrains "string" call := by
  obtain ⟨lengths, pattern, format, rfl, hp, hf, hl⟩ := exists_of_textCalls h
  rcases List.mem_append.1 hc with hc | hc
  · rcases List.mem_append.1 hc with hc | hc
    · rcases hl with ⟨_, rfl⟩ | ⟨_, lower, upper, rfl, hlo, hup⟩
      · cases hc
      · rcases List.mem_append.1 hc with hc | hc
        · obtain ⟨-, rfl⟩ := (mem_unlessVacant_iff hlo).1 hc
          exact .length (by simp)
        · obtain ⟨-, rfl⟩ := (mem_unlessVacant_iff hup).1 hc
          exact .length (by simp)
    · obtain ⟨source, rfl⟩ := exists_of_mem_patternCalls hp hc
      exact .pattern
  · obtain ⟨name, hformat⟩ := exists_of_mem_formatCalls hf hc
    exact .format hformat

/-- The constraints of a number are that it is whole, if it has to be, its bounds and its step. An
    enumeration has none. -/
theorem exists_of_numberCalls {integer : Bool} (h : numberCalls fields integer = .ok calls) :
    fields.has "enum" = true ∧ calls = [] ∨
      fields.has "enum" = false ∧ ∃ lower upper step,
        calls = (if integer then [.call "int" []] else []) ++ lower ++ upper ++ step ∧
        boundCalls (fields.get "minimum") (fields.get "exclusiveMinimum") "gte" "gt" = .ok lower ∧
        boundCalls (fields.get "maximum") (fields.get "exclusiveMaximum") "lte" "lt" = .ok upper ∧
        unlessNull fields "multipleOf" "multipleOf" = .ok step := by
  unfold numberCalls at h
  split at h
  · next he =>
    cases h
    exact .inl ⟨he, rfl⟩
  · next he =>
    obtain ⟨lower, hl, h⟩ := exists_of_bind_eq_ok h
    obtain ⟨upper, hu, h⟩ := exists_of_bind_eq_ok h
    obtain ⟨step, hs, h⟩ := exists_of_bind_eq_ok h
    cases h
    exact .inr ⟨by simpa using he, lower, upper, step, rfl, hl, hu, hs⟩

theorem constrains_of_numberCalls {integer : Bool} (h : numberCalls fields integer = .ok calls)
    (hc : call ∈ calls) : Constrains "number" call := by
  have hbound : ∀ {bound exclusive inclusiveMethod exclusiveMethod calls},
      boundCalls bound exclusive inclusiveMethod exclusiveMethod = .ok calls →
      [inclusiveMethod, exclusiveMethod] ⊆ ["gt", "gte", "lt", "lte", "multipleOf"] →
      call ∈ calls → Constrains "number" call := by
    intro bound exclusive inclusiveMethod exclusiveMethod calls h hs hc
    rcases (mem_boundCalls_iff h).1 hc with ⟨-, rfl⟩ | ⟨-, -, rfl⟩
    · exact .bound (hs (by split <;> simp))
    · exact .bound (hs (by simp))
  rcases exists_of_numberCalls h with ⟨_, rfl⟩ | ⟨_, lower, upper, step, rfl, hl, hu, hs⟩
  · cases hc
  rcases List.mem_append.1 hc with hc | hc
  · rcases List.mem_append.1 hc with hc | hc
    · rcases List.mem_append.1 hc with hc | hc
      · cases integer with
        | true =>
          cases List.mem_singleton.1 hc
          exact .whole
        | false => cases hc
      · exact hbound hl (by simp) hc
    · exact hbound hu (by simp) hc
  · obtain ⟨-, rfl⟩ := (mem_unlessNull_iff hs).1 hc
    exact .bound (by simp)

theorem exists_of_arrayCalls (h : arrayCalls fields = .ok calls) :
    ∃ lower upper, calls = lower ++ upper ∧ unlessNull fields "minItems" "min" = .ok lower ∧
      unlessNull fields "maxItems" "max" = .ok upper := by
  obtain ⟨lower, hl, h⟩ := exists_of_bind_eq_ok h
  obtain ⟨upper, hu, h⟩ := exists_of_bind_eq_ok h
  cases h
  exact ⟨lower, upper, rfl, hl, hu⟩

theorem constrains_of_arrayCalls (h : arrayCalls fields = .ok calls) (hc : call ∈ calls) :
    Constrains "array" call := by
  obtain ⟨lower, upper, rfl, hl, hu⟩ := exists_of_arrayCalls h
  rcases List.mem_append.1 hc with hc | hc
  · obtain ⟨-, rfl⟩ := (mem_unlessNull_iff hl).1 hc
    exact .count (by simp)
  · obtain ⟨-, rfl⟩ := (mem_unlessNull_iff hu).1 hc
    exact .count (by simp)

/-- The constraints of a schema belong to the validator of its type. -/
theorem constrains_of_constraints (h : constraints fields type = .ok calls) (hc : call ∈ calls) :
    ∃ maker, constrained? type = some maker ∧ Constrains maker call := by
  unfold constraints at h
  unfold constrained?
  split at h
  · next ht => exact ⟨_, if_pos ht, constrains_of_textCalls h hc⟩
  next hs =>
  split at h
  · next ht => exact ⟨_, by simp [hs, ht], constrains_of_numberCalls h hc⟩
  next hn =>
  split at h
  · next ht => exact ⟨_, by simp [hs, ht], constrains_of_numberCalls h hc⟩
  next hi =>
  split at h
  · next ht => exact ⟨_, by simp [hs, hn, hi, ht], constrains_of_arrayCalls h hc⟩
  · cases h
    cases hc

/-- The calls that follow a validator are those of its constraints, its presence and its default. -/
theorem exists_of_calls {p : Presence} (h : Validation.calls fields type p = .ok calls) :
    ∃ narrowed default, calls = narrowed ++ presence fields p ++ default ∧
      constraints fields type = .ok narrowed ∧ defaultCalls fields type = .ok default := by
  obtain ⟨narrowed, hn, h⟩ := exists_of_bind_eq_ok h
  obtain ⟨default, hd, h⟩ := exists_of_bind_eq_ok h
  cases h
  exact ⟨narrowed, default, rfl, hn, hd⟩

theorem exists_of_mem_presence {p : Presence} (hc : call ∈ presence fields p) :
    ∃ method ∈ ["optional", "nullable", "nullish"], call = .call method [] := by
  unfold presence at hc
  split at hc <;> split at hc <;> simp_all

theorem exists_of_mem_defaultCalls (h : defaultCalls fields type = .ok calls) (hc : call ∈ calls) :
    ∃ value, call = .call "default" [ofValue value] := by
  unfold defaultCalls at h
  split at h
  · cases h
    cases hc
  obtain ⟨value, _, h⟩ := exists_of_bind_eq_ok h
  split at h
  · obtain ⟨only, ho, h⟩ := exists_of_bind_eq_ok h
    cases h
    exact ⟨_, List.mem_singleton.1 hc ▸ eq_of_callWith ho⟩
  · cases h
    cases hc

end Validation

/-! ## Enumerations -/

namespace Compile

open Expr

/-- What `enumeration` gives. -/
inductive EnumerationForm (type : Value) (values : List Value) : Expr → Prop where
  | mixed (ht : type.isText "string" = false) (hs : values.any isSomeText = true) :
    EnumerationForm type values (z "never" [])
  | sole {value : Value} (hm : type.isText "string" = true ∨ values.any isSomeText = false)
    (hv : values = [value]) : EnumerationForm type values (z "literal" [ofValue value])
  | texts (ht : type.isText "string" = true) (hn : ∀ value, values ≠ [value]) :
    EnumerationForm type values (z "enum" [.array (values.map ofValue)])
  | others (ht : type.isText "string" = false) (hs : values.any isSomeText = false)
    (hn : ∀ value, values ≠ [value]) : EnumerationForm type values
      (z "enum" [.array (values.map fun value => z "literal" [ofValue value])])

theorem eq_literal_of_constant {value : Value} {e : Expr} (h : constant value = .ok e) :
    e = z "literal" [ofValue value] := by
  obtain ⟨l, hl, h⟩ := exists_of_bind_eq_ok h
  cases h
  rw [eq_ofValue_of_constant hl]

theorem eq_map_of_mapM {f : Value → Except Error Expr} {g : Value → Expr} {values : List Value}
    {es : List Expr} (hfg : ∀ value e, f value = .ok e → e = g value) (h : values.mapM f = .ok es) :
    es = values.map g := by
  have hall := mapM_eq_ok_iff.1 h
  induction hall with
  | nil => rfl
  | cons he _ ih => rw [List.map_cons, hfg _ _ he, ih (mapM_eq_ok_iff.2 ‹_›)]

theorem enumerationForm_of_enumeration {type : Value} {values : List Value} {e : Expr}
    (h : (enumeration type values).result = .ok e) : EnumerationForm type values e := by
  unfold enumeration at h
  split at h
  · next hm =>
    cases h
    simp only [Bool.and_eq_true, Bool.not_eq_true'] at hm
    exact .mixed hm.1 hm.2
  next hm =>
  have hm : type.isText "string" = true ∨ values.any isSomeText = false := by
    cases ht : type.isText "string" <;> simp_all
  split at h
  · cases eq_literal_of_constant h
    exact .sole hm rfl
  · next hn =>
    obtain ⟨es, hes, h⟩ := Traced.exists_of_result_bind h
    cases h
    cases ht : type.isText "string" with
    | true =>
      rw [ht] at hes
      cases eq_map_of_mapM (fun _ _ => eq_ofValue_of_constant) hes
      exact .texts ht hn
    | false =>
      rw [ht] at hes
      cases eq_map_of_mapM (fun _ _ => eq_literal_of_constant) hes
      exact .others ht (hm.resolve_left (by simp [ht])) hn

end Compile
end RestContract
