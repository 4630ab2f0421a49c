import RestContract.Proofs.Elementary

/-!
# Calls that narrow a validator

The calls for the keywords of an elementary schema, and what they ask of the values that a validator
accepts.
-/

namespace RestContract.Validation

open Expr Schema

/-- The call for a keyword, if the schema has it. -/
def keywordCall (fields : Fields) (keyword method : String) : List Call :=
  match fields.get? keyword with
  | some value => [.call method [ofValue value]]
  | none => []

section

variable {fields : Fields} {keyword method : String}

theorem constant_of_exact? {value : Value} (h : value.exact?.isSome = true) :
    constant value = .ok (ofValue value) := by
  cases value with
  | scalar s => rfl
  | _ => cases h

theorem isNull_of_exact? {value : Value} (h : value.exact?.isSome = true) : value.isNull = false := by
  cases value with
  | scalar s =>
    cases s with
    | null => cases h
    | _ => rfl
  | _ => cases h

theorem callWith_of_exact? {value : Value} (h : value.exact?.isSome = true) :
    callWith method value = .ok (.call method [ofValue value]) := by
  rw [callWith, constant_of_exact? h]
  rfl

theorem unlessVacant_eq (h : Keyword fields keyword fun value => ∃ n : Nat, 0 < n ∧ value = .int n) :
    unlessVacant fields keyword method = .ok (keywordCall fields keyword method) := by
  unfold unlessVacant keywordCall Fields.get
  cases hg : fields.get? keyword with
  | none => rfl
  | some value =>
    obtain ⟨n, hn, rfl⟩ := h value hg
    have hv : (Value.int n).isVacant = false := by simp [Value.isVacant]; omega
    simp only [Option.getD_some, hv]
    rfl

theorem unlessNull_eq (h : Keyword fields keyword fun value => value.exact?.isSome = true) :
    unlessNull fields keyword method = .ok (keywordCall fields keyword method) := by
  unfold unlessNull keywordCall Fields.get
  cases hg : fields.get? keyword with
  | none => rfl
  | some value =>
    simp only [Option.getD_some, isNull_of_exact? (h value hg), callWith_of_exact? (h value hg)]
    rfl

theorem boundCalls_eq {flag inclusive exclusive : String}
    (hb : Keyword fields keyword fun value => value.exact?.isSome = true)
    (hf : Keyword fields flag fun value => ∃ b, value = .bool b) :
    boundCalls (fields.get keyword) (fields.get flag) inclusive exclusive =
      .ok (keywordCall fields keyword (if isExclusive fields flag then exclusive else inclusive)) := by
  have hnumber : isNumber (fields.get flag) = false := by
    unfold Fields.get
    cases hg : fields.get? flag with
    | none => rfl
    | some value =>
      obtain ⟨b, rfl⟩ := hf value hg
      rfl
  unfold boundCalls keywordCall isExclusive
  cases hg : fields.get? keyword with
  | none =>
    have hget : fields.get keyword = .null := by simp [Fields.get, hg]
    simp only [hget, Value.isNull, hnumber]
    rfl
  | some value =>
    have hget : fields.get keyword = value := by simp [Fields.get, hg]
    have hcall : ∀ method, callWith method value = .ok (.call method [ofValue value]) :=
      fun _ => callWith_of_exact? (hb value hg)
    simp only [hget, isNull_of_exact? (hb value hg), Bool.not_false, if_true, hcall]
    unfold Fields.get
    cases hflag : fields.get? flag with
    | none => rfl
    | some value =>
      obtain ⟨b, rfl⟩ := hf value hflag
      cases b <;> rfl

theorem exact?_of_count
    (h : Keyword fields keyword fun value => ∃ n : Nat, value = .int n) :
    Keyword fields keyword fun value => value.exact?.isSome = true := by
  intro value hv
  obtain ⟨n, rfl⟩ := h value hv
  rfl

end

/-! ## The calls of an elementary schema -/

section

variable {fields : Fields} {type : Value} (hs : Shaped fields type)

include hs

theorem textCalls_eq : textCalls fields =
    .ok (keywordCall fields "minLength" "min" ++ keywordCall fields "maxLength" "max") := by
  have henum : fields.has "enum" = false := by
    simp [Fields.has, hs.get?_eq_none "enum" (by decide)]
  have hpattern : patternCalls fields = .ok [] := by
    rw [patternCalls, hs.get_eq_null "pattern" (by decide)]
    rfl
  have hformat : formatCalls fields = .ok [] := by
    rw [formatCalls, hs.get_eq_null "format" (by decide)]
    rfl
  simp only [textCalls, henum, hpattern, hformat, unlessVacant_eq hs.minLength,
    unlessVacant_eq hs.maxLength]
  simp [bind, Except.bind, pure, Except.pure]

theorem numberCalls_eq (integer : Bool) : numberCalls fields integer =
    .ok ((if integer then [.call "int" []] else []) ++
      keywordCall fields "minimum" (if isExclusive fields "exclusiveMinimum" then "gt" else "gte") ++
      keywordCall fields "maximum" (if isExclusive fields "exclusiveMaximum" then "lt" else "lte")) := by
  have henum : fields.has "enum" = false := by
    simp [Fields.has, hs.get?_eq_none "enum" (by decide)]
  have hstep : unlessNull fields "multipleOf" "multipleOf" = .ok [] := by
    rw [unlessNull, hs.get_eq_null "multipleOf" (by decide)]
    rfl
  simp only [numberCalls, henum, hstep, boundCalls_eq hs.minimum hs.exclusiveMinimum,
    boundCalls_eq hs.maximum hs.exclusiveMaximum]
  simp [bind, Except.bind, pure, Except.pure]

theorem arrayCalls_eq : arrayCalls fields =
    .ok (keywordCall fields "minItems" "min" ++ keywordCall fields "maxItems" "max") := by
  simp only [arrayCalls, unlessNull_eq (exact?_of_count hs.minItems),
    unlessNull_eq (exact?_of_count hs.maxItems)]
  rfl

end

/-- Besides the constraints only a call for an optional property follows a validator. -/
theorem calls_eq {fields : Fields} {type : Value} {p : Presence} {narrowing : List Call}
    (hd : fields.get? "default" = none) (hn : fields.get? "nullable" = none)
    (h : constraints fields type = .ok narrowing) : Validation.calls fields type p =
      .ok (narrowing ++ if p = .optional then [.call "optional" []] else []) := by
  have hdefault : defaultCalls fields type = .ok [] := by
    rw [defaultCalls, Fields.has, hd]
    rfl
  have hpresence : presence fields p = if p = .optional then [.call "optional" []] else [] := by
    unfold presence Fields.get
    rw [hn]
    cases p <;> rfl
  simp only [Validation.calls, h, hdefault, hpresence]
  simp [bind, Except.bind, pure, Except.pure]

/-! ## What the calls ask -/

section

variable (length : String → Nat) (meaning : String → Sense)

/-- Calls that ask something of the values that a validator accepts, and nothing else. -/
def Narrows (calls : List Call) (P : Datum → Prop) : Prop :=
  ∀ accepts omissible, denoteCalls length meaning (.validator accepts omissible) calls =
    .validator (fun v => accepts v ∧ P v) omissible

variable {length meaning}

theorem Narrows.nil {P : Datum → Prop} (h : ∀ v, P v) : Narrows length meaning [] P := by
  intro accepts omissible
  simp [denoteCalls, h]

theorem Narrows.append {a b : List Call} {P Q : Datum → Prop} (ha : Narrows length meaning a P)
    (hb : Narrows length meaning b Q) : Narrows length meaning (a ++ b) fun v => P v ∧ Q v := by
  intro accepts omissible
  rw [denoteCalls_append, ha, hb]
  simp only [and_assoc]

/-- The call for a keyword asks that the value stands in a relation to that of the keyword. -/
theorem narrows_keywordCall {fields : Fields} {keyword method : String}
    {relation : Rat → Rat → Prop} {measure : Datum → Option Rat}
    (hm : ∀ accepts omissible l, Sense.onValidator length accepts omissible method [.literal l] =
      .validator (fun v => accepts v ∧ Bounded relation l.exact? (measure v)) omissible)
    (hv : Keyword fields keyword fun value => value.exact?.isSome = true) :
    Narrows length meaning (keywordCall fields keyword method) fun v =>
      Keyword fields keyword fun value => Bounded relation value.exact? (measure v) := by
  unfold keywordCall Keyword
  cases hg : fields.get? keyword with
  | none => exact .nil fun v value h => nomatch h
  | some value =>
    intro accepts omissible
    obtain ⟨l, hl, hexact⟩ := exists_literal_of_exact? (hv value hg)
    simp only [denoteCalls, denoteAll, hl, denote, Sense.call, hm, hexact, Option.some.injEq,
      forall_eq']

theorem narrows_int : Narrows length meaning [.call "int" []] fun v => ∃ n : Int, v = .number n :=
  fun _ _ => rfl

end

end RestContract.Validation
