import RestContract.Proofs.CompiledForm
import RestContract.Proofs.EmittedCalls
import RestContract.Proofs.ExactNumbers

/-!
# Defaults of schemas

What a default becomes in a schema of a type, and whether that is a value of the type. A text, a
boolean and an array always get one. A number gets one that may be infinite or no number at all if
the default is a number itself, since only numerals are looked at, and an integer gets any number. A
default of null counts as nothing where a number or an array is wanted, but a text and a boolean take
it for a value.
-/

namespace RestContract.Validation

open Compile Expr

variable {tag : String} {type given x : Value} {fields : Fields}

/-- What a default becomes in a schema of a type. -/
inductive Coerces (tag : String) : Value → Value → Prop where
  | text {s : String} (ht : tag = "string") : Coerces tag (.text s) (.text s)
  | written {given : Value} {s : String} (ht : tag = "string") (hn : ∀ t, given ≠ .text t)
    (hw : Json.write given = .ok s) : Coerces tag given (.text s)
  | number {given : Value} (ht : tag = "number" ∨ tag = "integer") (hn : isNumber given = true) :
    Coerces tag given given
  | numeral {s : String} {x : Double} (ht : tag = "number" ∨ tag = "integer")
    (hs : Text.number? s.toList = some x) (hx : x.isFinite = true) :
    Coerces tag (.text s) (.double x)
  | truth {given : Value} (ht : tag = "boolean") : Coerces tag given (.bool !given.isVacant)
  | array {items : List Value} {mark : Option Nat} (ht : tag = "array") :
    Coerces tag (.list items mark) (.list items mark)

/-- A value is of a type: a text, a finite number, a whole number, a boolean or a list. -/
inductive Fits (tag : String) : Value → Prop where
  | text {s : String} (ht : tag = "string") : Fits tag (.text s)
  | number {value : Value} {q : Rat} (ht : tag = "number") (h : value.exact? = some q) :
    Fits tag value
  | whole {value : Value} {n : Int} (ht : tag = "integer") (h : value.exact? = some (n : Rat)) :
    Fits tag value
  | truth {b : Bool} (ht : tag = "boolean") : Fits tag (.bool b)
  | array {items : List Value} {mark : Option Nat} (ht : tag = "array") :
    Fits tag (.list items mark)

/-- What a default becomes is not of the type all the same: the default is a number that is not
    finite, or where the number has to be whole, a number or numeral that is not. -/
inductive Misses (tag : String) : Value → Prop where
  | endless {x : Double} (ht : tag = "number") (hx : x.isFinite = false) : Misses tag (.double x)
  | broken {x : Double} (ht : tag = "integer") (hx : x.toInt? = none) : Misses tag (.double x)
  | numeral {s : String} {x : Double} (ht : tag = "integer")
    (hs : Text.number? s.toList = some x) (hx : x.toInt? = none) : Misses tag (.text s)

/-! ## What a default becomes -/

theorem textDefault_eq_some_iff : textDefault given = .ok (some x) ↔ Coerces "string" given x := by
  constructor
  · intro h
    unfold textDefault at h
    split at h
    · cases h
      exact .text rfl
    · next hn =>
      split at h
      · next s hw =>
        cases h
        exact .written rfl hn hw
      · cases h
  · intro h
    cases h with
    | text => rfl
    | written _ hn hw =>
      unfold textDefault
      split
      · next s => exact absurd rfl (hn s)
      · rw [hw]
    | number ht | numeral ht | truth ht | array ht => simp at ht

theorem numberDefault_eq_some_iff (ht : tag = "number" ∨ tag = "integer") :
    numberDefault given = some x ↔ Coerces tag given x := by
  constructor
  · intro h
    unfold numberDefault at h
    split at h
    · next s =>
      split at h
      · next y hs =>
        split at h
        · next hy =>
          cases h
          exact .numeral ht hs hy
        · cases h
      · cases h
    · split at h
      · next hn =>
        cases h
        exact .number ht hn
      · cases h
  · intro h
    cases h with
    | number _ hn => obtain ⟨n, rfl⟩ | ⟨y, rfl⟩ := exists_scalar_of_isNumber hn <;> rfl
    | numeral _ hs hx => simp [numberDefault, hs, hx]
    | text hother | written hother | truth hother | array hother => simp [hother] at ht

theorem coerceDefault_eq_some_iff :
    coerceDefault type given = .ok (some x) ↔ ∃ tag, type = .text tag ∧ Coerces tag given x := by
  constructor
  · intro h
    unfold coerceDefault at h
    split at h
    · next ht => exact ⟨_, eq_text_of_isText ht, textDefault_eq_some_iff.1 h⟩
    split at h
    · next ht =>
      rw [Bool.or_eq_true] at ht
      rw [Except.ok.injEq] at h
      rcases ht with ht | ht
      · exact ⟨_, eq_text_of_isText ht, (numberDefault_eq_some_iff (.inl rfl)).1 h⟩
      · exact ⟨_, eq_text_of_isText ht, (numberDefault_eq_some_iff (.inr rfl)).1 h⟩
    split at h
    · next ht =>
      cases h
      exact ⟨_, eq_text_of_isText ht, .truth rfl⟩
    split at h
    · next ht =>
      rw [Except.ok.injEq] at h
      unfold arrayDefault at h
      split at h
      · cases h
        exact ⟨_, eq_text_of_isText ht, .array rfl⟩
      · cases h
    · cases h
  · rintro ⟨tag, rfl, h⟩
    cases h with
    | text ht | truth ht | array ht =>
      subst ht
      rfl
    | written ht hn hw =>
      subst ht
      exact textDefault_eq_some_iff.2 (.written rfl hn hw)
    | number ht hn =>
      have hnumber := (numberDefault_eq_some_iff ht).2 (.number ht hn)
      rcases ht with rfl | rfl <;> exact congrArg Except.ok hnumber
    | numeral ht hs hx =>
      have hnumber := (numberDefault_eq_some_iff ht).2 (.numeral ht hs hx)
      rcases ht with rfl | rfl <;> exact congrArg Except.ok hnumber

theorem coerces_null_iff : Coerces tag .null x ↔
    (tag = "string" ∧ x = .text "null") ∨ (tag = "boolean" ∧ x = .bool false) := by
  constructor
  · intro h
    cases h with
    | written ht _ hw =>
      cases hw
      exact .inl ⟨ht, rfl⟩
    | number _ hn => cases hn
    | truth ht => exact .inr ⟨ht, rfl⟩
  · rintro (⟨ht, rfl⟩ | ⟨ht, rfl⟩)
    · exact .written ht (by simp) rfl
    · exact .truth ht

/-! ## Values of the type -/

variable {y : Double}

theorem fits_number_iff : Fits "number" (.double y) ↔ y.isFinite = true := by
  rw [Double.isFinite_iff]
  constructor
  · intro h
    cases h with
    | number _ h => exact ⟨_, h⟩
    | whole ht => simp at ht
  · rintro ⟨q, h⟩
    exact .number rfl h

theorem fits_integer_iff : Fits "integer" (.double y) ↔ ∃ n, y.toInt? = some n := by
  simp only [Double.toInt?_eq_some_iff]
  constructor
  · intro h
    cases h with
    | number ht => simp at ht
    | whole _ h => exact ⟨_, h⟩
  · rintro ⟨n, h⟩
    exact .whole rfl h

theorem Misses.isNumeric (h : Misses tag given) : tag = "number" ∨ tag = "integer" := by
  cases h with
  | endless ht => exact .inl ht
  | broken ht | numeral ht => exact .inr ht

theorem misses_number_iff : Misses "number" (.double y) ↔ y.isFinite = false := by
  constructor
  · intro h
    cases h with
    | endless _ hy => exact hy
    | broken ht => simp at ht
  · exact .endless rfl

theorem misses_integer_iff : Misses "integer" (.double y) ↔ y.toInt? = none := by
  constructor
  · intro h
    cases h with
    | endless ht => simp at ht
    | broken _ hy => exact hy
  · exact .broken rfl

theorem misses_numeral_iff {s : String} (hs : Text.number? s.toList = some y) :
    Misses tag (.text s) ↔ tag = "integer" ∧ y.toInt? = none := by
  constructor
  · intro h
    cases h with
    | numeral ht hother hy =>
      cases hs.symm.trans hother
      exact ⟨ht, hy⟩
  · rintro ⟨ht, hy⟩
    exact .numeral ht hs hy

/-- What a default becomes is of the type, unless the default is a number that nothing looks at. -/
theorem fits_iff (h : Coerces tag given x) : Fits tag x ↔ ¬ Misses tag given := by
  cases h with
  | text ht | written ht =>
    refine iff_of_true (.text ht) fun hm => ?_
    simpa [ht] using hm.isNumeric
  | truth ht =>
    refine iff_of_true (.truth ht) fun hm => ?_
    simpa [ht] using hm.isNumeric
  | array ht =>
    refine iff_of_true (.array ht) fun hm => ?_
    simpa [ht] using hm.isNumeric
  | number ht hn =>
    obtain ⟨n, rfl⟩ | ⟨y, rfl⟩ := exists_scalar_of_isNumber hn
    · have hfits : Fits tag (.int n) := by
        rcases ht with ht | ht
        · exact .number ht rfl
        · exact .whole ht rfl
      exact iff_of_true hfits nofun
    · rcases ht with rfl | rfl
      · rw [fits_number_iff, misses_number_iff, Bool.not_eq_false]
      · rw [fits_integer_iff, misses_integer_iff, ← Option.ne_none_iff_exists']
  | numeral ht hs hx =>
    rw [misses_numeral_iff hs]
    rcases ht with rfl | rfl
    · simp [fits_number_iff, hx]
    · simp [fits_integer_iff, Option.ne_none_iff_exists']

/-! ## The call for a default -/

/-- The calls of the method that sets a default. -/
def settings (calls : List Call) : List Call :=
  calls.filter fun
    | .call method _ => method == "default"

theorem settings_of_callsOnly {methods : List String} {calls : List Call}
    (h : CallsOnly methods calls) (hm : "default" ∉ methods) : settings calls = [] := by
  rw [settings, List.filter_eq_nil_iff]
  intro call hc
  obtain ⟨method, args, rfl, hmethod, _⟩ := h call hc
  rw [beq_iff_eq]
  rintro rfl
  exact hm hmethod

theorem settings_presence (fields : Fields) (p : Presence) : settings (presence fields p) = [] := by
  rw [settings, List.filter_eq_nil_iff]
  intro call hc
  obtain ⟨method, hm, rfl⟩ := exists_of_mem_presence hc
  rw [beq_iff_eq]
  rintro rfl
  simp at hm

theorem defaultValue_eq_some_iff : defaultValue fields type = .ok (some x) ↔
    ∃ tag given, type = .text tag ∧ fields.get? "default" = some given ∧ Coerces tag given x := by
  unfold defaultValue
  cases fields.get? "default" with
  | none => simp
  | some given =>
    simp only [coerceDefault_eq_some_iff, Option.some.injEq]
    constructor
    · rintro ⟨tag, ht, h⟩
      exact ⟨tag, given, ht, rfl, h⟩
    · rintro ⟨tag, _, ht, rfl, h⟩
      exact ⟨tag, ht, h⟩

/-- The call for the default of a schema has what the default becomes, if it becomes anything. -/
theorem exists_of_defaultCalls {calls : List Call} (h : defaultCalls fields type = .ok calls) :
    ∃ found : Option Value,
      calls = (found.map fun x => Call.call "default" [ofValue x]).toList ∧
      ∀ x, found = some x ↔ ∃ tag given, type = .text tag ∧
        fields.get? "default" = some given ∧ Coerces tag given x := by
  unfold defaultCalls at h
  split at h
  · next hn =>
    cases h
    have hnone : fields.get? "default" = none := by simpa [Fields.has] using hn
    exact ⟨none, rfl, by simp [hnone]⟩
  · obtain ⟨found, hf, h⟩ := exists_of_bind_eq_ok h
    refine ⟨found, ?_, fun x => ?_⟩
    · split at h
      · obtain ⟨call, hcall, h⟩ := exists_of_bind_eq_ok h
        cases h
        rw [eq_of_callWith hcall]
        rfl
      · cases h
        rfl
    · rw [← defaultValue_eq_some_iff, hf, Except.ok.injEq]

/-- A schema sets its default at most once, to what the default becomes in a schema of its type. That
    is a value of the type, unless the default is a number that is not finite or, for an integer, not
    whole. Null becomes a value only where a text or a boolean is wanted. -/
theorem settings_of_calls {p : Presence} {calls : List Call}
    (h : Validation.calls fields type p = .ok calls) : ∃ found : Option Value,
      settings calls = (found.map fun x => Call.call "default" [ofValue x]).toList ∧
      (∀ x, found = some x ↔ ∃ tag given, type = .text tag ∧
        fields.get? "default" = some given ∧ Coerces tag given x) ∧
      (∀ tag given x, type = .text tag → fields.get? "default" = some given → found = some x →
        (Fits tag x ↔ ¬ Misses tag given)) ∧
      (fields.get? "default" = some .null → ∀ x, found = some x ↔
        (type = .text "string" ∧ x = .text "null") ∨ (type = .text "boolean" ∧ x = .bool false)) := by
  obtain ⟨narrowed, default, rfl, hn, hd⟩ := exists_of_calls h
  obtain ⟨found, rfl, hfound⟩ := exists_of_defaultCalls hd
  refine ⟨found, ?_, hfound, ?_, ?_⟩
  · have hnarrowed : settings narrowed = [] :=
      settings_of_callsOnly (callsOnly_constraints hn) (by simp [narrowing])
    have hpresence := settings_presence fields p
    unfold settings at hnarrowed hpresence ⊢
    rw [List.filter_append, List.filter_append, hnarrowed, hpresence]
    cases found <;> rfl
  · rintro tag given x rfl hg hx
    obtain ⟨_, _, ht, hgiven, hcoerces⟩ := (hfound x).1 hx
    cases ht
    cases hg.symm.trans hgiven
    exact fits_iff hcoerces
  · intro hnull x
    rw [hfound, hnull]
    constructor
    · rintro ⟨tag, given, rfl, hgiven, hcoerces⟩
      cases hgiven
      simpa using coerces_null_iff.1 hcoerces
    · rintro (⟨rfl, rfl⟩ | ⟨rfl, rfl⟩)
      · exact ⟨_, _, rfl, rfl, coerces_null_iff.2 (.inl ⟨rfl, rfl⟩)⟩
      · exact ⟨_, _, rfl, rfl, coerces_null_iff.2 (.inr ⟨rfl, rfl⟩)⟩

/-- A schema of a type with a default. -/
def defaulted (tag : String) (given : Value) : Fields :=
  [(.text "type", .text tag), (.text "default", given)]

theorem settings_of_calls_whole :
    Validation.calls (defaulted "integer" (.int 3)) (.text "integer") .unstated =
      .ok [.call "int" [], .call "default" [ofValue (.int 3)]] ∧
    ∃ found : Option Value,
      settings [.call "int" [], .call "default" [ofValue (.int 3)]] =
        (found.map fun x => Call.call "default" [ofValue x]).toList ∧
      (∀ x, found = some x ↔ ∃ tag given, Value.text "integer" = .text tag ∧
        (defaulted "integer" (.int 3)).get? "default" = some given ∧ Coerces tag given x) ∧
      (∀ tag given x, Value.text "integer" = .text tag →
        (defaulted "integer" (.int 3)).get? "default" = some given → found = some x →
        (Fits tag x ↔ ¬ Misses tag given)) ∧
      ((defaulted "integer" (.int 3)).get? "default" = some .null → ∀ x, found = some x ↔
        (Value.text "integer" = .text "string" ∧ x = .text "null") ∨
        (Value.text "integer" = .text "boolean" ∧ x = .bool false)) := by
  have h : Validation.calls (defaulted "integer" (.int 3)) (.text "integer") .unstated =
      .ok [.call "int" [], .call "default" [ofValue (.int 3)]] := rfl
  exact ⟨h, settings_of_calls h⟩

/-- One and a half. -/
def oneAndHalf : Double := .finite false 6755399441055744 (-52) (by decide)

/-- A default can be a broken number where the number has to be whole, or an infinite one, and null
    can be taken for a text or a boolean. -/
theorem exists_unfit_defaults :
    (Validation.calls (defaulted "integer" (.double oneAndHalf)) (.text "integer") .unstated =
        .ok [.call "int" [], .call "default" [ofValue (.double oneAndHalf)]] ∧
      ¬ Fits "integer" (.double oneAndHalf)) ∧
    (Validation.calls (defaulted "number" (.double (.infinite false))) (.text "number") .unstated =
        .ok [.call "default" [ofValue (.double (.infinite false))]] ∧
      ¬ Fits "number" (.double (.infinite false))) ∧
    Validation.calls (defaulted "string" .null) (.text "string") .unstated =
      .ok [.call "default" [ofValue (.text "null")]] ∧
    Validation.calls (defaulted "boolean" .null) (.text "boolean") .unstated =
      .ok [.call "default" [ofValue (.bool false)]] := by
  have hbroken : oneAndHalf.toInt? = none := rfl
  refine ⟨⟨rfl, ?_⟩, ⟨rfl, ?_⟩, rfl, rfl⟩
  · simp [fits_integer_iff, hbroken]
  · simp [fits_number_iff, Double.isFinite]

end RestContract.Validation
