import Mathlib.Data.Rat.Cast.Order
import Mathlib.Order.WithBot
import RestContract.Proofs.EmittedCalls
import RestContract.Proofs.Validity

/-!
# Bounds that a schema declares

What the keywords of a schema ask of how large a value is: of the length of a text, of a number and
of the number of items of a list. And that the calls for a schema ask the same, with two exceptions.
A greatest length of 0 is taken for none. And a number that excludes itself counts as a bound only
where there is no other bound on its side.
-/

namespace RestContract

/-! ## Bounds -/

/-- What can be a bound: a number, or one of the infinities. -/
abbrev Bound := WithBot (WithTop Rat)

def Double.bound? (x : Double) : Option Bound :=
  match x with
  | .nan _ => none
  | .infinite negative => some (if negative then ⊥ else ⊤)
  | .finite .. => x.exact?.map fun q => (q : WithTop Rat)

def Literal.bound? : Literal → Option Bound
  | .int n => some ((n : Rat) : WithTop Rat)
  | .double x => x.bound?
  | _ => none

def Value.bound? : Value → Option Bound
  | .int n => some ((n : Rat) : WithTop Rat)
  | .double x => x.bound?
  | _ => none

/-- Whether a number is there and stands on the right side of a bound. What is no number is no
    bound. -/
def Within (relation : Bound → Bound → Prop) (bound : Option Bound) (x : Option Rat) : Prop :=
  ∃ q ∈ x, ∀ b ∈ bound, relation b (q : WithTop Rat)

/-- Whether a number is there and is some whole number of steps. -/
def Stepwise (step : Option Rat) (x : Option Rat) : Prop :=
  ∃ q ∈ x, ∃ d ∈ step, ∃ n : Int, q = n * d

/-- The methods that ask something of how large a value is. -/
def sizing : List String := ["min", "max", "gte", "gt", "lte", "lt", "multipleOf", "int"]

/-- What a call asks of how large a value is. -/
def Call.Admits (length : String → Nat) : Call → Datum → Prop
  | .call "min" [.literal l], v => Within (· ≤ ·) l.bound? (v.extent? length)
  | .call "max" [.literal l], v => Within (· ≥ ·) l.bound? (v.extent? length)
  | .call "gte" [.literal l], v => Within (· ≤ ·) l.bound? v.number?
  | .call "gt" [.literal l], v => Within (· < ·) l.bound? v.number?
  | .call "lte" [.literal l], v => Within (· ≥ ·) l.bound? v.number?
  | .call "lt" [.literal l], v => Within (· > ·) l.bound? v.number?
  | .call "multipleOf" [.literal l], v => Stepwise l.exact? v.number?
  | .call "int" [], v => ∃ n : Int, v = .number n
  | .call method _, _ => method ∉ sizing

namespace Schema

open Validation

/-- What a bound and the value beside it that may exclude it ask of a number. That value is either a
    flag, which makes the bound a strict one, or a strict bound of its own. -/
structure OnSide (inclusive strict : Bound → Bound → Prop) (bound exclusive : Option Value)
    (x : Option Rat) : Prop where
  bound : ∀ value ∈ bound,
    Within (if exclusive.any excludes then strict else inclusive) value.bound? x
  exclusive : ∀ value ∈ exclusive, isNumber value = true → Within strict value.bound? x

/-- What keywords ask of how large a value is. -/
structure Obeys (length : String → Nat) (read : String → Option Value) (v : Datum) : Prop where
  minLength : ∀ s, v = .text s → ∀ value ∈ read "minLength",
    Within (· ≤ ·) value.bound? (v.extent? length)
  maxLength : ∀ s, v = .text s → ∀ value ∈ read "maxLength",
    Within (· ≥ ·) value.bound? (v.extent? length)
  lower : ∀ q, v = .number q →
    OnSide (· ≤ ·) (· < ·) (read "minimum") (read "exclusiveMinimum") v.number?
  upper : ∀ q, v = .number q →
    OnSide (· ≥ ·) (· > ·) (read "maximum") (read "exclusiveMaximum") v.number?
  multipleOf : ∀ q, v = .number q → ∀ value ∈ read "multipleOf", Stepwise value.exact? v.number?
  minItems : ∀ items, v = .list items → ∀ value ∈ read "minItems",
    Within (· ≤ ·) value.bound? (v.extent? length)
  maxItems : ∀ items, v = .list items → ∀ value ∈ read "maxItems",
    Within (· ≥ ·) value.bound? (v.extent? length)

/-- Keywords that are what they should be, without an enumeration. -/
structure Bounding (fields : Fields) : Prop where
  enum : fields.has "enum" = false
  counts : ∀ keyword ∈ ["minLength", "maxLength", "minItems", "maxItems"],
    Keyword fields keyword fun value => ∃ n : Nat, value = .int n
  numbers : ∀ keyword ∈ ["minimum", "maximum", "multipleOf"],
    Keyword fields keyword fun value => isNumber value = true
  exclusives : ∀ keyword ∈ ["exclusiveMinimum", "exclusiveMaximum"],
    Keyword fields keyword fun value => (∃ b, value = .bool b) ∨ isNumber value = true

/-- A pattern that is a text, if it is not taken for none, and a format that can be looked up. -/
structure Worded (fields : Fields) : Prop where
  pattern : (fields.get "pattern").isVacant = true ∨ ∃ s, fields.get "pattern" = .text s
  format : ∃ s, fields.get "format" = .scalar s

/-- Keywords that are passed over: a greatest length of 0, and a bound that excludes itself beside
    another bound on its side. -/
def isPassedOver (fields : Fields) (keyword : String) (value : Value) : Bool :=
  match keyword with
  | "maxLength" => value.isVacant
  | "exclusiveMinimum" => isNumber value && fields.has "minimum"
  | "exclusiveMaximum" => isNumber value && fields.has "maximum"
  | _ => false

/-- The keywords of a schema that are not passed over. -/
def inForce (fields : Fields) (keyword : String) : Option Value :=
  (fields.get? keyword).filter fun value => !isPassedOver fields keyword value

section

variable {length : String → Nat} {read : String → Option Value} {fields : Fields} {v : Datum}

theorem obeys_text_iff {s : String} : Obeys length read (.text s) ↔
    (∀ value ∈ read "minLength", Within (· ≤ ·) value.bound? ((Datum.text s).extent? length)) ∧
      ∀ value ∈ read "maxLength", Within (· ≥ ·) value.bound? ((Datum.text s).extent? length) := by
  refine ⟨fun h => ⟨h.minLength s rfl, h.maxLength s rfl⟩, fun ⟨hlo, hup⟩ => ?_⟩
  exact ⟨fun _ _ => hlo, fun _ _ => hup, nofun, nofun, nofun, nofun, nofun⟩

theorem obeys_number_iff {q : Rat} : Obeys length read (.number q) ↔
    OnSide (· ≤ ·) (· < ·) (read "minimum") (read "exclusiveMinimum") (some q) ∧
      OnSide (· ≥ ·) (· > ·) (read "maximum") (read "exclusiveMaximum") (some q) ∧
        ∀ value ∈ read "multipleOf", Stepwise value.exact? (some q) := by
  refine ⟨fun h => ⟨h.lower q rfl, h.upper q rfl, h.multipleOf q rfl⟩, fun ⟨hlo, hup, hs⟩ => ?_⟩
  exact ⟨nofun, nofun, fun _ _ => hlo, fun _ _ => hup, fun _ _ => hs, nofun, nofun⟩

theorem obeys_list_iff {items : List Datum} : Obeys length read (.list items) ↔
    (∀ value ∈ read "minItems", Within (· ≤ ·) value.bound? ((Datum.list items).extent? length)) ∧
      ∀ value ∈ read "maxItems",
        Within (· ≥ ·) value.bound? ((Datum.list items).extent? length) := by
  refine ⟨fun h => ⟨h.minItems items rfl, h.maxItems items rfl⟩, fun ⟨hlo, hup⟩ => ?_⟩
  exact ⟨nofun, nofun, nofun, nofun, nofun, fun _ _ => hlo, fun _ _ => hup⟩

theorem mem_inForce_iff {keyword : String} {value : Value} : value ∈ inForce fields keyword ↔
    value ∈ fields.get? keyword ∧ isPassedOver fields keyword value = false := by
  simp [inForce, Option.filter_eq_some_iff]

/-- Only three keywords can be passed over. -/
theorem inForce_eq_get? {keyword : String}
    (h : keyword ∉ ["maxLength", "exclusiveMinimum", "exclusiveMaximum"]) :
    inForce fields keyword = fields.get? keyword := by
  simp only [List.mem_cons, List.not_mem_nil, or_false, not_or] at h
  refine Option.ext fun value => ?_
  have hnot : isPassedOver fields keyword value = false := by
    unfold isPassedOver
    split <;> simp_all
  rw [← Option.mem_def, mem_inForce_iff, hnot]
  simp

end

end Schema

/-! ## Calls -/

namespace Validation

open Expr Schema

section

variable {fields : Fields} {keyword flag method inclusiveMethod strictMethod : String}
  {calls : List Call} {P : Call → Prop} {length : String → Nat} {v : Datum}

theorem exists_literal_of_isNumber {value : Value} (h : isNumber value = true) :
    ∃ l, ofValue value = .literal l ∧ l.bound? = value.bound? ∧ l.exact? = value.exact? := by
  rcases exists_scalar_of_isNumber h with ⟨n, rfl⟩ | ⟨x, rfl⟩
  · exact ⟨.int n, rfl, rfl, rfl⟩
  · exact ⟨.double x, rfl, rfl, rfl⟩

theorem not_isNull_of_isNumber {value : Value} (h : isNumber value = true) :
    value.isNull = false := by
  rcases exists_scalar_of_isNumber h with ⟨n, rfl⟩ | ⟨x, rfl⟩ <;> rfl

theorem forall_unlessVacant_iff (h : unlessVacant fields keyword method = .ok calls) :
    (∀ call ∈ calls, P call) ↔
      ∀ value ∈ fields.get? keyword, value.isVacant = false → P (.call method [ofValue value]) := by
  simp only [mem_unlessVacant_iff h]
  cases hg : fields.get? keyword with
  | none => simp [Fields.get, hg, Value.isVacant]
  | some value => simp [Fields.get, hg]

theorem forall_unlessNull_iff (h : unlessNull fields keyword method = .ok calls)
    (hk : Keyword fields keyword fun value => isNumber value = true) :
    (∀ call ∈ calls, P call) ↔ ∀ value ∈ fields.get? keyword, P (.call method [ofValue value]) := by
  simp only [mem_unlessNull_iff h]
  cases hg : fields.get? keyword with
  | none => simp [Fields.get, hg, Value.isNull]
  | some value => simp [Fields.get, hg, not_isNull_of_isNumber (hk value hg)]

theorem forall_boundCalls_iff
    (h : boundCalls (fields.get keyword) (fields.get flag) inclusiveMethod strictMethod = .ok calls)
    (hk : Keyword fields keyword fun value => isNumber value = true) :
    (∀ call ∈ calls, P call) ↔
      (∀ value ∈ fields.get? keyword,
        P (.call (if (fields.get? flag).any excludes then strictMethod else inclusiveMethod)
          [ofValue value])) ∧
      (fields.has keyword = false → ∀ value ∈ fields.get? flag, isNumber value = true →
        P (.call strictMethod [ofValue value])) := by
  have hflag : excludes (fields.get flag) = (fields.get? flag).any excludes := by
    unfold Fields.get
    cases fields.get? flag <;> rfl
  simp only [mem_boundCalls_iff h, hflag]
  cases hg : fields.get? keyword with
  | none =>
    cases hf : fields.get? flag with
    | none => simp [Fields.get, Fields.has, hg, hf, Value.isNull, isNumber]
    | some exclusive => simp [Fields.get, Fields.has, hg, hf, Value.isNull]
  | some value => simp [Fields.get, Fields.has, hg, not_isNull_of_isNumber (hk value hg)]

theorem excludes_of_isNumber {value : Value} (h : isNumber value = true) : excludes value = false := by
  rcases exists_scalar_of_isNumber h with ⟨n, rfl⟩ | ⟨x, rfl⟩ <;> rfl

/-- A number beside a bound does not exclude the bound, so it can be left out. -/
theorem any_excludes_filter (beside : Option Value) (present : Bool) :
    (beside.filter fun value => !(isNumber value && present)).any excludes = beside.any excludes := by
  cases beside with
  | none => rfl
  | some value =>
    cases hn : isNumber value with
    | false => simp [Option.filter, hn]
    | true => cases present <;> simp [Option.filter, hn, excludes_of_isNumber hn]

theorem mem_filter_number_iff {beside : Option Value} {present : Bool} {value : Value}
    (hn : isNumber value = true) :
    value ∈ beside.filter (fun value => !(isNumber value && present)) ↔
      value ∈ beside ∧ present = false := by
  simp [Option.filter_eq_some_iff, hn]

/-- The calls on one side ask for what the bound and the value beside it ask, if that value counts
    only where there is no bound. -/
theorem onSide_iff {inclusive strict : Bound → Bound → Prop}
    (h : boundCalls (fields.get keyword) (fields.get flag) inclusiveMethod strictMethod = .ok calls)
    (hk : Keyword fields keyword fun value => isNumber value = true)
    (hinclusive : ∀ value, isNumber value = true →
      ((Call.call inclusiveMethod [ofValue value]).Admits length v ↔
        Within inclusive value.bound? v.number?))
    (hstrict : ∀ value, isNumber value = true →
      ((Call.call strictMethod [ofValue value]).Admits length v ↔
        Within strict value.bound? v.number?)) :
    (∀ call ∈ calls, call.Admits length v) ↔
      OnSide inclusive strict (fields.get? keyword)
        ((fields.get? flag).filter fun value => !(isNumber value && fields.has keyword))
        v.number? := by
  have hbound : ∀ value, isNumber value = true →
      ((Call.call (if (fields.get? flag).any excludes then strictMethod else inclusiveMethod)
          [ofValue value]).Admits length v ↔
        Within (if (fields.get? flag).any excludes then strict else inclusive) value.bound?
          v.number?) := by
    intro value hn
    split
    · exact hstrict value hn
    · exact hinclusive value hn
  rw [forall_boundCalls_iff h hk]
  constructor
  · rintro ⟨hb, he⟩
    constructor
    · intro value hv
      rw [any_excludes_filter]
      exact (hbound value (hk value hv)).1 (hb value hv)
    · intro value hv hn
      obtain ⟨hv, hnone⟩ := (mem_filter_number_iff hn).1 hv
      exact (hstrict value hn).1 (he hnone value hv hn)
  · rintro ⟨hb, he⟩
    rw [any_excludes_filter] at hb
    constructor
    · exact fun value hv => (hbound value (hk value hv)).2 (hb value hv)
    · intro hnone value hv hn
      exact (hstrict value hn).2 (he value ((mem_filter_number_iff hn).2 ⟨hv, hnone⟩) hn)

/-! ### The calls of each type -/

theorem isNumber_of_count (h : Keyword fields keyword fun value => ∃ n : Nat, value = .int n) :
    Keyword fields keyword fun value => isNumber value = true := by
  intro value hv
  obtain ⟨n, rfl⟩ := h value hv
  rfl

theorem admits_iff_within {relation : Bound → Bound → Prop} {x : Option Rat} {value : Value}
    (hm : ∀ l, (Call.call method [.literal l]).Admits length v ↔ Within relation l.bound? x)
    (hn : isNumber value = true) :
    (Call.call method [ofValue value]).Admits length v ↔ Within relation value.bound? x := by
  obtain ⟨l, hl, hb, -⟩ := exists_literal_of_isNumber hn
  rw [hl, hm, hb]

/-- A text is not shorter than a least length of 0. -/
theorem within_of_isVacant {n size : Nat} (h : (Value.int n).isVacant = true) :
    Within (· ≤ ·) (Value.int n).bound? (some (size : Rat)) := by
  have hn : n = 0 := by simpa [Value.isVacant] using h
  subst hn
  refine ⟨size, rfl, fun b hb => ?_⟩
  cases hb
  simp

theorem admits_of_patternCalls (h : patternCalls fields = .ok calls) :
    ∀ call ∈ calls, call.Admits length v := by
  intro call hc
  obtain ⟨source, rfl⟩ := exists_of_mem_patternCalls h hc
  simp [Call.Admits, sizing]

theorem admits_of_formatCalls (h : formatCalls fields = .ok calls) :
    ∀ call ∈ calls, call.Admits length v := by
  intro call hc
  obtain ⟨name, hformat⟩ := exists_of_mem_formatCalls h hc
  unfold formatCall? at hformat
  split at hformat <;> cases hformat <;> simp [Call.Admits, sizing]

theorem textCalls_iff (hb : Bounding fields) (h : textCalls fields = .ok calls) {s : String} :
    (∀ call ∈ calls, call.Admits length (.text s)) ↔ Obeys length (inForce fields) (.text s) := by
  obtain ⟨lengths, pattern, format, rfl, hp, hf, ⟨he, -⟩ | ⟨-, lower, upper, rfl, hlo, hup⟩⟩ :=
    exists_of_textCalls h
  · cases hb.enum.symm.trans he
  rw [List.forall_mem_append, and_iff_left (admits_of_formatCalls hf), List.forall_mem_append,
    and_iff_left (admits_of_patternCalls hp), List.forall_mem_append, obeys_text_iff,
    forall_unlessVacant_iff hlo, forall_unlessVacant_iff hup, inForce_eq_get? (by simp)]
  refine and_congr (forall₂_congr fun value hv => ?_) (forall_congr' fun value => ?_)
  · have hcount := hb.counts "minLength" (by simp) value hv
    have hn := isNumber_of_count (hb.counts "minLength" (by simp)) value hv
    rw [admits_iff_within (fun _ => Iff.rfl) hn]
    refine ⟨fun hw => ?_, fun hw _ => hw⟩
    obtain ⟨n, rfl⟩ := hcount
    cases hvacant : (Value.int n).isVacant with
    | true => exact within_of_isVacant hvacant
    | false => exact hw hvacant
  · rw [mem_inForce_iff, and_imp]
    refine forall₂_congr fun hv _ => ?_
    exact admits_iff_within (fun _ => Iff.rfl)
      (isNumber_of_count (hb.counts "maxLength" (by simp)) value hv)

theorem numberCalls_iff {integer : Bool} (hb : Bounding fields)
    (h : numberCalls fields integer = .ok calls) {q : Rat} :
    (∀ call ∈ calls, call.Admits length (.number q)) ↔
      (integer = true → ∃ n : Int, q = n) ∧ Obeys length (inForce fields) (.number q) := by
  rcases exists_of_numberCalls h with ⟨he, -⟩ | ⟨-, lower, upper, step, rfl, hlo, hup, hs⟩
  · cases hb.enum.symm.trans he
  have hwhole : (∀ call ∈ (if integer then [Call.call "int" []] else []),
      call.Admits length (.number q)) ↔ (integer = true → ∃ n : Int, q = n) := by
    cases integer <;> simp [Call.Admits]
  have hwithin : ∀ {relation : Bound → Bound → Prop} {method : String},
      (∀ l, (Call.call method [.literal l]).Admits length (.number q) ↔
        Within relation l.bound? (some q)) →
      ∀ value, isNumber value = true → ((Call.call method [ofValue value]).Admits length (.number q) ↔
        Within relation value.bound? (some q)) :=
    fun hm value hn => admits_iff_within hm hn
  have hlower := onSide_iff hlo (hb.numbers "minimum" (by simp))
    (hwithin fun _ => Iff.rfl) (hwithin fun _ => Iff.rfl)
  have hupper := onSide_iff hup (hb.numbers "maximum" (by simp))
    (hwithin fun _ => Iff.rfl) (hwithin fun _ => Iff.rfl)
  have hstep : (∀ call ∈ step, call.Admits length (.number q)) ↔
      ∀ value ∈ inForce fields "multipleOf", Stepwise value.exact? (some q) := by
    rw [forall_unlessNull_iff hs (hb.numbers "multipleOf" (by simp)), inForce_eq_get? (by simp)]
    refine forall₂_congr fun value hv => ?_
    obtain ⟨l, hl, -, he⟩ := exists_literal_of_isNumber (hb.numbers "multipleOf" (by simp) value hv)
    rw [hl, ← he]
    exact Iff.rfl
  have hminimum : inForce fields "minimum" = fields.get? "minimum" := inForce_eq_get? (by simp)
  have hmaximum : inForce fields "maximum" = fields.get? "maximum" := inForce_eq_get? (by simp)
  rw [List.forall_mem_append, List.forall_mem_append, List.forall_mem_append, hwhole, hlower,
    hupper, hstep, obeys_number_iff, hminimum, hmaximum, and_assoc, and_assoc]
  exact Iff.rfl

theorem arrayCalls_iff (hb : Bounding fields) (h : arrayCalls fields = .ok calls)
    {items : List Datum} :
    (∀ call ∈ calls, call.Admits length (.list items)) ↔
      Obeys length (inForce fields) (.list items) := by
  obtain ⟨lower, upper, rfl, hlo, hup⟩ := exists_of_arrayCalls h
  have hmin := isNumber_of_count (hb.counts "minItems" (by simp))
  have hmax := isNumber_of_count (hb.counts "maxItems" (by simp))
  rw [List.forall_mem_append, obeys_list_iff, forall_unlessNull_iff hlo hmin,
    forall_unlessNull_iff hup hmax, inForce_eq_get? (by simp), inForce_eq_get? (by simp)]
  refine and_congr (forall₂_congr fun value hv => ?_) (forall₂_congr fun value hv => ?_)
  · exact admits_iff_within (fun _ => Iff.rfl) (hmin value hv)
  · exact admits_iff_within (fun _ => Iff.rfl) (hmax value hv)

/-! ### Schemas that have calls -/

theorem exists_scalar_of_number (hk : Keyword fields keyword fun value => isNumber value = true) :
    ∃ s, fields.get keyword = .scalar s := by
  unfold Fields.get
  cases hg : fields.get? keyword with
  | none => exact ⟨.null, rfl⟩
  | some value =>
    rcases exists_scalar_of_isNumber (hk value hg) with ⟨n, rfl⟩ | ⟨x, rfl⟩ <;> exact ⟨_, rfl⟩

theorem exists_unlessVacant (hk : Keyword fields keyword fun value => isNumber value = true) :
    ∃ calls, unlessVacant fields keyword method = .ok calls := by
  obtain ⟨s, hs⟩ := exists_scalar_of_number hk
  unfold unlessVacant
  rw [hs]
  dsimp only
  split <;> exact ⟨_, rfl⟩

theorem exists_unlessNull (hk : Keyword fields keyword fun value => isNumber value = true) :
    ∃ calls, unlessNull fields keyword method = .ok calls := by
  obtain ⟨s, hs⟩ := exists_scalar_of_number hk
  unfold unlessNull
  rw [hs]
  dsimp only
  split <;> exact ⟨_, rfl⟩

theorem exists_boundCalls (hk : Keyword fields keyword fun value => isNumber value = true)
    {exclusive : Value} :
    ∃ calls, boundCalls (fields.get keyword) exclusive inclusiveMethod strictMethod = .ok calls := by
  obtain ⟨s, hs⟩ := exists_scalar_of_number hk
  unfold boundCalls
  rw [hs]
  split
  · exact ⟨_, rfl⟩
  split
  · next hn => rcases exists_scalar_of_isNumber hn with ⟨n, rfl⟩ | ⟨x, rfl⟩ <;> exact ⟨_, rfl⟩
  · exact ⟨_, rfl⟩

theorem exists_patternCalls_iff : (∃ calls, patternCalls fields = .ok calls) ↔
    (fields.get "pattern").isVacant = true ∨ ∃ s, fields.get "pattern" = .text s := by
  unfold patternCalls
  dsimp only
  split
  · next hv => exact iff_of_true ⟨_, rfl⟩ (.inl hv)
  · next hv =>
    constructor
    · rintro ⟨calls, h⟩
      obtain ⟨s, hs, -⟩ := exists_of_bind_eq_ok h
      unfold patternText at hs
      split at hs <;> cases hs
      exact .inr ⟨s, ‹_›⟩
    · rintro (h | ⟨s, hs⟩)
      · exact absurd h hv
      · rw [hs]
        exact ⟨_, rfl⟩

theorem exists_formatCalls_iff : (∃ calls, formatCalls fields = .ok calls) ↔
    ∃ s, fields.get "format" = .scalar s := by
  constructor
  · rintro ⟨calls, h⟩
    obtain ⟨key, hk, -⟩ := exists_of_bind_eq_ok h
    unfold Value.asKey at hk
    split at hk <;> cases hk
    exact ⟨_, ‹_›⟩
  · rintro ⟨s, hs⟩
    unfold formatCalls
    rw [hs]
    cases s <;> exact ⟨_, rfl⟩

theorem exists_textCalls_iff (hb : Bounding fields) :
    (∃ calls, textCalls fields = .ok calls) ↔ Worded fields := by
  constructor
  · rintro ⟨calls, h⟩
    obtain ⟨_, pattern, format, _, hp, hf, _⟩ := exists_of_textCalls h
    exact ⟨exists_patternCalls_iff.1 ⟨pattern, hp⟩, exists_formatCalls_iff.1 ⟨format, hf⟩⟩
  · rintro ⟨hp, hf⟩
    obtain ⟨pattern, hp⟩ := exists_patternCalls_iff.2 hp
    obtain ⟨format, hf⟩ := exists_formatCalls_iff.2 hf
    obtain ⟨lower, hlo⟩ : ∃ calls, unlessVacant fields "minLength" "min" = .ok calls :=
      exists_unlessVacant (isNumber_of_count (hb.counts "minLength" (by simp)))
    obtain ⟨upper, hup⟩ : ∃ calls, unlessVacant fields "maxLength" "max" = .ok calls :=
      exists_unlessVacant (isNumber_of_count (hb.counts "maxLength" (by simp)))
    simp only [textCalls, hb.enum, hp, hf, hlo, hup]
    exact ⟨_, rfl⟩

theorem exists_numberCalls (hb : Bounding fields) {integer : Bool} :
    ∃ calls, numberCalls fields integer = .ok calls := by
  obtain ⟨lower, hlo⟩ : ∃ calls, boundCalls (fields.get "minimum") (fields.get "exclusiveMinimum")
      "gte" "gt" = .ok calls := exists_boundCalls (hb.numbers "minimum" (by simp))
  obtain ⟨upper, hup⟩ : ∃ calls, boundCalls (fields.get "maximum") (fields.get "exclusiveMaximum")
      "lte" "lt" = .ok calls := exists_boundCalls (hb.numbers "maximum" (by simp))
  obtain ⟨step, hs⟩ : ∃ calls, unlessNull fields "multipleOf" "multipleOf" = .ok calls :=
    exists_unlessNull (hb.numbers "multipleOf" (by simp))
  simp only [numberCalls, hb.enum, hlo, hup, hs]
  exact ⟨_, rfl⟩

theorem exists_arrayCalls (hb : Bounding fields) : ∃ calls, arrayCalls fields = .ok calls := by
  obtain ⟨lower, hlo⟩ : ∃ calls, unlessNull fields "minItems" "min" = .ok calls :=
    exists_unlessNull (isNumber_of_count (hb.counts "minItems" (by simp)))
  obtain ⟨upper, hup⟩ : ∃ calls, unlessNull fields "maxItems" "max" = .ok calls :=
    exists_unlessNull (isNumber_of_count (hb.counts "maxItems" (by simp)))
  simp only [arrayCalls, hlo, hup]
  exact ⟨_, rfl⟩

/-- The types whose values can be large or small. -/
def sizedTags : List String := ["string", "number", "integer", "array"]

end

end Validation

namespace Schema

open Validation

theorem hasType_integer_iff {q : Rat} :
    HasType (.text "integer") (.number q) ↔ ∃ n : Int, q = n := by
  simp [hasType_tag_iff]

/-- The calls for a schema ask of the values of its type, and for whole numbers of any number, what
    the keywords ask that are not passed over. There are calls unless the pattern or the format of a
    text is of another kind. -/
theorem admitted_iff_obeys {length : String → Nat} {fields : Fields} {tag : String}
    (ht : tag ∈ sizedTags) (hb : Bounding fields) :
    ((∃ calls, constraints fields (.text tag) = .ok calls) ↔ (tag = "string" → Worded fields)) ∧
      ∀ calls, constraints fields (.text tag) = .ok calls → ∀ v,
        HasType (.text tag) v ∨ tag = "integer" ∧ HasType (.text "number") v →
          ((∀ call ∈ calls, call.Admits length v) ↔
            HasType (.text tag) v ∧ Obeys length (inForce fields) v) := by
  simp only [sizedTags, List.mem_cons, List.not_mem_nil, or_false] at ht
  rcases ht with rfl | rfl | rfl | rfl
  · refine ⟨(exists_textCalls_iff hb).trans ⟨fun h _ => h, fun h => h rfl⟩, fun calls h v hv => ?_⟩
    obtain ⟨s, rfl⟩ : ∃ s, v = .text s := by
      simpa [hasType_tag_iff] using hv.resolve_right (by simp)
    exact (textCalls_iff hb h).trans (and_iff_right (.text s)).symm
  · refine ⟨iff_of_true (exists_numberCalls hb) (by simp), fun calls h v hv => ?_⟩
    obtain ⟨q, rfl⟩ : ∃ q, v = .number q := by
      simpa [hasType_tag_iff] using hv.resolve_right (by simp)
    rw [numberCalls_iff hb h]
    simp [HasType.number q]
  · refine ⟨iff_of_true (exists_numberCalls hb) (by simp), fun calls h v hv => ?_⟩
    obtain ⟨q, rfl⟩ : ∃ q, v = .number q := by
      rcases hv with hv | ⟨-, hv⟩
      · obtain ⟨n, rfl⟩ : ∃ n : Int, v = .number n := by simpa [hasType_tag_iff] using hv
        exact ⟨n, rfl⟩
      · simpa [hasType_tag_iff] using hv
    rw [numberCalls_iff hb h, hasType_integer_iff]
    simp
  · refine ⟨iff_of_true (exists_arrayCalls hb) (by simp), fun calls h v hv => ?_⟩
    obtain ⟨items, rfl⟩ : ∃ items, v = .list items := by
      simpa [hasType_tag_iff] using hv.resolve_right (by simp)
    exact (arrayCalls_iff hb h).trans (and_iff_right (.array items)).symm

theorem admitted_iff_obeys_integer :
    let fields : Fields := [(.text "minimum", .int 0), (.text "exclusiveMinimum", .bool true)]
    "integer" ∈ sizedTags ∧ Bounding fields ∧
      ∃ calls, constraints fields (.text "integer") = .ok calls ∧
        ((∀ call ∈ calls, call.Admits String.length (.number 3)) ↔
          HasType (.text "integer") (.number 3) ∧
            Obeys String.length (inForce fields) (.number 3)) := by
  intro fields
  have ht : "integer" ∈ sizedTags := by decide
  have hb : Bounding fields := by
    constructor <;> simp [fields, Keyword, Fields.has, Fields.get?, isNumber]
  obtain ⟨hexists, hiff⟩ := @admitted_iff_obeys String.length fields "integer" ht hb
  obtain ⟨calls, h⟩ := hexists.2 (by simp)
  exact ⟨ht, hb, calls, h, hiff calls h _ (.inr ⟨rfl, .number 3⟩)⟩

/-- A greatest length of 0 is lost, and so is a bound that excludes itself beside another one. -/
theorem bounds_lost :
    (∃ fields calls v, Bounding fields ∧ constraints fields (.text "string") = .ok calls ∧
      HasType (.text "string") v ∧ (∀ call ∈ calls, call.Admits String.length v) ∧
        ¬ Obeys String.length fields.get? v) ∧
    ∃ fields calls v, Bounding fields ∧ constraints fields (.text "number") = .ok calls ∧
      HasType (.text "number") v ∧ (∀ call ∈ calls, call.Admits String.length v) ∧
        ¬ Obeys String.length fields.get? v := by
  constructor
  · refine ⟨[(.text "maxLength", .int 0)], [], .text "a", ?_, rfl, .text "a", by simp, fun h => ?_⟩
    · constructor <;> simp [Keyword, Fields.has, Fields.get?]
      exact ⟨0, rfl⟩
    · obtain ⟨q, hq, hle⟩ := h.maxLength "a" rfl (.int 0) rfl
      cases hq
      have hle := WithTop.coe_le_coe.1 (WithBot.coe_le_coe.1 (hle _ rfl))
      revert hle
      decide
  · refine ⟨[(.text "minimum", .int 1), (.text "exclusiveMinimum", .int 2)],
      [.call "gte" [.literal (.int 1)]], .number 1, ?_, rfl, .number 1, ?_, fun h => ?_⟩
    · constructor <;> simp [Keyword, Fields.has, Fields.get?, isNumber]
    · intro call hc
      cases List.mem_singleton.1 hc
      refine ⟨1, rfl, fun b hb => ?_⟩
      cases hb
      exact WithBot.coe_le_coe.2 (WithTop.coe_le_coe.2 (by decide))
    · obtain ⟨q, hq, hlt⟩ := (h.lower 1 rfl).exclusive (.int 2) rfl rfl
      cases hq
      have hlt := WithTop.coe_lt_coe.1 (WithBot.coe_lt_coe.1 (hlt _ rfl))
      revert hlt
      decide

end Schema
end RestContract
