import RestContract.Proofs.ExactNumbers
import RestContract.Proofs.OrderableSchemas
import RestContract.Proofs.RecordedParts

/-!
# What values of JSON mean

A number means its value, whatever its form, and false and true mean zero and one. A list means its
items in order, and a map what stands under each name. Values count as the same just where they mean
the same, as long as every number is one. So this is an equivalence.
-/

namespace RestContract

/-- What a value of JSON means. -/
inductive Meaning where
  /-- No value of JSON. -/
  | unknown
  | null
  | number (q : Rat)
  | infinite (negative : Bool)
  | text (s : String)
  | list (items : List Meaning)
  | object (under : String → Option Meaning)

def Double.meaning : Double → Meaning
  | .nan _ => .unknown
  | .infinite negative => .infinite negative
  | .finite negative significand exponent _ => .number (dyadic negative significand exponent)

def Scalar.meaning : Scalar → Meaning
  | .null => .null
  | .bool b => .number (if b then 1 else 0)
  | .int n => .number n
  | .double x => x.meaning
  | .text s => .text s
  | .date _ | .moment _ | .bytes _ => .unknown

namespace Value

mutual
def meaning : Value → Meaning
  | .scalar s => s.meaning
  | .list items _ => .list (meanings items)
  | .map fields _ => .object (meaningUnder fields)
  | .pair .. | .set _ => .unknown

def meanings : List Value → List Meaning
  | [] => []
  | item :: rest => meaning item :: meanings rest

/-- What the value of the field with some name means. -/
def meaningUnder : List (Scalar × Value) → String → Option Meaning
  | [], _ => none
  | (key, value) :: rest, name =>
    if key = .text name then some (meaning value) else meaningUnder rest name
end

theorem meanings_eq_map (items : List Value) : meanings items = items.map meaning := by
  induction items with
  | nil => rfl
  | cons item rest ih => rw [meanings, ih, List.map_cons]

theorem meaningUnder_eq (fields : Fields) (name : String) :
    meaningUnder fields name = (fields.get? name).map meaning := by
  induction fields with
  | nil => rfl
  | cons field rest ih =>
    obtain ⟨key, value⟩ := field
    rw [meaningUnder, Fields.get?, ih]
    split <;> rfl

end Value

/-! ## Numbers and other scalars -/

/-- A scalar of JSON that is no failed number. -/
def Scalar.IsMeaningful (s : Scalar) : Prop := s.meaning ≠ .unknown

/-- A value of JSON without failed numbers. Its maps have texts as keys, each once. -/
inductive IsMeaningful : Value → Prop where
  | scalar {s : Scalar} (h : s.IsMeaningful) : IsMeaningful (.scalar s)
  | list {items : List Value} (h : ∀ item ∈ items, IsMeaningful item) :
    IsMeaningful (.ofItems items)
  | map {fields : Fields} (hk : fields.hasTextKeys = true) (hn : (fields.map Prod.fst).Nodup)
    (hv : ∀ field ∈ fields, IsMeaningful field.2) : IsMeaningful (.ofFields fields)

theorem Double.meaning_eq_number_iff {x : Double} {q : Rat} :
    x.meaning = .number q ↔ x.exact? = some q := by
  cases x with
  | nan | infinite => simp [meaning, Double.exact?, toFraction?]
  | finite negative m e h => simp [meaning, exact?_finite]

theorem Double.same_iff_meaning {x y : Double} (hx : x.meaning ≠ .unknown)
    (hy : y.meaning ≠ .unknown) : x.same y = true ↔ x.meaning = y.meaning := by
  cases x with
  | nan => exact absurd rfl hx
  | infinite negative =>
    cases y with
    | nan => exact absurd rfl hy
    | infinite | finite => simp [same, isZero, meaning]
  | finite negative m e hm =>
    cases y with
    | nan => exact absurd rfl hy
    | infinite => simp [same, isZero, meaning]
    | finite other n k hn =>
      rw [same_iff rfl rfl, exact?_finite, exact?_finite]
      simp [meaning]

namespace Scalar

variable {a b s : Scalar}

theorem whole?_eq_some_iff {n : Int} : s.whole? = some n ↔ s.meaning = .number n := by
  cases s with
  | bool b => cases b <;> simp [whole?, meaning, eq_comm]
  | int | null | text | date | moment | bytes => simp [whole?, meaning]
  | double x => rw [whole?, meaning, Double.meaning_eq_number_iff, Double.toInt?_eq_some_iff]

theorem whole?_eq_of_meaning_eq (h : a.meaning = b.meaning) : a.whole? = b.whole? := by
  apply Option.ext
  intro n
  rw [whole?_eq_some_iff, whole?_eq_some_iff, h]

/-- Scalars that are no numbers are told apart by what they mean. -/
theorem eq_of_meaning_eq (ha : a.whole? = none) (hb : b.whole? = none) (hm : a.IsMeaningful)
    (hd : ∀ x y, a = .double x → b = .double y → False) (h : a.meaning = b.meaning) : a = b := by
  cases a with
  | bool | int => cases ha
  | date | moment | bytes => exact absurd rfl hm
  | null | text =>
    cases b with
    | bool | int => cases hb
    | double y => cases y <;> cases h
    | null | text | date | moment | bytes => simp_all [meaning]
  | double x =>
    cases b with
    | bool | int => cases hb
    | double y => exact (hd x y rfl rfl).elim
    | null | text | date | moment | bytes =>
      cases x with
      | nan => exact absurd rfl hm
      | infinite | finite => cases h

theorem same_iff (ha : a.IsMeaningful) (hb : b.IsMeaningful) :
    a.same b = true ↔ a.meaning = b.meaning := by
  unfold same
  split
  · exact Double.same_iff_meaning ha hb
  · exact absurd rfl ha
  · next hd _ =>
    split
    · next m n hm hn =>
      rw [whole?_eq_some_iff] at hm hn
      simp [hm, hn]
    · next hm hn =>
      rw [beq_iff_eq]
      exact ⟨congrArg meaning, eq_of_meaning_eq hm hn ha hd⟩
    · next hsome hnone =>
      simp only [Bool.false_eq_true, false_iff]
      intro heq
      have hwhole := whole?_eq_of_meaning_eq heq
      cases hm : a.whole? with
      | none => exact hnone hm (hwhole ▸ hm)
      | some m => exact hsome m m hm (hwhole ▸ hm)

theorem meaning_ne_list (s : Scalar) (items : List Meaning) : s.meaning ≠ .list items := by
  cases s with
  | double x => cases x <;> simp [meaning, Double.meaning]
  | null | bool | int | text | date | moment | bytes => simp [meaning]

theorem meaning_ne_object (s : Scalar) (under : String → Option Meaning) :
    s.meaning ≠ .object under := by
  cases s with
  | double x => cases x <;> simp [meaning, Double.meaning]
  | null | bool | int | text | date | moment | bytes => simp [meaning]

end Scalar

/-! ## Lists and maps -/

namespace Fields

variable {fields others : Fields}

theorem mem_keys_iff (hk : fields.hasTextKeys = true) {key : Scalar} :
    key ∈ fields.map Prod.fst ↔ ∃ name, key = .text name ∧ fields.has name = true := by
  constructor
  · intro hm
    obtain ⟨field, hf, rfl⟩ := List.mem_map.1 hm
    obtain ⟨name, hname⟩ := exists_text_of_hasTextKeys hk hf
    exact ⟨name, hname, has_eq_true_iff.2 (hname ▸ hm)⟩
  · rintro ⟨name, rfl, hhas⟩
    exact has_eq_true_iff.1 hhas

/-- Maps with as many fields have the same names if no name of the one is missing in the other. -/
theorem has_iff_of_length_eq (hk : fields.hasTextKeys = true) (hn : (fields.map Prod.fst).Nodup)
    (ho : others.hasTextKeys = true) (hl : fields.length = others.length)
    (hs : ∀ name, fields.has name = true → others.has name = true) (name : String) :
    fields.has name = true ↔ others.has name = true := by
  have hsub : fields.map Prod.fst ⊆ others.map Prod.fst := by
    intro key hm
    obtain ⟨name, rfl, hhas⟩ := (mem_keys_iff hk).1 hm
    exact (mem_keys_iff ho).2 ⟨name, rfl, hs name hhas⟩
  have hperm := (List.subperm_of_subset hn hsub).perm_of_length_le (by simp [hl])
  rw [has_eq_true_iff, has_eq_true_iff, hperm.mem_iff]

theorem length_eq_of_has_iff (hk : fields.hasTextKeys = true) (hn : (fields.map Prod.fst).Nodup)
    (hok : others.hasTextKeys = true) (hon : (others.map Prod.fst).Nodup)
    (h : ∀ name, fields.has name = true ↔ others.has name = true) :
    fields.length = others.length := by
  have hperm : (fields.map Prod.fst).Perm (others.map Prod.fst) := by
    rw [List.perm_ext_iff_of_nodup hn hon]
    simp [mem_keys_iff hk, mem_keys_iff hok, h]
  simpa using hperm.length_eq

end Fields

namespace Value

variable {fields others : Fields} {items given : List Value}

theorem sameItems_iff (h : ∀ a ∈ items, ∀ b, IsMeaningful b →
      (a.same b = true ↔ a.meaning = b.meaning)) (hg : ∀ b ∈ given, IsMeaningful b) :
    sameItems items given = true ↔ items.map meaning = given.map meaning := by
  induction items generalizing given with
  | nil => cases given <;> simp [sameItems]
  | cons a as ih =>
    cases given with
    | nil => simp [sameItems]
    | cons b bs =>
      rw [List.forall_mem_cons] at h hg
      simp [sameItems, h.1 b hg.1, ih h.2 hg.2]

theorem sameFields_iff (hk : fields.hasTextKeys = true) (hn : (fields.map Prod.fst).Nodup) :
    sameFields fields others = true ↔ ∀ name value, fields.get? name = some value →
      ∃ other, others.get? name = some other ∧ value.same other = true := by
  have hall : sameFields fields others = true ↔ ∀ field ∈ fields, ∃ other,
      others.find? field.1 = some other ∧ field.2.same other = true := by
    -- Members are looked up by their keys, whatever the keys are.
    clear hk hn
    induction fields with
    | nil => simp [sameFields]
    | cons field rest ih =>
      obtain ⟨key, value⟩ := field
      rw [sameFields, Bool.and_eq_true, ih, List.forall_mem_cons]
      cases others.find? key <;> simp
  rw [hall]
  constructor
  · intro h name value hg
    rw [← Fields.find?_text]
    exact h _ (Fields.mem_of_get? hg)
  · intro h field hm
    obtain ⟨name, hname⟩ := exists_text_of_hasTextKeys hk hm
    obtain ⟨key, value⟩ := field
    dsimp only at hname ⊢
    subst hname
    rw [Fields.find?_text]
    exact h name value ((Fields.get?_eq_some_iff_mem hn).2 hm)

/-- Maps count as the same just where the same stands under each name. -/
theorem sameFields_iff_meaning (hf : IsMeaningful (.ofFields fields))
    (ho : IsMeaningful (.ofFields others))
    (h : ∀ field ∈ fields, ∀ b, IsMeaningful b →
      (field.2.same b = true ↔ field.2.meaning = b.meaning)) :
    (fields.length = others.length ∧ sameFields fields others = true) ↔
      meaningUnder fields = meaningUnder others := by
  cases hf with
  | map hk hn hv =>
  cases ho with
  | map hok hon hov =>
    rw [sameFields_iff hk hn, funext_iff]
    simp only [meaningUnder_eq]
    constructor
    · rintro ⟨hl, hs⟩ name
      have hhas := Fields.has_iff_of_length_eq hk hn hok hl (fun name hhas => by
        obtain ⟨value, hg⟩ := Option.isSome_iff_exists.1 hhas
        obtain ⟨other, hother, _⟩ := hs name value hg
        simp [Fields.has, hother]) name
      cases hg : fields.get? name with
      | none => simpa [Fields.has, hg] using hhas
      | some value =>
        obtain ⟨other, hother, hsame⟩ := hs name value hg
        have hmeans := h _ (Fields.mem_of_get? hg) other (hov _ (Fields.mem_of_get? hother))
        simp [hother, hmeans.1 hsame]
    · intro heq
      have hhas : ∀ name, fields.has name = true ↔ others.has name = true := by
        intro name
        have hsome := congrArg Option.isSome (heq name)
        simp only [Option.isSome_map] at hsome
        simp [Fields.has, hsome]
      refine ⟨Fields.length_eq_of_has_iff hk hn hok hon hhas, fun name value hg => ?_⟩
      have hunder := heq name
      rw [hg, Option.map_some, eq_comm, Option.map_eq_some_iff] at hunder
      obtain ⟨other, hother, hmeans⟩ := hunder
      have hsame := h _ (Fields.mem_of_get? hg) other (hov _ (Fields.mem_of_get? hother))
      exact ⟨other, hother, hsame.2 hmeans.symm⟩

/-- Values count as the same just where they mean the same. -/
theorem same_iff_meaning {a b : Value} (ha : IsMeaningful a) (hb : IsMeaningful b) :
    a.same b = true ↔ a.meaning = b.meaning := by
  induction ha generalizing b with
  | @scalar s hs =>
    cases hb with
    | scalar ht => exact Scalar.same_iff hs ht
    | list => simp [same, meaning, Scalar.meaning_ne_list]
    | map => simp [same, meaning, Scalar.meaning_ne_object]
  | list h ih =>
    cases hb with
    | list hg => simp [same, meaning, meanings_eq_map, sameItems_iff ih hg]
    | scalar => simp [same, meaning, (Scalar.meaning_ne_list _ _).symm]
    | map => simp [same, meaning]
  | map hk hn hv ih =>
    cases hb with
    | map hok hon hov =>
      have hsame := sameFields_iff_meaning (.map hk hn hv) (.map hok hon hov) ih
      simp [same, meaning, hsame]
    | scalar => simp [same, meaning, (Scalar.meaning_ne_object _ _).symm]
    | list => simp [same, meaning]

/-- The same counts as the same: in itself, both ways, and over a third value. -/
theorem equivalence_same :
    Equivalence fun a b : { value : Value // IsMeaningful value } => a.1.same b.1 = true where
  refl a := (same_iff_meaning a.2 a.2).2 rfl
  symm {a b} h := (same_iff_meaning b.2 a.2).2 ((same_iff_meaning a.2 b.2).1 h).symm
  trans {a b c} hab hbc := by
    rw [same_iff_meaning a.2 c.2, (same_iff_meaning a.2 b.2).1 hab,
      (same_iff_meaning b.2 c.2).1 hbc]

end Value
end RestContract
