import RestContract.Proofs.Acceptance
import RestContract.Proofs.Citation
import RestContract.Proofs.ReferenceText

/-!
# Values that are valid under a schema

Which values of JSON follow a schema of a document. A reference means the component schema that it
names. Every keyword of another schema asks something of the values of one type, and of a composition
by `oneOf` some member has to be followed, as the contract reads it as a union.
-/

namespace RestContract.Schema

/-- What the value of a keyword has to be, if there is one. -/
def Keyword (fields : Fields) (keyword : String) (P : Value → Prop) : Prop :=
  ∀ value, fields.get? keyword = some value → P value

/-- The values of a type, or of some type of a list. -/
inductive HasType : Value → Datum → Prop where
  | text (s : String) : HasType (.text "string") (.text s)
  | number (q : Rat) : HasType (.text "number") (.number q)
  | integer (n : Int) : HasType (.text "integer") (.number n)
  | boolean (b : Bool) : HasType (.text "boolean") (.bool b)
  | null : HasType (.text "null") .null
  | array (items : List Datum) : HasType (.text "array") (.list items)
  | object (members : List (String × Datum)) : HasType (.text "object") (.record members)
  | among {tags : List Value} {mark : Option Nat} {tag : Value} {v : Datum} (hm : tag ∈ tags)
    (h : HasType tag v) : HasType (.list tags mark) v

/-- The values that a type stands for. -/
theorem hasType_tag_iff {tag : String} {v : Datum} : HasType (.text tag) v ↔
    (tag = "string" ∧ ∃ s, v = .text s) ∨ (tag = "number" ∧ ∃ q, v = .number q) ∨
      (tag = "integer" ∧ ∃ n : Int, v = .number n) ∨ (tag = "boolean" ∧ ∃ b, v = .bool b) ∨
        (tag = "null" ∧ v = .null) ∨ (tag = "array" ∧ ∃ items, v = .list items) ∨
          (tag = "object" ∧ ∃ members, v = .record members) := by
  constructor
  · intro h
    cases h <;> simp
  · rintro (⟨rfl, s, rfl⟩ | ⟨rfl, q, rfl⟩ | ⟨rfl, n, rfl⟩ | ⟨rfl, b, rfl⟩ | ⟨rfl, rfl⟩ |
      ⟨rfl, items, rfl⟩ | ⟨rfl, members, rfl⟩)
    exacts [.text s, .number q, .integer n, .boolean b, .null, .array items, .object members]

/-- Whether a flag is set that takes a bound out of the values within it. -/
def isExclusive (fields : Fields) (flag : String) : Bool :=
  match fields.get? flag with
  | some (.bool true) => true
  | _ => false

/-- The values within the bounds of a schema. -/
structure InBounds (length : String → Nat) (fields : Fields) (v : Datum) : Prop where
  minLength : ∀ s, v = .text s → Keyword fields "minLength" fun value =>
    Bounded (· ≤ ·) value.exact? (v.extent? length)
  maxLength : ∀ s, v = .text s → Keyword fields "maxLength" fun value =>
    Bounded (· ≥ ·) value.exact? (v.extent? length)
  minimum : ∀ q, v = .number q → Keyword fields "minimum" fun value =>
    Bounded (if isExclusive fields "exclusiveMinimum" then (· < ·) else (· ≤ ·)) value.exact? v.number?
  maximum : ∀ q, v = .number q → Keyword fields "maximum" fun value =>
    Bounded (if isExclusive fields "exclusiveMaximum" then (· > ·) else (· ≥ ·)) value.exact? v.number?
  minItems : ∀ items, v = .list items → Keyword fields "minItems" fun value =>
    Bounded (· ≤ ·) value.exact? (v.extent? length)
  maxItems : ∀ items, v = .list items → Keyword fields "maxItems" fun value =>
    Bounded (· ≥ ·) value.exact? (v.extent? length)

/-- The properties of a schema. -/
def propertiesOf (fields : Fields) : Fields :=
  match fields.get? "properties" with
  | some (.map properties _) => properties
  | _ => []

theorem propertiesOf_put (fields : Fields) (type : Value) :
    propertiesOf (fields.put "type" type) = propertiesOf fields := by
  unfold propertiesOf
  rw [Fields.get?_put_of_ne fields type (by decide)]

section

variable (length : String → Nat) (schemas : Fields)

mutual
/-- The values that are valid under a schema of a document with these component schemas. -/
inductive Valid : Value → Datum → Prop where
  | reference {schema component : Value} {name : String} {v : Datum}
    (ht : Reference.target? schema = some (.text (refTo name)))
    (hc : schemas.get? name = some component) (h : Valid component v) : Valid schema v
  | keywords {fields : Fields} {mark : Option Nat} {v : Datum} (hr : fields.get? "$ref" = none)
    (type : Keyword fields "type" (HasType · v)) (bounds : InBounds length fields v)
    (oneOf : ∀ parts m, fields.get? "oneOf" = some (.list parts m) → SomeValid parts v)
    (allOf : ∀ parts m, fields.get? "allOf" = some (.list parts m) → ∀ part ∈ parts, Valid part v)
    (items : ∀ items data, fields.get? "items" = some items → v = .list data →
      ∀ x ∈ data, Valid items x)
    (properties : ∀ name schema members x, (.text name, schema) ∈ propertiesOf fields →
      v = .record members → members.lookup name = some x → Valid schema x)
    (required : ∀ names m name members, fields.get? "required" = some (.list names m) →
      .text name ∈ names → v = .record members → (members.lookup name).isSome = true)
    (additional : ∀ other m name x members, fields.get? "additionalProperties" = some (.map other m) →
      v = .record members → (name, x) ∈ members →
        .text name ∉ (propertiesOf fields).map Prod.fst → Valid (.map other m) x) :
    Valid (.map fields mark) v

/-- The values that are valid under some schema of a list. -/
inductive SomeValid : List Value → Datum → Prop where
  | intro {parts : List Value} {part : Value} {v : Datum} (hm : part ∈ parts) (h : Valid part v) :
    SomeValid parts v
end

end

section

variable {length : String → Nat} {schemas : Fields} {fields other : Fields} {v : Datum}

theorem someValid_iff {parts : List Value} :
    SomeValid length schemas parts v ↔ ∃ part ∈ parts, Valid length schemas part v := by
  constructor
  · intro h
    cases h with
    | intro hm h => exact ⟨_, hm, h⟩
  · rintro ⟨part, hm, h⟩
    exact .intro hm h

theorem valid_reference_iff {schema component : Value} {name : String}
    (ht : Reference.target? schema = some (.text (refTo name)))
    (hc : schemas.get? name = some component) :
    Valid length schemas schema v ↔ Valid length schemas component v := by
  constructor
  · intro h
    cases h with
    | reference ht' hc' h =>
      rw [ht] at ht'
      injection ht' with ht'
      injection ht' with ht'
      injection ht' with ht'
      cases refTo_injective ht'
      cases hc.symm.trans hc'
      exact h
    | keywords hr => cases hr.symm.trans ht
  · exact .reference ht hc

/-- A schema that is neither a reference nor a composition. -/
structure Simple (fields : Fields) : Prop where
  ref : fields.get? "$ref" = none
  oneOf : fields.get? "oneOf" = none
  allOf : fields.get? "allOf" = none

theorem Valid.hasType {mark : Option Nat} {type : Value} (h : Valid length schemas (.map fields mark) v)
    (hr : fields.get? "$ref" = none) (ht : fields.get? "type" = some type) : HasType type v := by
  cases h with
  | reference href => cases hr.symm.trans href
  | keywords _ type => exact type _ ht

/-- Under a schema of another type, the values of that type are valid that were so before. -/
theorem Valid.retype {mark m : Option Nat} (h : Valid length schemas (.map fields mark) v)
    (heq : ∀ keyword, keyword ≠ "type" → fields.get? keyword = other.get? keyword)
    (ht : Keyword other "type" (HasType · v)) : Valid length schemas (.map other m) v := by
  have hproperties : propertiesOf fields = propertiesOf other := by
    unfold propertiesOf
    rw [heq _ (by decide)]
  cases h with
  | reference href hc h =>
    have href : fields.get? "$ref" = _ := href
    rw [heq _ (by decide)] at href
    exact .reference href hc h
  | keywords hr _ hb ho ha hi hp hreq hadd =>
    have hminimum : isExclusive fields "exclusiveMinimum" = isExclusive other "exclusiveMinimum" := by
      unfold isExclusive
      rw [heq _ (by decide)]
    have hmaximum : isExclusive fields "exclusiveMaximum" = isExclusive other "exclusiveMaximum" := by
      unfold isExclusive
      rw [heq _ (by decide)]
    obtain ⟨h₁, h₂, h₃, h₄, h₅, h₆⟩ := hb
    simp only [Keyword, hminimum, hmaximum] at h₁ h₂ h₃ h₄ h₅ h₆
    rw [heq _ (by decide)] at hr h₁ h₂ h₃ h₄ h₅ h₆ ho ha hi hreq hadd
    rw [hproperties] at hp hadd
    exact .keywords hr ht ⟨h₁, h₂, h₃, h₄, h₅, h₆⟩ ho ha hi hp hreq hadd

/-- Marks do not matter to validity. -/
theorem Valid.unmark {mark m : Option Nat} (h : Valid length schemas (.map fields mark) v) :
    Valid length schemas (.map fields m) v := by
  cases h with
  | reference ht hc h => exact .reference ht hc h
  | keywords hr ht hb ho ha hi hp hreq hadd => exact .keywords hr ht hb ho ha hi hp hreq hadd

variable {mark : Option Nat}

/-- The values that are valid under a schema of some types are those that are under the schema of
    one of them. -/
theorem valid_tags_iff {tags : List Value} {m : Option Nat} (hr : fields.get? "$ref" = none)
    (ht : fields.get? "type" = some (.list tags m)) :
    Valid length schemas (.map fields mark) v ↔
      ∃ tag ∈ tags, Valid length schemas (Compile.retyped fields tag) v := by
  have heq : ∀ tag keyword, keyword ≠ "type" →
      fields.get? keyword = (fields.put "type" tag).get? keyword :=
    fun tag keyword hk => (Fields.get?_put_of_ne fields tag hk).symm
  constructor
  · intro h
    have htype := h.hasType hr ht
    cases htype with
    | @among _ _ tag _ hm htag =>
      refine ⟨tag, hm, h.retype (heq tag) fun value hv => ?_⟩
      rw [Fields.get?_put_self] at hv
      cases hv
      exact htag
  · rintro ⟨tag, hm, h⟩
    refine h.retype (fun keyword hk => (heq tag keyword hk).symm) fun value hv => ?_
    cases ht.symm.trans hv
    have hr' : (fields.put "type" tag).get? "$ref" = none := by
      rw [← heq tag _ (by decide), hr]
    exact .among hm (h.hasType hr' (Fields.get?_put_self ..))

theorem valid_oneOf_iff {parts : List Value} {m : Option Nat} :
    Valid length schemas (.map [(.text "oneOf", .list parts m)] mark) v ↔
      ∃ part ∈ parts, Valid length schemas part v := by
  rw [← someValid_iff]
  constructor
  · intro h
    cases h with
    | reference ht => simp [Reference.target?, Fields.get?] at ht
    | keywords _ _ _ ho => exact ho parts m (by simp [Fields.get?])
  · intro h
    refine .keywords (by simp [Fields.get?]) ?_ ⟨?_, ?_, ?_, ?_, ?_, ?_⟩ ?_ ?_ ?_ ?_ ?_ ?_
    case refine_8 =>
      intro parts' m' hp
      simp only [Fields.get?, if_true, Option.some.injEq, Value.list.injEq] at hp
      rw [← hp.1]
      exact h
    all_goals simp [Keyword, Fields.get?, propertiesOf]

theorem valid_allOf_iff {parts : List Value} {m : Option Nat} :
    Valid length schemas (.map [(.text "allOf", .list parts m)] mark) v ↔
      ∀ part ∈ parts, Valid length schemas part v := by
  constructor
  · intro h
    cases h with
    | reference ht => simp [Reference.target?, Fields.get?] at ht
    | keywords _ _ _ _ ha => exact ha parts m (by simp [Fields.get?])
  · intro h
    refine .keywords (by simp [Fields.get?]) ?_ ⟨?_, ?_, ?_, ?_, ?_, ?_⟩ ?_ ?_ ?_ ?_ ?_ ?_
    case refine_9 =>
      intro parts' m' hp
      simp only [Fields.get?, if_true, Option.some.injEq, Value.list.injEq] at hp
      rw [← hp.1]
      exact h
    all_goals simp [Keyword, Fields.get?, propertiesOf]

theorem inBounds_of_unbounded (ht : ∀ s, v ≠ .text s) (hn : ∀ q, v ≠ .number q)
    (hl : ∀ items, v ≠ .list items) : InBounds length fields v where
  minLength s h := absurd h (ht s)
  maxLength s h := absurd h (ht s)
  minimum q h := absurd h (hn q)
  maximum q h := absurd h (hn q)
  minItems items h := absurd h (hl items)
  maxItems items h := absurd h (hl items)

theorem inBounds_text_iff {s : String} : InBounds length fields (.text s) ↔
    (Keyword fields "minLength" fun value =>
      Bounded (· ≤ ·) value.exact? ((Datum.text s).extent? length)) ∧
    (Keyword fields "maxLength" fun value =>
      Bounded (· ≥ ·) value.exact? ((Datum.text s).extent? length)) :=
  ⟨fun h => ⟨h.minLength s rfl, h.maxLength s rfl⟩,
    fun h => ⟨fun _ _ => h.1, fun _ _ => h.2, nofun, nofun, nofun, nofun⟩⟩

theorem inBounds_number_iff {q : Rat} : InBounds length fields (.number q) ↔
    (Keyword fields "minimum" fun value => Bounded
      (if isExclusive fields "exclusiveMinimum" then (· < ·) else (· ≤ ·)) value.exact?
      (Datum.number q).number?) ∧
    (Keyword fields "maximum" fun value => Bounded
      (if isExclusive fields "exclusiveMaximum" then (· > ·) else (· ≥ ·)) value.exact?
      (Datum.number q).number?) :=
  ⟨fun h => ⟨h.minimum q rfl, h.maximum q rfl⟩,
    fun h => ⟨nofun, nofun, fun _ _ => h.1, fun _ _ => h.2, nofun, nofun⟩⟩

theorem inBounds_list_iff {items : List Datum} : InBounds length fields (.list items) ↔
    (Keyword fields "minItems" fun value =>
      Bounded (· ≤ ·) value.exact? ((Datum.list items).extent? length)) ∧
    (Keyword fields "maxItems" fun value =>
      Bounded (· ≥ ·) value.exact? ((Datum.list items).extent? length)) :=
  ⟨fun h => ⟨h.minItems items rfl, h.maxItems items rfl⟩,
    fun h => ⟨nofun, nofun, nofun, nofun, fun _ _ => h.1, fun _ _ => h.2⟩⟩

/-- The keywords that a text, number, boolean or null has to follow. -/
theorem valid_scalar_iff (hs : Simple fields) (hv : v.isScalar = true) :
    Valid length schemas (.map fields mark) v ↔
      Keyword fields "type" (HasType · v) ∧ InBounds length fields v := by
  constructor
  · intro h
    cases h with
    | reference ht => cases hs.ref.symm.trans ht
    | keywords _ ht hb => exact ⟨ht, hb⟩
  · rintro ⟨ht, hb⟩
    have hl : ∀ data, v ≠ .list data := by
      rintro data rfl
      cases hv
    have hm : ∀ members, v ≠ .record members := by
      rintro members rfl
      cases hv
    refine .keywords hs.ref ht hb ?_ ?_ (fun _ _ _ h => absurd h (hl _))
      (fun _ _ _ _ _ h => absurd h (hm _)) (fun _ _ _ _ _ _ h => absurd h (hm _))
      (fun _ _ _ _ _ _ h => absurd h (hm _))
    all_goals simp [hs.oneOf, hs.allOf]

/-- The keywords that a list has to follow. -/
theorem valid_list_iff {data : List Datum} (hs : Simple fields) :
    Valid length schemas (.map fields mark) (.list data) ↔
      Keyword fields "type" (HasType · (.list data)) ∧ InBounds length fields (.list data) ∧
        Keyword fields "items" fun items => ∀ x ∈ data, Valid length schemas items x := by
  constructor
  · intro h
    cases h with
    | reference ht => cases hs.ref.symm.trans ht
    | keywords _ ht hb _ _ hi => exact ⟨ht, hb, fun items heq => hi items data heq rfl⟩
  · rintro ⟨ht, hb, hi⟩
    refine .keywords hs.ref ht hb ?_ ?_ ?_ (fun _ _ _ _ _ h => nomatch h)
      (fun _ _ _ _ _ _ h => nomatch h) (fun _ _ _ _ _ _ h => nomatch h)
    · simp [hs.oneOf]
    · simp [hs.allOf]
    · rintro items data' heq h
      cases h
      exact hi items heq

/-- What the keywords of a schema ask of the members of an object, when `valid` are the values that
    are valid under the schemas inside it. -/
structure Fits (valid : Value → Datum → Prop) (fields : Fields) (members : List (String × Datum)) :
    Prop where
  properties : ∀ name schema x, (.text name, schema) ∈ propertiesOf fields →
    members.lookup name = some x → valid schema x
  required : ∀ names m name, fields.get? "required" = some (.list names m) → .text name ∈ names →
    (members.lookup name).isSome = true
  additional : ∀ other m name x, fields.get? "additionalProperties" = some (.map other m) →
    (name, x) ∈ members → .text name ∉ (propertiesOf fields).map Prod.fst → valid (.map other m) x

/-- The keywords that an object has to follow. -/
theorem valid_record_iff {members : List (String × Datum)} (hs : Simple fields) :
    Valid length schemas (.map fields mark) (.record members) ↔
      Keyword fields "type" (HasType · (.record members)) ∧
        Fits (Valid length schemas) fields members := by
  constructor
  · intro h
    cases h with
    | reference ht => cases hs.ref.symm.trans ht
    | keywords _ ht _ _ _ _ hp hreq hadd =>
      exact ⟨ht, fun name schema x hm hx => hp name schema members x hm rfl hx,
        fun names m name hn hm => hreq names m name members hn hm rfl,
        fun other m name x ho hm hn => hadd other m name x members ho rfl hm hn⟩
  · rintro ⟨ht, hp, hreq, hadd⟩
    refine .keywords hs.ref ht (inBounds_of_unbounded nofun nofun nofun) ?_ ?_ (fun _ _ _ h => nomatch h)
      ?_ ?_ ?_
    · simp [hs.oneOf]
    · simp [hs.allOf]
    · rintro name schema _ x hm ⟨⟩
      exact hp name schema x hm
    · rintro names m name _ hn hm ⟨⟩
      exact hreq names m name hn hm
    · rintro other m name x _ ho ⟨⟩
      exact hadd other m name x ho

end

end RestContract.Schema
