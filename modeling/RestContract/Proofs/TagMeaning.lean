import RestContract.Proofs.Narrowing

/-!
# What the validator of a type means

The validators of the elementary schemas of one type. Of each, what it is made from and what the
calls for its keywords ask together come to what is valid under the schema, if that holds of the
validators inside it.
-/

namespace RestContract.Compile

open Expr Schema Validation

section

variable (length : String → Nat) (scope : Scope) (meaning : String → Sense) (schemas : Fields)

/-- Every validator of a schema accepts the values that are valid under it, and only that of an
    optional property lets them be missing. -/
def Means (schema : Value) : Prop :=
  ∀ p e, Compiles scope schema p e → denote length meaning e =
    .validator (Valid length schemas schema) (decide (p = .optional))

/-- What a validator accepts together with what the constraints of a type tag ask is what is valid
    under a schema. -/
def Captures (fields : Fields) (tag : String) (e : Expr) : Prop :=
  ∃ accepts narrowing P, denote length meaning e = .validator accepts false ∧
    constraints fields (.text tag) = .ok narrowing ∧ Narrows length meaning narrowing P ∧
      ∀ mark v, accepts v ∧ P v ↔ Valid length schemas (.map fields mark) v

end

variable {length : String → Nat} {scope : Scope} {meaning : String → Sense} {schemas : Fields}

theorem denote_unstated {schema : Value} {e : Expr} (h : Means length scope meaning schemas schema)
    (hc : Compiles scope schema .unstated e) :
    denote length meaning e = .validator (Valid length schemas schema) false := h _ _ hc

section

variable {fields : Fields} {type : Value}

theorem keyword_type {v : Datum} (ht : fields.get? "type" = some type) :
    Keyword fields "type" (HasType · v) ↔ HasType type v := by
  simp [Keyword, ht]

/-! ## One tag -/

/-- The validator of a type of scalars captures a schema of that type if it accepts the values of
    the type that are within the bounds of the schema. -/
theorem captures_scalar {tag : String} {e : Expr} {kind accepts P : Datum → Prop}
    {narrowing : List Call} (hs : Shaped fields (.text tag))
    (ht : ∀ v, HasType (.text tag) v ↔ kind v) (hk : ∀ v, kind v → v.isScalar = true)
    (he : denote length meaning e = .validator accepts false)
    (hc : constraints fields (.text tag) = .ok narrowing) (hP : Narrows length meaning narrowing P)
    (h : ∀ v, accepts v ∧ P v ↔ kind v ∧ InBounds length fields v) :
    Captures length meaning schemas fields tag e := by
  refine ⟨accepts, narrowing, P, he, hc, hP, fun mark v => ?_⟩
  rw [h, ← ht, ← keyword_type hs.typed]
  constructor
  · intro hv
    exact (valid_scalar_iff hs.simple (hk v ((ht v).1 ((keyword_type hs.typed).1 hv.1)))).2 hv
  · intro hv
    have hscalar := hk v ((ht v).1 (hv.hasType hs.simple.ref hs.typed))
    exact (valid_scalar_iff hs.simple hscalar).1 hv

theorem captures_text (hs : Shaped fields (.text "string")) :
    Captures length meaning schemas fields "string" (Compile.text fields) := by
  have htext : Compile.text fields = z "string" [] := by
    rw [Compile.text, hs.get_eq_null "format" (by decide)]
    rfl
  have hexact : ∀ {keyword}, (Keyword fields keyword fun value => ∃ n : Nat, 0 < n ∧ value = .int n) →
      Keyword fields keyword fun value => value.exact?.isSome = true := by
    intro keyword h value hv
    obtain ⟨n, _, rfl⟩ := h value hv
    rfl
  have htag : ∀ v, HasType (.text "string") v ↔ ∃ s, v = .text s := by simp [hasType_tag_iff]
  refine captures_scalar hs htag ?_ ?_ (textCalls_eq hs)
    ((narrows_keywordCall (fun _ _ _ => rfl) (hexact hs.minLength)).append
      (narrows_keywordCall (fun _ _ _ => rfl) (hexact hs.maxLength))) fun v => and_congr_right ?_
  · rintro _ ⟨s, rfl⟩
    rfl
  · rw [htext, denote_z _ (by simp [makers])]
    rfl
  · rintro ⟨s, rfl⟩
    exact inBounds_text_iff.symm

theorem narrows_minimum (hs : Shaped fields type) : Narrows length meaning
    (keywordCall fields "minimum" (if isExclusive fields "exclusiveMinimum" then "gt" else "gte"))
    fun v => Keyword fields "minimum" fun value => Bounded
      (if isExclusive fields "exclusiveMinimum" then (· < ·) else (· ≤ ·)) value.exact? v.number? := by
  refine narrows_keywordCall (fun _ _ _ => ?_) hs.minimum
  split <;> rfl

theorem narrows_maximum (hs : Shaped fields type) : Narrows length meaning
    (keywordCall fields "maximum" (if isExclusive fields "exclusiveMaximum" then "lt" else "lte"))
    fun v => Keyword fields "maximum" fun value => Bounded
      (if isExclusive fields "exclusiveMaximum" then (· > ·) else (· ≥ ·)) value.exact? v.number? := by
  refine narrows_keywordCall (fun _ _ _ => ?_) hs.maximum
  split <;> rfl

theorem captures_number (hs : Shaped fields (.text "number")) :
    Captures length meaning schemas fields "number" (z "number" []) := by
  have htag : ∀ v, HasType (.text "number") v ↔ ∃ q, v = .number q := by simp [hasType_tag_iff]
  refine captures_scalar hs htag ?_ ?_ (numberCalls_eq hs false)
    (((Narrows.nil fun _ => trivial).append (narrows_minimum hs)).append (narrows_maximum hs))
    fun v => and_congr_right ?_
  · rintro _ ⟨q, rfl⟩
    rfl
  · rw [denote_z _ (by simp [makers])]
    rfl
  · rintro ⟨q, rfl⟩
    rw [true_and, inBounds_number_iff]

theorem captures_integer (hs : Shaped fields (.text "integer")) :
    Captures length meaning schemas fields "integer" (z "number" []) := by
  have htag : ∀ v, HasType (.text "integer") v ↔ ∃ n : Int, v = .number n := by
    simp [hasType_tag_iff]
  have hbase : denote length meaning (z "number" []) =
      .validator (fun v => ∃ q, v = .number q) false := by
    rw [denote_z _ (by simp [makers])]
    rfl
  refine captures_scalar hs htag ?_ hbase (numberCalls_eq hs true)
    ((narrows_int.append (narrows_minimum hs)).append (narrows_maximum hs)) fun v => ?_
  · rintro _ ⟨n, rfl⟩
    rfl
  · constructor
    · rintro ⟨_, ⟨⟨n, rfl⟩, hmin⟩, hmax⟩
      exact ⟨⟨n, rfl⟩, inBounds_number_iff.2 ⟨hmin, hmax⟩⟩
    · rintro ⟨⟨n, rfl⟩, hb⟩
      obtain ⟨hmin, hmax⟩ := inBounds_number_iff.1 hb
      exact ⟨⟨_, rfl⟩, ⟨⟨n, rfl⟩, hmin⟩, hmax⟩

/-- The validator of a type of scalars that no keyword bounds. -/
theorem captures_unbounded {tag : String} {kind : Datum → Prop} (hs : Shaped fields (.text tag))
    (ht : ∀ v, HasType (.text tag) v ↔ kind v)
    (hk : ∀ v, kind v → v.isScalar = true ∧ InBounds length fields v)
    (he : denote length meaning (z tag []) = .validator kind false)
    (hc : constraints fields (.text tag) = .ok []) :
    Captures length meaning schemas fields tag (z tag []) :=
  captures_scalar hs ht (fun v hv => (hk v hv).1) he hc (Narrows.nil fun _ => trivial) fun v =>
    and_congr_right fun hv => iff_of_true trivial (hk v hv).2

theorem captures_boolean (hs : Shaped fields (.text "boolean")) :
    Captures length meaning schemas fields "boolean" (z "boolean" []) := by
  have htag : ∀ v, HasType (.text "boolean") v ↔ ∃ b, v = .bool b := by simp [hasType_tag_iff]
  refine captures_unbounded hs htag ?_ ?_ rfl
  · rintro _ ⟨b, rfl⟩
    exact ⟨rfl, inBounds_of_unbounded nofun nofun nofun⟩
  · rw [denote_z _ (by simp [makers])]
    rfl

theorem captures_null (hs : Shaped fields (.text "null")) :
    Captures length meaning schemas fields "null" (z "null" []) := by
  have htag : ∀ v, HasType (.text "null") v ↔ v = .null := by simp [hasType_tag_iff]
  refine captures_unbounded hs htag ?_ ?_ rfl
  · rintro _ rfl
    exact ⟨rfl, inBounds_of_unbounded nofun nofun nofun⟩
  · rw [denote_z _ (by simp [makers])]
    rfl

/-- A list is captured by a validator of its items, which accepts every value if the schema has no
    items. -/
theorem captures_array {item : Expr} {accepts : Datum → Prop} (hs : Shaped fields (.text "array"))
    (he : denote length meaning item = .validator accepts false)
    (hi : ∀ x, accepts x ↔ Keyword fields "items" fun items => Valid length schemas items x) :
    Captures length meaning schemas fields "array" (z "array" [item]) := by
  refine ⟨fun v => ∃ items, v = .list items ∧ ∀ x ∈ items, accepts x, _, _, ?_, arrayCalls_eq hs,
    (narrows_keywordCall (fun _ _ _ => rfl) (exact?_of_count hs.minItems)).append
      (narrows_keywordCall (fun _ _ _ => rfl) (exact?_of_count hs.maxItems)), fun mark v => ?_⟩
  · rw [denote_z _ (by simp [makers]), List.map_singleton, he]
    rfl
  · constructor
    · rintro ⟨⟨data, rfl, hall⟩, hb⟩
      refine (valid_list_iff hs.simple).2
        ⟨(keyword_type hs.typed).2 (.array data), inBounds_list_iff.2 hb, ?_⟩
      exact fun items heq x hx => (hi x).1 (hall x hx) items heq
    · intro h
      obtain ⟨data, rfl⟩ : ∃ items, v = .list items := by
        simpa [hasType_tag_iff] using h.hasType hs.simple.ref hs.typed
      obtain ⟨_, hb, hitems⟩ := (valid_list_iff hs.simple).1 h
      exact ⟨⟨data, rfl, fun x hx => (hi x).2 fun items heq => hitems items heq x hx⟩,
        inBounds_list_iff.1 hb⟩

/-- An object is captured by a validator of its members. -/
theorem captures_object {e : Expr} (accepts : List (String × Datum) → Prop)
    (hs : Shaped fields (.text "object"))
    (he : denote length meaning e = .validator (fun v => ∃ members, v = .record members ∧
      accepts members) false)
    (hm : ∀ members, accepts members ↔ Fits (Valid length schemas) fields members) :
    Captures length meaning schemas fields "object" e := by
  refine ⟨_, [], _, he, rfl, Narrows.nil fun _ => trivial, fun mark v => ?_⟩
  constructor
  · rintro ⟨⟨members, rfl, h⟩, _⟩
    exact (valid_record_iff hs.simple).2 ⟨(keyword_type hs.typed).2 (.object members), (hm _).1 h⟩
  · intro h
    obtain ⟨members, rfl⟩ : ∃ members, v = .record members := by
      simpa [hasType_tag_iff] using h.hasType hs.simple.ref hs.typed
    exact ⟨⟨members, rfl, (hm _).2 ((valid_record_iff hs.simple).1 h).2⟩, trivial⟩

/-! ## Objects -/

/-- The names that are required are those of properties. -/
theorem exists_requiredKeys (hs : Shaped fields type) : ∃ names : List String,
    requiredKeys fields = .ok (names.map .text) ∧
      (∀ name ∈ names, .text name ∈ (propertiesOf fields).map Prod.fst) ∧
        ∀ name, (∃ l m, fields.get? "required" = some (.list l m) ∧ .text name ∈ l) ↔ name ∈ names := by
  have hkeys : ∀ names : List String, (names.map .text).mapM requiredKey =
      .ok (names.map fun name => some (.text name)) := by
    intro names
    rw [mapM_eq_ok_iff, List.forall₂_map_left_iff, List.forall₂_map_right_iff, List.forall₂_same]
    intro name _
    rfl
  cases hg : fields.get? "required" with
  | none =>
    refine ⟨[], ?_, by simp, by simp⟩
    rw [requiredKeys, Fields.get, hg]
    rfl
  | some value =>
    obtain ⟨names, m, rfl, hnames⟩ := hs.required value hg
    refine ⟨names, ?_, hnames, by simp⟩
    have hparts : (fields.get "required").orEmptyList.asParts = .ok (names.map .text) := by
      rw [Fields.get, hg]
      cases names <;> rfl
    rw [requiredKeys, hparts, ok_bind, hkeys, ok_bind, List.filterMap_map]
    simp [pure, Except.pure]

theorem same_text_iff {names : List String} {name : String} :
    (names.map Scalar.text).any (·.same (.text name)) = true ↔ name ∈ names := by
  simp [Scalar.same, Scalar.whole?]

theorem propertiesOf_eq_nil (hs : Shaped fields type) :
    (fields.get "properties").isVacant = true ↔ propertiesOf fields = [] := by
  unfold propertiesOf Fields.get
  cases hg : fields.get? "properties" with
  | none => simp [Value.isVacant]
  | some value =>
    obtain ⟨named, m, rfl⟩ := hs.properties value hg
    simp [Value.isVacant]

theorem suits_validator_iff {accepts : Datum → Prop} {omissible : Bool} {d : Option Datum} :
    (Sense.validator accepts omissible).Suits d ↔
      (∀ x, d = some x → accepts x) ∧ (d = none → omissible = true) := by
  cases d <;> simp [Sense.Suits, Sense.Accepts, Sense.Omissible]

/-- What the properties of an object ask of its members. -/
theorem properties_suit_iff {required : List Scalar} {entries : Fields} {compiled : List Property}
    {members : List (String × Datum)}
    (hm : ∀ entry ∈ entries, Means length scope meaning schemas entry.2)
    (h : List.Forall₂ (PropertyForm (Compiles scope) required) entries compiled) :
    (∀ p ∈ denoteProperties length meaning compiled,
      ∃ name, p.1 = .text name ∧ p.2.Suits (members.lookup name)) ↔
    ∀ entry ∈ entries, ∃ name, entry.1 = .text name ∧
      (∀ x, members.lookup name = some x → Valid length schemas entry.2 x) ∧
      (members.lookup name = none → required.any (·.same entry.1) = false) := by
  induction h with
  | nil => simp [denoteProperties]
  | @cons entry property entries compiled hproperty _ ih =>
    obtain ⟨e, rfl, he⟩ := hproperty
    rw [denoteProperties, List.forall_mem_cons, List.forall_mem_cons,
      ih fun entry he => hm entry (List.mem_cons_of_mem _ he), hm entry List.mem_cons_self _ e he]
    refine and_congr_left fun _ => exists_congr fun name => ?_
    rw [suits_validator_iff]
    cases required.any (·.same entry.1) <;> simp

/-- An object without properties only asks something of additional members. -/
theorem fits_iff_of_vacant {valid : Value → Datum → Prop} {members : List (String × Datum)}
    (hs : Shaped fields type) (hv : propertiesOf fields = []) : Fits valid fields members ↔
      ∀ other m, fields.get? "additionalProperties" = some (.map other m) →
        ∀ member ∈ members, valid (.map other m) member.2 := by
  constructor
  · rintro ⟨_, _, hadditional⟩ other m ha ⟨name, x⟩ hx
    exact hadditional other m name x ha hx (by simp [hv])
  · intro h
    refine ⟨by simp [hv], fun l m name hl hn => ?_, fun other m name x ha hx _ => h other m ha _ hx⟩
    obtain ⟨names, _, hnames, hlisted⟩ := exists_requiredKeys hs
    have hname := hnames name ((hlisted name).1 ⟨l, m, hl, hn⟩)
    rw [hv] at hname
    cases hname

/-- The keys of properties are texts. -/
theorem exists_name_of_mem_propertiesOf (hs : Shaped fields type) {entry : Scalar × Value}
    (he : entry ∈ propertiesOf fields) : ∃ name, entry.1 = .text name := by
  unfold propertiesOf at he
  split at he
  · next properties m hg =>
    obtain ⟨named, _, heq⟩ := hs.properties _ hg
    cases heq
    obtain ⟨⟨name, schema⟩, _, rfl⟩ := List.mem_map.1 he
    exact ⟨name, rfl⟩
  · cases he

/-- An object whose members follow its properties. -/
theorem fits_iff_of_listed {valid : Value → Datum → Prop} {names : List String}
    {members : List (String × Datum)} (hs : Shaped fields type)
    (hnames : ∀ name ∈ names, .text name ∈ (propertiesOf fields).map Prod.fst)
    (hlisted : ∀ name, (∃ l m, fields.get? "required" = some (.list l m) ∧ .text name ∈ l) ↔
      name ∈ names)
    (ha : ∀ other m, fields.get? "additionalProperties" ≠ some (.map other m)) :
    Fits valid fields members ↔ ∀ entry ∈ propertiesOf fields, ∃ name, entry.1 = .text name ∧
      (∀ x, members.lookup name = some x → valid entry.2 x) ∧
      (members.lookup name = none → (names.map Scalar.text).any (·.same entry.1) = false) := by
  constructor
  · rintro ⟨hproperties, hrequired, _⟩ ⟨key, schema⟩ he
    obtain ⟨name, rfl⟩ := exists_name_of_mem_propertiesOf hs he
    refine ⟨name, rfl, fun x hx => hproperties name schema x he hx, fun hnone => ?_⟩
    rw [Bool.eq_false_iff, Ne, same_text_iff]
    intro hn
    obtain ⟨l, m, hl, hmem⟩ := (hlisted name).2 hn
    have hsome := hrequired l m name hl hmem
    rw [hnone] at hsome
    cases hsome
  · intro h
    refine ⟨fun name schema x he hx => ?_, fun l m name hl hmem => ?_,
      fun other m name x hother => absurd hother (ha other m)⟩
    · obtain ⟨_, heq, hvalid, _⟩ := h _ he
      cases heq
      exact hvalid x hx
    · have hn := (hlisted name).1 ⟨l, m, hl, hmem⟩
      obtain ⟨entry, he, hkey⟩ := List.mem_map.1 (hnames name hn)
      obtain ⟨_, heq, _, hnone⟩ := h entry he
      cases hkey.symm.trans heq
      rw [Option.isSome_iff_ne_none]
      intro hmissing
      have hfalse := hnone hmissing
      rw [hkey, Bool.eq_false_iff, Ne, same_text_iff] at hfalse
      exact hfalse hn

theorem get?_of_get {keyword : String} {value : Value} (h : fields.get keyword = value)
    (hn : value.isNull = false) : fields.get? keyword = some value := by
  subst h
  unfold Fields.get at hn ⊢
  cases hg : fields.get? keyword with
  | none =>
    rw [hg] at hn
    cases hn
  | some found => rfl

theorem captures_objectForm {e : Expr} (hs : Shaped fields (.text "object"))
    (hp : ∀ entry ∈ propertiesOf fields, Means length scope meaning schemas entry.2)
    (ha : ∀ other m, fields.get? "additionalProperties" = some (.map other m) →
      Means length scope meaning schemas (.map other m))
    (h : ObjectForm (Compiles scope) fields e) :
    Captures length meaning schemas fields "object" e := by
  cases h with
  | anyRecord hvacant htrue =>
    have hadditional := get?_of_get htrue rfl
    refine captures_object (fun members => ∀ m ∈ members, True) hs ?_ fun members => ?_
    · rw [denote_z _ (by simp [makers]), List.map_singleton, denote_z _ (by simp [makers])]
      rfl
    · rw [fits_iff_of_vacant hs ((propertiesOf_eq_nil hs).1 hvacant)]
      simp [hadditional]
  | @record other m _ hvacant hmap hc =>
    have hadditional := get?_of_get hmap rfl
    refine captures_object
      (fun members => ∀ member ∈ members, Valid length schemas (.map other m) member.2) hs ?_
      fun members => ?_
    · rw [denote_z _ (by simp [makers]), List.map_singleton, denote_unstated (ha _ _ hadditional) hc]
      rfl
    · rw [fits_iff_of_vacant hs ((propertiesOf_eq_nil hs).1 hvacant)]
      simp [hadditional]
  | @properties _ _ compiled hn hr he hform =>
    obtain ⟨names, hrequired, hnames, hlisted⟩ := exists_requiredKeys hs
    cases hs.get_properties.symm.trans he
    cases hrequired.symm.trans hr
    refine captures_object (fun members => ∀ p ∈ denoteProperties length meaning compiled,
      ∃ name, p.1 = .text name ∧ p.2.Suits (members.lookup name)) hs ?_ fun members => ?_
    · rw [denote_z _ (by simp [makers]), List.map_singleton]
      rfl
    · rw [fits_iff_of_listed hs hnames hlisted fun other m hother => ?_]
      · exact properties_suit_iff hp hform
      · rcases hs.additional _ hother with htrue | ⟨hnil, _⟩
        · cases htrue
        · rw [isRecord, (propertiesOf_eq_nil hs).2 hnil, Fields.get, hother] at hn
          cases hn

end

end RestContract.Compile
