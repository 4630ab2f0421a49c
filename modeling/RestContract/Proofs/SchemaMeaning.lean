import RestContract.Proofs.TagMeaning

/-!
# What the validator of a schema means

The validator of an elementary schema accepts the values that are valid under the schema, if the
identifiers in it do so for the components that they stand for. The induction is on the schema; a
list of types is taken tag by tag.
-/

namespace RestContract.Compile

open Expr Schema Validation

variable {length : String → Nat} {scope : Scope} {meaning : String → Sense} {schemas : Fields}
  {fields : Fields} {type : Value} {mark : Option Nat}

/-! ## Types -/

/-- What holds of all the schemas inside a schema that belong to its type. -/
structure HoldsInside (P : Value → Prop) (fields : Fields) (type : Value) : Prop where
  items : isOrHolds type "array" = true → ∀ items, fields.get? "items" = some items → P items
  properties : isOrHolds type "object" = true → ∀ field ∈ propertiesOf fields, P field.2
  additional : isOrHolds type "object" = true → ∀ other m,
    fields.get? "additionalProperties" = some (.map other m) → P (.map other m)

theorem isOrHolds_text {tag other : String} : isOrHolds (.text tag) other = true ↔ tag = other := by
  simp [isOrHolds, Value.isText]

theorem isOrHolds_of_mem {tags : List String} {tag : String} {m : Option Nat} (h : tag ∈ tags) :
    isOrHolds (.list (tags.map .text) m) tag = true := by
  simpa [isOrHolds, Value.isText] using h

/-- Whatever belongs to a tag of a list of types belongs to the list. -/
theorem HoldsInside.retype {P : Value → Prop} {tags : List String} {tag : String} {m : Option Nat}
    (h : HoldsInside P fields (.list (tags.map .text) m)) (ht : tag ∈ tags) :
    HoldsInside P (fields.put "type" (.text tag)) (.text tag) := by
  refine ⟨fun heq items hi => ?_, fun heq => ?_, fun heq other m ha => ?_⟩
  all_goals
    cases isOrHolds_text.1 heq
  · rw [Fields.get?_put_of_ne fields _ (by decide)] at hi
    exact h.items (isOrHolds_of_mem ht) items hi
  · rw [propertiesOf_put]
    exact h.properties (isOrHolds_of_mem ht)
  · rw [Fields.get?_put_of_ne fields _ (by decide)] at ha
    exact h.additional (isOrHolds_of_mem ht) other m ha

/-- The only type that is made into an object is that of objects. -/
theorem eq_object_of_shaped {tag : String} (hs : Shaped fields (.text tag))
    (h : tag ∉ plainTags) : tag = "object" := by
  have hmem := hs.mem_typeTags
  simp only [typeTags, plainTags, List.mem_cons, List.not_mem_nil, or_false] at hmem h
  tauto

theorem captures_of_tagForm {tag : String} {e : Expr} (hs : Shaped fields (.text tag))
    (hm : HoldsInside (fun schema => schema.isNull = false ∧ Means length scope meaning schemas schema)
      fields (.text tag))
    (h : TagForm (Compiles scope) fields (.text tag) e) :
    Captures length meaning schemas fields tag e := by
  cases h with
  | text => exact captures_text hs
  | number => exact captures_number hs
  | integer => exact captures_integer hs
  | boolean => exact captures_boolean hs
  | null => exact captures_null hs
  | anyArray hnull =>
    have hnone : fields.get? "items" = none := by
      cases hg : fields.get? "items" with
      | none => rfl
      | some items =>
        rw [Fields.get, hg] at hnull
        cases (hm.items rfl items hg).1.symm.trans hnull
    refine captures_array hs (denote_z _ (by simp [makers])) fun x => ?_
    simp [Keyword, hnone]
  | array hnull hc =>
    have hitems := get?_of_get rfl hnull
    refine captures_array hs (denote_unstated (hm.items rfl _ hitems).2 hc) fun x => ?_
    simp [Keyword, hitems]
  | object ht h =>
    have htag : tag = "object" := by
      rcases ht with heq | ⟨_, hn⟩
      · injection heq with heq
        injection heq
      · exact eq_object_of_shaped hs fun hplain => hn tag hplain rfl
    subst htag
    exact captures_objectForm hs (fun field hf => (hm.properties rfl field hf).2)
      (fun other m ho => (hm.additional rfl other m ho).2) h
  | unknown ht =>
    rcases ht with ht | ⟨_, ht⟩ <;> cases ht

/-- The validator of a schema with a type, unless it is a list of one, is made from the type and
    followed by calls. -/
theorem exists_of_compiles {p : Presence} {e : Expr} (hs : Shaped fields type)
    (hsole : ∀ tag m, type ≠ .list [tag] m) (h : Compiles scope (.map fields mark) p e) :
    ∃ base calls, e = chain base calls ∧ TypeForm (Compiles scope) fields type base ∧
      Validation.calls fields type p = .ok calls := by
  have hget : fields.get "type" = type := by simp [Fields.get, hs.typed]
  have hvacant : ∀ {keyword}, keyword ∉ typedKeywords → (fields.get keyword).isVacant = true := by
    intro keyword hk
    rw [hs.get_eq_null keyword hk]
    rfl
  cases form_of_compiles h with
  | declared ht => cases hs.simple.ref.symm.trans ht
  | followed ht => cases hs.simple.ref.symm.trans ht
  | plain ht h =>
    cases h with
    | sole htype => exact absurd (hget.symm.trans htype) (hsole _ _)
    | chain _ _ hbase hcalls =>
      rw [hget] at hbase hcalls
      cases hbase with
      | oneOf hv => cases hv.symm.trans (hvacant (by decide))
      | allOf _ hv => cases hv.symm.trans (hvacant (by decide))
      | anyOf _ _ hv => cases hv.symm.trans (hvacant (by decide))
      | enum _ hv => cases hv.symm.trans (hs.get?_eq_none "enum" (by decide))
      | typed _ _ h => exact ⟨_, _, rfl, h, hcalls⟩

theorem denoteCalls_presence (accepts : Datum → Prop) (p : Presence) :
    denoteCalls length meaning (.validator accepts false)
      (if p = .optional then [.call "optional" []] else []) =
        .validator accepts (decide (p = .optional)) := by
  cases p <;> rfl

/-- A validator together with the calls for a type that asks for nothing else. -/
theorem denote_chain_calls {p : Presence} {base : Expr} {calls narrowing : List Call}
    {accepts P : Datum → Prop} (hd : fields.get? "default" = none)
    (hn : fields.get? "nullable" = none)
    (hbase : denote length meaning base = .validator accepts false)
    (hc : constraints fields type = .ok narrowing) (hP : Narrows length meaning narrowing P)
    (h : Validation.calls fields type p = .ok calls) : denote length meaning (chain base calls) =
      .validator (fun v => accepts v ∧ P v) (decide (p = .optional)) := by
  rw [denote_chain base (bare_calls h).isMethod, hbase]
  rw [calls_eq hd hn hc] at h
  cases h
  rw [denoteCalls_append, hP, denoteCalls_presence]

theorem denote_chain_presence {p : Presence} {base : Expr} {calls : List Call}
    {accepts : Datum → Prop} (hd : fields.get? "default" = none) (hn : fields.get? "nullable" = none)
    (hbase : denote length meaning base = .validator accepts false)
    (hc : constraints fields type = .ok []) (h : Validation.calls fields type p = .ok calls) :
    denote length meaning (chain base calls) = .validator accepts (decide (p = .optional)) := by
  have hnil : Narrows length meaning [] fun _ => True := Narrows.nil fun _ => trivial
  rw [denote_chain_calls hd hn hbase hc hnil h]
  simp

theorem means_of_tag {tag : String} (hs : Shaped fields (.text tag))
    (h : ∀ e, TagForm (Compiles scope) fields (.text tag) e →
      Captures length meaning schemas fields tag e) :
    Means length scope meaning schemas (.map fields mark) := by
  intro p e hc
  obtain ⟨base, calls, rfl, hform, hcalls⟩ := exists_of_compiles hs nofun hc
  cases hform with
  | tag _ htag =>
    obtain ⟨accepts, narrowing, P, hbase, hcon, hP, hiff⟩ := h base htag
    rw [denote_chain_calls (hs.get?_eq_none "default" (by decide))
      (hs.get?_eq_none "nullable" (by decide)) hbase hcon hP hcalls]
    congr 1
    funext v
    exact propext (hiff mark v)

/-- Of validators that mean their schemas, some accepts what is valid under some schema. -/
theorem exists_accepts_iff {parts : List Value} {es : List Expr} {v : Datum}
    (h : List.Forall₂ (fun part e => denote length meaning e =
      .validator (Valid length schemas part) false) parts es) :
    (∃ s ∈ es.map (denote length meaning), s.Accepts v) ↔
      ∃ part ∈ parts, Valid length schemas part v := by
  induction h with
  | nil => simp
  | cons he _ ih =>
    rw [List.map_cons, List.exists_mem_cons_iff, List.exists_mem_cons_iff, ih, he]
    rfl

theorem means_of_tags {first second : String} {rest : List String} {m : Option Nat}
    (hs : Shaped fields (.list ((first :: second :: rest).map .text) m))
    (h : ∀ tag ∈ first :: second :: rest,
      Means length scope meaning schemas (retyped fields (.text tag))) :
    Means length scope meaning schemas (.map fields mark) := by
  intro p e hc
  obtain ⟨base, calls, rfl, hform, hcalls⟩ := exists_of_compiles hs (by simp) hc
  cases hform with
  | tag ht => exact absurd rfl (ht _ _ _ _)
  | @tags _ _ _ _ es hes =>
    have hall : List.Forall₂ (fun schema e => denote length meaning e =
        .validator (Valid length schemas schema) false)
        ((first :: second :: rest).map fun tag => retyped fields (.text tag)) es := by
      have hes : List.Forall₂ (fun tag e => Compiles scope (retyped fields tag) .unstated e)
          ((first :: second :: rest).map .text) es := hes
      rw [List.forall₂_map_left_iff] at hes ⊢
      exact ((List.forall₂_and_left _ _).2 ⟨h, hes⟩).imp fun _ _ hm => denote_unstated hm.1 hm.2
    have hbase : denote length meaning (z "union" [.array es]) =
        .validator (Valid length schemas (.map fields mark)) false := by
      rw [denote_z _ (by simp [makers]), List.map_singleton, denote, denoteAll_eq_map]
      have haccepts : (fun v => ∃ s ∈ es.map (denote length meaning), s.Accepts v) =
          Valid length schemas (.map fields mark) := by
        funext v
        rw [exists_accepts_iff hall, valid_tags_iff hs.simple.ref hs.typed]
        simp
      exact congrArg (Sense.validator · false) haccepts
    exact denote_chain_presence (hs.get?_eq_none "default" (by decide))
      (hs.get?_eq_none "nullable" (by decide)) hbase rfl hcalls

/-- A list of one type stands for the type. -/
theorem means_of_sole {tag : String} {m : Option Nat} (hs : Shaped fields (.list [.text tag] m))
    (h : Means length scope meaning schemas (retyped fields (.text tag))) :
    Means length scope meaning schemas (.map fields mark) := by
  have hvalid : Valid length schemas (.map fields mark) =
      Valid length schemas (retyped fields (.text tag)) := by
    funext v
    rw [valid_tags_iff hs.simple.ref hs.typed]
    simp
  have hget : fields.get "type" = .list [.text tag] m := by simp [Fields.get, hs.typed]
  intro p e hc
  rw [hvalid]
  cases form_of_compiles hc with
  | declared ht => cases hs.simple.ref.symm.trans ht
  | followed ht => cases hs.simple.ref.symm.trans ht
  | plain _ hconcrete =>
    cases hconcrete with
    | sole htype hsole =>
      cases hget.symm.trans htype
      exact h p e hsole
    | chain htype => exact absurd hget (htype _ _)

/-- The validator of a schema with a type, if those of the schemas inside it mean what they should
    where they belong to the type. -/
theorem means_of_shaped (hs : Shaped fields type)
    (hm : HoldsInside (fun schema => schema.isNull = false ∧ Means length scope meaning schemas schema)
      fields type) : Means length scope meaning schemas (.map fields mark) := by
  cases hs.isType with
  | tag => exact means_of_tag hs fun e h => captures_of_tagForm hs hm h
  | @tags tags m hne htags _ =>
    have hretyped : ∀ tag ∈ tags, Means length scope meaning schemas (retyped fields (.text tag)) :=
      fun tag ht => means_of_tag (hs.retype (htags tag ht)) fun e h =>
        captures_of_tagForm (hs.retype (htags tag ht)) (hm.retype ht) h
    match tags, hne with
    | [tag], _ => exact means_of_sole hs (hretyped tag (List.mem_singleton_self tag))
    | first :: second :: rest, _ => exact means_of_tags hs hretyped

/-! ## Compositions -/

theorem denote_union {parts : List Value} {es : List Expr} (hne : parts ≠ [])
    (h : List.Forall₂ (fun part e => denote length meaning e =
      .validator (Valid length schemas part) false) parts es) :
    denote length meaning (union es) =
      .validator (fun v => ∃ part ∈ parts, Valid length schemas part v) false := by
  have haccepts : (fun v => ∃ s ∈ es.map (denote length meaning), s.Accepts v) =
      fun v => ∃ part ∈ parts, Valid length schemas part v :=
    funext fun v => propext (exists_accepts_iff h)
  unfold union
  split
  · next e =>
    cases h with
    | cons he hrest =>
      cases hrest
      rw [he]
      simp
  · rw [denote_z _ (by simp [makers]), List.map_singleton, denote, denoteAll_eq_map]
    exact congrArg (Sense.validator · false) haccepts

theorem denoteCalls_and {parts : List Value} {es : List Expr} (accepts : Datum → Prop)
    (h : List.Forall₂ (fun part e => denote length meaning e =
      .validator (Valid length schemas part) false) parts es) :
    denoteCalls length meaning (.validator accepts false) (es.map fun e => .call "and" [e]) =
      .validator (fun v => accepts v ∧ ∀ part ∈ parts, Valid length schemas part v) false := by
  induction h generalizing accepts with
  | nil => simp [denoteCalls]
  | @cons part e parts es he _ ih =>
    simp only [List.map_cons, denoteCalls, denoteAll, he]
    refine (ih fun v => accepts v ∧ Valid length schemas part v).trans ?_
    simp [and_assoc]

theorem denote_joinBy {parts : List Value} {es : List Expr} (hne : parts ≠ [])
    (h : List.Forall₂ (fun part e => denote length meaning e =
      .validator (Valid length schemas part) false) parts es) :
    denote length meaning (joinBy "and" es) =
      .validator (fun v => ∀ part ∈ parts, Valid length schemas part v) false := by
  cases h with
  | nil => exact absurd rfl hne
  | @cons part first parts rest he hrest =>
    have hmethods : ∀ call ∈ rest.map fun e => Call.call "and" [e], IsMethod call := by
      intro call hc
      obtain ⟨e, _, rfl⟩ := List.mem_map.1 hc
      exact ⟨"and", [e], rfl, by simp [makers]⟩
    rw [joinBy, denote_chain first hmethods, he, denoteCalls_and _ hrest]
    simp

theorem get_single {keyword : String} {value : Value} :
    Fields.get [(.text keyword, value)] keyword = value := by
  simp [Fields.get, Fields.get?]

theorem get?_single_of_ne {keyword other : String} {value : Value} (h : keyword ≠ other) :
    Fields.get? [(.text keyword, value)] other = none := by
  simp [Fields.get?, h]

theorem get_single_of_ne {keyword other : String} {value : Value} (h : keyword ≠ other) :
    Fields.get [(.text keyword, value)] other = .null := by
  rw [Fields.get, get?_single_of_ne h]
  rfl

/-- A schema whose only keyword is that of a composition. -/
theorem exists_of_compiles_single {keyword : String} {value : Value} {p : Presence} {e : Expr}
    (hk : keyword ∈ ["oneOf", "allOf"])
    (h : Compiles scope (.map [(.text keyword, value)] mark) p e) :
    ∃ base calls, e = chain base calls ∧
      BaseForm (Compiles scope) [(.text keyword, value)] .null base ∧
      Validation.calls [(.text keyword, value)] .null p = .ok calls := by
  have hne : ∀ {other}, other ∉ ["oneOf", "allOf"] → keyword ≠ other := by
    rintro other ho rfl
    exact ho hk
  have hplain : ConcreteForm (Compiles scope) [(.text keyword, value)] p e := by
    cases form_of_compiles h with
    | declared ht => cases (get?_single_of_ne (hne (by decide))).symm.trans ht
    | followed ht => cases (get?_single_of_ne (hne (by decide))).symm.trans ht
    | plain _ h => exact h
  cases hplain with
  | sole ht => cases (get_single_of_ne (hne (by decide))).symm.trans ht
  | chain _ _ hbase hcalls =>
    rw [get_single_of_ne (hne (by decide))] at hbase hcalls
    exact ⟨_, _, rfl, hbase, hcalls⟩

theorem denotes_of_membersForm {parts : List Value} {m : Option Nat} {es : List Expr}
    (h : ∀ part ∈ parts, Means length scope meaning schemas part)
    (hm : MembersForm (Compiles scope) (.list parts m) es) :
    List.Forall₂ (fun part e => denote length meaning e =
      .validator (Valid length schemas part) false) parts es := by
  obtain ⟨found, hp, hall⟩ := hm
  cases hp
  exact ((List.forall₂_and_left _ _).2 ⟨h, hall⟩).imp fun _ _ hm => denote_unstated hm.1 hm.2

/-- The validator of a schema whose only keyword is that of a composition, if what the composition is
    made into means the schema. -/
theorem means_of_single {keyword : String} {value : Value} (hk : keyword ∈ ["oneOf", "allOf"])
    (h : ∀ base, BaseForm (Compiles scope) [(.text keyword, value)] .null base →
      denote length meaning base =
        .validator (Valid length schemas (.map [(.text keyword, value)] mark)) false) :
    Means length scope meaning schemas (.map [(.text keyword, value)] mark) := by
  have hne : ∀ {other}, other ∉ ["oneOf", "allOf"] → keyword ≠ other := by
    rintro other ho rfl
    exact ho hk
  intro p e hc
  obtain ⟨base, calls, rfl, hform, hcalls⟩ := exists_of_compiles_single hk hc
  exact denote_chain_presence (get?_single_of_ne (hne (by decide)))
    (get?_single_of_ne (hne (by decide))) (h base hform) rfl hcalls

theorem means_of_oneOf {parts : List Value} {m : Option Nat} (hne : parts ≠ [])
    (h : ∀ part ∈ parts, Means length scope meaning schemas part) :
    Means length scope meaning schemas (.map [(.text "oneOf", .list parts m)] mark) := by
  have hfilled : (Value.list parts m).isVacant = false := by simpa [Value.isVacant] using hne
  refine means_of_single (by decide) fun base hform => ?_
  cases hform with
  | oneOf _ hm =>
    rw [get_single] at hm
    rw [denote_union hne (denotes_of_membersForm h hm)]
    exact congrArg (Sense.validator · false) (funext fun v => propext valid_oneOf_iff.symm)
  | allOf ho | anyOf ho =>
    rw [get_single, hfilled] at ho
    cases ho
  | enum hu | typed hu =>
    have ho := hu.oneOf
    rw [get_single, hfilled] at ho
    cases ho

theorem means_of_allOf {parts : List Value} {m : Option Nat} (hne : parts ≠ [])
    (h : ∀ part ∈ parts, Means length scope meaning schemas part) :
    Means length scope meaning schemas (.map [(.text "allOf", .list parts m)] mark) := by
  have hfilled : (Value.list parts m).isVacant = false := by simpa [Value.isVacant] using hne
  refine means_of_single (by decide) fun base hform => ?_
  cases hform with
  | oneOf ho =>
    rw [get_single_of_ne (by decide)] at ho
    cases ho
  | allOf _ _ hm =>
    rw [get_single] at hm
    rw [denote_joinBy hne (denotes_of_membersForm h hm)]
    exact congrArg (Sense.validator · false) (funext fun v => propext valid_allOf_iff.symm)
  | anyOf _ ha =>
    rw [get_single, hfilled] at ha
    cases ha
  | enum hu | typed hu =>
    have ha := hu.allOf
    rw [get_single, hfilled] at ha
    cases ha

/-! ## All elementary schemas -/

/-- The identifier that a reference to a known component is compiled to means the component. -/
def Declares (length : String → Nat) (scope : Scope) (meaning : String → Sense) (schemas : Fields)
    (known : String → Prop) : Prop :=
  ∀ name, known name → ∃ declaration component,
    scope.find? (.text (refTo name)) = some declaration ∧ schemas.get? name = some component ∧
      meaning declaration.identifier = .validator (Valid length schemas component) false

theorem means_of_reference {known : String → Prop} {schema : Value} {name : String}
    (hd : Declares length scope meaning schemas known)
    (ht : Reference.target? schema = some (.text (refTo name))) (hk : known name) :
    Means length scope meaning schemas schema := by
  intro p e hc
  obtain ⟨declaration, component, hf, hcomponent, hm⟩ := hd name hk
  have hvalid : Valid length schemas schema = Valid length schemas component :=
    funext fun v => propext (valid_reference_iff ht hcomponent)
  cases form_of_compiles hc with
  | declared ht' hf' =>
    cases ht.symm.trans ht'
    cases hf.symm.trans hf'
    have hpresence : presence [] p = if p = .optional then [.call "optional" []] else [] := by
      cases p <;> rfl
    rw [denote_chain _ (bare_presence [] p).isMethod, hpresence, denote, hm, denoteCalls_presence,
      hvalid]
  | followed ht' hf' =>
    cases ht.symm.trans ht'
    cases hf.symm.trans hf'
  | plain ht' => cases ht.symm.trans ht'

/-- Every validator of an elementary schema means the schema. -/
theorem means_of_elementary {known : String → Prop} {schema : Value}
    (hd : Declares length scope meaning schemas known) (h : Elementary known schema) :
    Means length scope meaning schemas schema := by
  induction h with
  | reference ht hk => exact means_of_reference hd ht hk
  | oneOf hne _ ih => exact means_of_oneOf hne ih
  | allOf hne _ ih => exact means_of_allOf hne ih
  | typed hs hitems hproperties hadditional ihi ihp iha =>
    refine means_of_shaped hs ⟨fun ha items hi => ?_, fun ho field hf => ?_, fun ho other m hother => ?_⟩
    · exact ⟨(hitems ha items hi).isNull, ihi ha items hi⟩
    · exact ⟨(hproperties ho field hf).isNull, ihp ho field hf⟩
    · exact ⟨rfl, iha ho other m hother⟩

end RestContract.Compile
