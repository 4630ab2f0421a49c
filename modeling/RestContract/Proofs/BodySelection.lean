import RestContract.Proofs.RouterKeys
import RestContract.Proofs.ValueMeaning

/-!
# The body of an operation

Which entry of a content map describes the body of an operation, and in which content type the body is
sent. The first form of JSON is taken, wherever it stands; it is sent as JSON, whatever its name. Only
where there is none, the first supported type is taken, and the body is sent in it. A content map that
has neither makes the run fail with its first key.
-/

namespace RestContract

namespace Contract

open Schema

/-! ## Content types -/

/-- Whether a content type is a form of JSON. -/
def IsJsonType (name : String) : Prop := ∃ before after, name = before ++ "json" ++ after

instance (name : String) : Decidable (IsJsonType name) :=
  decidable_of_iff (Text.occurs "json" name = true) Text.occurs_eq_true_iff

/-- A key of a content map that is a content type, but no form of JSON. -/
def IsOtherType (key : Scalar) : Prop := ∃ name, key = .text name ∧ ¬ IsJsonType name

/-- A key of a content map that is a content type in which no body can be sent. -/
def IsUnsupportedType (key : Scalar) : Prop :=
  ∃ name, key = .text name ∧ ¬ IsJsonType name ∧ name ∉ bodyTypes

/-- The name and the value of the entry of a content map that describes a body, and the content type
    that the body is sent in. -/
inductive Chosen : Fields → String → Value → String → Prop
  /-- The first form of JSON is sent as JSON. -/
  | json {before after : Fields} {name : String} {media : Value}
    (hb : ∀ entry ∈ before, IsOtherType entry.1) (hn : IsJsonType name) :
    Chosen (before ++ (.text name, media) :: after) name media jsonType
  /-- If there is none, the first supported type is sent as such. -/
  | supported {before after : Fields} {name : String} {media : Value}
    (ha : ∀ entry ∈ before ++ (.text name, media) :: after, IsOtherType entry.1)
    (hb : ∀ entry ∈ before, ∀ other ∈ bodyTypes, entry.1 ≠ .text other) (hn : name ∈ bodyTypes) :
    Chosen (before ++ (.text name, media) :: after) name media name

/-- The validator that an entry of a content map gives: that of its schema, or of nothing if it has
    none. -/
inductive Describes (scope : Scope) (media : Value) : Expr → Prop
  | schema {fields : Fields} {mark : Option Nat} {e : Expr} (hm : media.orEmptyMap = .map fields mark)
    (hs : (fields.get "schema").isNull = false)
    (hc : (Compile.compile scope (fields.get "schema") .required).result = .ok e) :
    Describes scope media e
  | nothing {fields : Fields} {mark : Option Nat} (hm : media.orEmptyMap = .map fields mark)
    (hs : (fields.get "schema").isNull = true) : Describes scope media nothing

/-- The keys of a content map. -/
def keysOf (content : Fields) : List Value := content.map fun (key, _) => .scalar key

variable {content : Fields} {name contentType : String} {media : Value}

theorem asParts_map (content : Fields) (mark : Option Nat) :
    (Value.map content mark).asParts = .ok (keysOf content) := rfl

theorem Chosen.mem_bodyTypes (h : Chosen content name media contentType) :
    contentType ∈ bodyTypes := by
  cases h with
  | json => exact List.mem_cons_self
  | supported _ _ hn => exact hn

/-! ## Searching the keys -/

theorem namesJson_scalar {key : Scalar} {b : Bool} : namesJson (.scalar key) = .ok b ↔
    ∃ name, key = .text name ∧ Text.occurs "json" name = b := by
  cases key <;> simp [namesJson]

theorem namesJson_eq_true_iff {key : Scalar} : namesJson (.scalar key) = .ok true ↔
    ∃ name, key = .text name ∧ IsJsonType name := by
  simp only [namesJson_scalar, Text.occurs_eq_true_iff, IsJsonType]

theorem namesJson_eq_false_iff {key : Scalar} : namesJson (.scalar key) = .ok false ↔
    IsOtherType key := by
  simp only [namesJson_scalar, IsOtherType, IsJsonType, ← Text.occurs_eq_true_iff, Bool.not_eq_true]

theorem firstJson_eq_none_iff {keys : List Value} :
    firstJson keys = .ok none ↔ ∀ key ∈ keys, namesJson key = .ok false := by
  induction keys with
  | nil => simp [firstJson]
  | cons key rest ih =>
    rw [List.forall_mem_cons, ← ih]
    constructor
    · intro h
      obtain ⟨found, hf, h⟩ := exists_of_bind_eq_ok h
      cases found with
      | true => cases h
      | false => exact ⟨hf, h⟩
    · rintro ⟨hf, h⟩
      rw [firstJson, hf]
      exact h

theorem firstJson_eq_some_iff {keys : List Value} {key : Value} : firstJson keys = .ok (some key) ↔
    ∃ before after, keys = before ++ key :: after ∧
      (∀ other ∈ before, namesJson other = .ok false) ∧ namesJson key = .ok true := by
  induction keys with
  | nil => simp [firstJson]
  | cons first rest ih =>
    constructor
    · intro h
      obtain ⟨found, hf, h⟩ := exists_of_bind_eq_ok h
      cases found with
      | true =>
        cases h
        exact ⟨[], rest, rfl, by simp, hf⟩
      | false =>
        obtain ⟨before, after, rfl, hb, hk⟩ := ih.1 h
        exact ⟨first :: before, after, rfl, List.forall_mem_cons.2 ⟨hf, hb⟩, hk⟩
    · rintro ⟨before, after, heq, hb, hk⟩
      cases before with
      | nil =>
        cases heq
        rw [firstJson, hk]
        rfl
      | cons other before =>
        cases heq
        obtain ⟨hf, hb⟩ := List.forall_mem_cons.1 hb
        rw [firstJson, hf]
        exact ih.2 ⟨before, after, rfl, hb, hk⟩

/-- A key that stands among those of a content map is the key of an entry. -/
theorem exists_split_of_keysOf {before after : List Value} {key : Value}
    (h : keysOf content = before ++ key :: after) : ∃ front entry back,
      content = front ++ entry :: back ∧ keysOf front = before ∧ .scalar entry.1 = key := by
  obtain ⟨front, others, rfl, hfront, hothers⟩ := List.map_eq_append_iff.1 h
  obtain ⟨entry, back, rfl, hentry, _⟩ := List.map_eq_cons_iff.1 hothers
  exact ⟨front, entry, back, rfl, hfront, hentry⟩

theorem forall_mem_keysOf {P : Value → Prop} :
    (∀ key ∈ keysOf content, P key) ↔ ∀ entry ∈ content, P (.scalar entry.1) := by
  rw [keysOf, List.forall_mem_map]

theorem any_isText_iff {key : Scalar} :
    bodyTypes.any (Value.scalar key).isText = true ↔ ∃ name ∈ bodyTypes, key = .text name := by
  rw [List.any_eq_true]
  cases key <;> simp [Value.isText]

theorem any_isText_eq_false_iff {key : Scalar} :
    bodyTypes.any (Value.scalar key).isText = false ↔ ∀ name ∈ bodyTypes, key ≠ .text name := by
  rw [← Bool.not_eq_true, any_isText_iff]
  simp

/-- The first supported type among the keys of a content map. -/
theorem find?_bodyTypes_eq_some_iff {key : Value} :
    (keysOf content).find? (fun key => bodyTypes.any key.isText) = some key ↔
      ∃ before name media after, content = before ++ (.text name, media) :: after ∧
        key = .text name ∧ name ∈ bodyTypes ∧
        ∀ entry ∈ before, ∀ other ∈ bodyTypes, entry.1 ≠ .text other := by
  rw [List.find?_eq_some_iff_append]
  constructor
  · rintro ⟨hk, before, after, heq, hb⟩
    obtain ⟨front, ⟨entry, media⟩, back, rfl, rfl, rfl⟩ := exists_split_of_keysOf heq
    obtain ⟨name, hn, rfl⟩ := any_isText_iff.1 hk
    rw [forall_mem_keysOf] at hb
    refine ⟨front, name, media, back, rfl, rfl, hn, fun entry he => ?_⟩
    exact any_isText_eq_false_iff.1 (by simpa using hb entry he)
  · rintro ⟨before, name, media, after, rfl, rfl, hn, hb⟩
    refine ⟨any_isText_iff.2 ⟨name, hn, rfl⟩, keysOf before, keysOf after, by simp [keysOf], ?_⟩
    rw [forall_mem_keysOf]
    intro entry he
    simpa using any_isText_eq_false_iff.2 (hb entry he)

/-- No key of a content map is a form of JSON. -/
theorem firstJson_keysOf_eq_none_iff :
    firstJson (keysOf content) = .ok none ↔ ∀ entry ∈ content, IsOtherType entry.1 := by
  simp only [firstJson_eq_none_iff, forall_mem_keysOf, namesJson_eq_false_iff]

/-- The first form of JSON among the keys of a content map. -/
theorem firstJson_keysOf_eq_some_iff {key : Value} :
    firstJson (keysOf content) = .ok (some key) ↔
      ∃ before name media after, content = before ++ (.text name, media) :: after ∧
        key = .text name ∧ IsJsonType name ∧ ∀ entry ∈ before, IsOtherType entry.1 := by
  rw [firstJson_eq_some_iff]
  constructor
  · rintro ⟨before, after, heq, hb, hk⟩
    obtain ⟨front, ⟨entry, media⟩, back, rfl, rfl, rfl⟩ := exists_split_of_keysOf heq
    obtain ⟨name, rfl, hn⟩ := namesJson_eq_true_iff.1 hk
    simp only [forall_mem_keysOf, namesJson_eq_false_iff] at hb
    exact ⟨front, name, media, back, rfl, rfl, hn, hb⟩
  · rintro ⟨before, name, media, after, rfl, rfl, hn, hb⟩
    refine ⟨keysOf before, keysOf after, by simp [keysOf], ?_, ?_⟩
    · simpa only [forall_mem_keysOf, namesJson_eq_false_iff] using hb
    · exact namesJson_eq_true_iff.2 ⟨name, rfl, hn⟩

theorem find?_bodyTypes_eq_none (h : ∀ entry ∈ content, IsUnsupportedType entry.1) :
    (keysOf content).find? (fun key => bodyTypes.any key.isText) = none := by
  rw [List.find?_eq_none, forall_mem_keysOf]
  intro entry he hany
  obtain ⟨name, heq, _, hs⟩ := h entry he
  obtain ⟨found, hm, hf⟩ := any_isText_iff.1 hany
  rw [heq] at hf
  cases hf
  exact hs hm

/-- The entry that describes a body is selected. -/
theorem Chosen.selectBody_eq (h : Chosen content name media contentType) :
    selectBody (keysOf content) = .ok (.text name, contentType) := by
  cases h with
  | @json before after _ media hb hn =>
    have hfirst := firstJson_keysOf_eq_some_iff.2 ⟨before, name, media, after, rfl, rfl, hn, hb⟩
    rw [selectBody, hfirst]
    rfl
  | @supported before after _ media ha hb hn =>
    have hfind := find?_bodyTypes_eq_some_iff.2 ⟨before, name, media, after, rfl, rfl, hn, hb⟩
    rw [selectBody, firstJson_keysOf_eq_none_iff.2 ha, ok_bind]
    dsimp only
    rw [hfind]
    rfl

/-- What is selected from a content map is the entry that describes the body. -/
theorem selectBody_eq_ok_iff {key : Value} : selectBody (keysOf content) = .ok (key, contentType) ↔
    ∃ name media, key = .text name ∧ Chosen content name media contentType := by
  constructor
  · intro h
    obtain ⟨found, hf, h⟩ := exists_of_bind_eq_ok h
    cases found with
    | some found =>
      cases h
      obtain ⟨before, name, media, after, rfl, rfl, hn, hb⟩ := firstJson_keysOf_eq_some_iff.1 hf
      exact ⟨name, media, rfl, .json hb hn⟩
    | none =>
      have hall := firstJson_keysOf_eq_none_iff.1 hf
      dsimp only at h
      split at h
      · next hfind =>
        cases h
        obtain ⟨before, name, media, after, rfl, rfl, hn, hb⟩ := find?_bodyTypes_eq_some_iff.1 hfind
        exact ⟨name, media, rfl, .supported hall hb hn⟩
      · obtain ⟨_, _, h⟩ := exists_of_bind_eq_ok h
        cases h
  · rintro ⟨name, media, rfl, h⟩
    exact h.selectBody_eq

/-- The search fails with the first key where there is neither a form of JSON nor a supported type. -/
theorem selectBody_of_unsupported {rest : Fields}
    (h : ∀ entry ∈ (Scalar.text name, media) :: rest, IsUnsupportedType entry.1) :
    selectBody (keysOf ((.text name, media) :: rest)) = .error (.bodyContentType name) := by
  have hother : ∀ entry ∈ (Scalar.text name, media) :: rest, IsOtherType entry.1 := by
    intro entry he
    obtain ⟨other, heq, hj, _⟩ := h entry he
    exact ⟨other, heq, hj⟩
  rw [selectBody, firstJson_keysOf_eq_none_iff.2 hother, ok_bind]
  dsimp only
  rw [find?_bodyTypes_eq_none h]
  rfl

/-! ## The entry that is selected -/

/-- Under the selected key stands the value of the selected entry. -/
theorem Chosen.find? (h : Chosen content name media contentType) :
    Fields.find? content (.text name) = some media := by
  cases h with
  | json hb hn =>
    apply Fields.find?_append_cons
    intro entry he heq
    obtain ⟨other, hother, hj⟩ := hb entry he
    rw [heq] at hother
    cases hother
    exact hj hn
  | supported _ hb hn => exact Fields.find?_append_cons fun entry he => hb entry he _ hn

/-- Whatever is searched, the key that is selected is no position in a list. -/
theorem ne_position_of_selectBody {keys : List Value} {key : Value}
    (h : selectBody keys = .ok (key, contentType)) :
    (∀ n, key ≠ .int n) ∧ ∀ b, key ≠ .bool b := by
  obtain ⟨found, hf, h⟩ := exists_of_bind_eq_ok h
  cases found with
  | some found =>
    cases h
    obtain ⟨_, _, _, _, hk⟩ := firstJson_eq_some_iff.1 hf
    constructor
    · rintro n rfl
      cases hk
    · rintro b rfl
      cases hk
  | none =>
    dsimp only at h
    split at h
    · next hfind =>
      cases h
      obtain ⟨hany, _⟩ := List.find?_eq_some_iff_append.1 hfind
      obtain ⟨name, _, hname⟩ := List.any_eq_true.1 hany
      rw [Compile.eq_text_of_isText hname]
      simp
    · obtain ⟨_, _, h⟩ := exists_of_bind_eq_ok h
      cases h

/-- Only a map has a part under a key that is no position. -/
theorem exists_map_of_part {content key found : Value} (h : content.part key = .ok found)
    (hn : ∀ n, key ≠ .int n) (hb : ∀ b, key ≠ .bool b) : ∃ fields mark, content = .map fields mark := by
  unfold Value.part at h
  split at h
  · exact ⟨_, _, rfl⟩
  · exact absurd rfl (hn _)
  · exact absurd rfl (hb _)
  · exact absurd rfl (hn _)
  · exact absurd rfl (hb _)
  · cases h

section

variable {scope : Scope} {e : Expr} {operation : Operation} {fields : Fields}

theorem result_compileOrNothing_eq_ok_iff {schema : Value} :
    (compileOrNothing scope schema).result = .ok e ↔
      schema.isNull = true ∧ e = nothing ∨
        schema.isNull = false ∧ (Compile.compile scope schema .required).result = .ok e := by
  unfold compileOrNothing
  cases schema.isNull with
  | true => simp [eq_comm]
  | false => simp

theorem describes_iff : Describes scope media e ↔ ∃ (found : Fields) (mark : Option Nat),
    media.orEmptyMap = .map found mark ∧
      (compileOrNothing scope (found.get "schema")).result = .ok e := by
  constructor
  · rintro (⟨hm, hs, hc⟩ | ⟨hm, hs⟩)
    · exact ⟨_, _, hm, result_compileOrNothing_eq_ok_iff.2 (.inr ⟨hs, hc⟩)⟩
    · exact ⟨_, _, hm, result_compileOrNothing_eq_ok_iff.2 (.inl ⟨hs, rfl⟩)⟩
  · rintro ⟨found, mark, hm, h⟩
    rcases result_compileOrNothing_eq_ok_iff.1 h with ⟨hs, rfl⟩ | ⟨hs, hc⟩
    · exact .nothing hm hs
    · exact .schema hm hs hc

theorem asFields_eq_ok_iff {value : Value} :
    value.asFields = .ok fields ↔ ∃ mark, value = .map fields mark := by
  cases value <;> simp [Value.asFields]

theorem schemaUnder_eq_ok_iff {content key schema : Value} : schemaUnder content key = .ok schema ↔
    ∃ (media : Value) (found : Fields) (mark : Option Nat), content.part key = .ok media ∧
      media.orEmptyMap = .map found mark ∧ schema = found.get "schema" := by
  constructor
  · intro h
    obtain ⟨media, hm, h⟩ := exists_of_bind_eq_ok h
    obtain ⟨found, hf, h⟩ := exists_of_bind_eq_ok h
    cases h
    obtain ⟨mark, hmap⟩ := asFields_eq_ok_iff.1 hf
    exact ⟨media, found, mark, hm, hmap, rfl⟩
  · rintro ⟨media, found, mark, hm, hmap, rfl⟩
    rw [schemaUnder, hm, ok_bind, hmap]
    rfl

/-- The run over a content map that has entries. -/
theorem result_requestBody_of_map {mark : Option Nat} (hc : fields.get "content" = .map content mark)
    (hn : content ≠ []) : (requestBody scope operation fields).result = (do
      let (key, contentType) ← selectBody (keysOf content)
      let schema ← schemaUnder (.map content mark) key
      return (← (compileOrNothing scope schema).result, contentType)) := by
  have hvacant : (Value.map content mark).isVacant = false := by simpa [Value.isVacant] using hn
  unfold requestBody
  simp only [hc, hvacant, Bool.false_eq_true, if_false, asParts_map, Traced.result_bind,
    Traced.result_liftM, ok_bind, Traced.result_pure]
  rfl

/-- A request body has a validator exactly if an entry of its content is selected and described. -/
theorem result_requestBody_eq_ok_iff :
    (requestBody scope operation fields).result = .ok (e, contentType) ↔
      ∃ content mark name media, fields.get "content" = .map content mark ∧
        Chosen content name media contentType ∧ Describes scope media e := by
  constructor
  · intro h
    unfold requestBody at h
    dsimp only at h
    split at h
    · cases h
    obtain ⟨keys, hkeys, h⟩ := Traced.exists_of_result_bind h
    obtain ⟨⟨key, selected⟩, hsel, h⟩ := Traced.exists_of_result_bind h
    obtain ⟨schema, hschema, h⟩ := Traced.exists_of_result_bind h
    obtain ⟨found, hfound, h⟩ := Traced.exists_of_result_bind h
    cases h
    simp only [Traced.result_liftM] at hkeys hsel hschema
    obtain ⟨media, others, mark', hm, hmap, rfl⟩ := schemaUnder_eq_ok_iff.1 hschema
    -- The content is a map, since a list or a text has no part under a key that is selected.
    obtain ⟨hn, hb⟩ := ne_position_of_selectBody hsel
    obtain ⟨content, mark, hc⟩ := exists_map_of_part hm hn hb
    rw [hc] at hkeys hm
    cases hkeys
    obtain ⟨name, value, rfl, hchosen⟩ := selectBody_eq_ok_iff.1 hsel
    rw [Value.part, hchosen.find?] at hm
    cases hm
    exact ⟨content, mark, name, media, hc, hchosen, describes_iff.2 ⟨others, mark', hmap, hfound⟩⟩
  · rintro ⟨content, mark, name, media, hc, hchosen, hd⟩
    obtain ⟨found, mark', hmap, hfound⟩ := describes_iff.1 hd
    have hn : content ≠ [] := by cases hchosen <;> simp
    have hpart : (Value.map content mark).part (.text name) = .ok media := by
      rw [Value.part, hchosen.find?]
    have hschema := schemaUnder_eq_ok_iff.2 ⟨media, found, mark', hpart, hmap, rfl⟩
    rw [result_requestBody_of_map hc hn, hchosen.selectBody_eq, ok_bind]
    simp only [hschema, ok_bind, hfound]
    rfl

/-- A content map of other types makes the run fail with its first key. -/
theorem result_requestBody_of_unsupported {rest : Fields} {mark : Option Nat}
    (hc : fields.get "content" = .map ((.text name, media) :: rest) mark)
    (h : ∀ entry ∈ (Scalar.text name, media) :: rest, IsUnsupportedType entry.1) :
    (requestBody scope operation fields).result = .error (.bodyContentType name) := by
  rw [result_requestBody_of_map hc (List.cons_ne_nil _ _), selectBody_of_unsupported h]
  rfl

theorem result_body_of_some (h : operation.requestBody = some fields) :
    (body scope operation).result = (do
      let (e, contentType) ← (requestBody scope operation fields).result
      return (some e, some contentType)) := by
  rw [body, h]
  simp only [Traced.result_bind]
  rfl

theorem result_body_of_none (h : operation.requestBody = none) : (body scope operation).result =
    .ok (if operation.method = .get then none else some nothing, none) := by
  rw [body, h]
  dsimp only
  split <;> rfl

theorem result_body_of_assemble {entry : Entry} (h : (assemble scope operation).result = .ok entry) :
    (body scope operation).result = .ok (entry.body, entry.contentType) := by
  obtain ⟨_, _, h⟩ := Traced.exists_of_result_bind h
  obtain ⟨found, hb, h⟩ := Traced.exists_of_result_bind h
  obtain ⟨_, _, h⟩ := Traced.exists_of_result_bind h
  cases h
  exact hb

end

/-! ## Bodies of operations -/

/-- The entry of an operation that could be written has no body exactly if the operation reads and has
    no request body, and no content type exactly if the operation has no request body; its content type
    is a supported one. The body is described by the entry of the content map that is selected, and
    sent in the content type that goes with it. If the parameters can be written and the content of a
    request body has nothing but keys of other types, the run fails with the first of them. -/
theorem body_selected (scope : Scope) (operation : Operation) :
    (∀ entry, (assemble scope operation).result = .ok entry →
      (entry.body = none ↔ operation.method = .get ∧ operation.requestBody = none) ∧
      (entry.contentType = none ↔ operation.requestBody = none) ∧
      (∀ contentType, entry.contentType = some contentType → contentType ∈ bodyTypes) ∧
      ∀ fields, operation.requestBody = some fields → ∃ content mark name media contentType e,
        fields.get "content" = .map content mark ∧ Chosen content name media contentType ∧
          Describes scope media e ∧ entry.body = some e ∧ entry.contentType = some contentType) ∧
    ∀ fields name media rest mark parameters, operation.requestBody = some fields →
      fields.get "content" = .map ((.text name, media) :: rest) mark →
      (∀ entry ∈ (Scalar.text name, media) :: rest, IsUnsupportedType entry.1) →
      (operation.parameters.mapM (placed scope operation)).result = .ok parameters →
      (assemble scope operation).result = .error (.bodyContentType name) := by
  constructor
  · intro entry h
    have hbody := result_body_of_assemble h
    cases hr : operation.requestBody with
    | none =>
      rw [result_body_of_none hr] at hbody
      obtain ⟨hb, ht⟩ := Prod.mk.inj (Except.ok.inj hbody)
      simp [← hb, ← ht]
    | some fields =>
      rw [result_body_of_some hr] at hbody
      obtain ⟨⟨e, contentType⟩, hfound, hpair⟩ := exists_of_bind_eq_ok hbody
      obtain ⟨hb, ht⟩ := Prod.mk.inj (Except.ok.inj hpair)
      obtain ⟨content, mark, name, media, hc, hchosen, hd⟩ := result_requestBody_eq_ok_iff.1 hfound
      refine ⟨by simp [← hb], by simp [← ht], ?_, ?_⟩
      · rintro found hf
        rw [← ht] at hf
        cases hf
        exact hchosen.mem_bodyTypes
      · rintro _ hr
        cases hr
        exact ⟨content, mark, name, media, contentType, e, hc, hchosen, hd, hb.symm, ht.symm⟩
  · intro fields name media rest mark parameters hr hc hall hp
    have hfails : (requestBody scope operation fields).result = .error (.bodyContentType name) :=
      result_requestBody_of_unsupported hc hall
    simp only [assemble, Traced.result_bind, hp, ok_bind, result_body_of_some hr, hfails]
    rfl

/-- A request body of some content. -/
def bodyOf (content : Fields) : Fields := textFields [("content", .ofFields content)]

/-- An operation that sends a body of some content. -/
def sending (content : Fields) : Operation where
  method := .post
  path := "/items"
  operationId := none
  summary := none
  description := none
  parameters := []
  requestBody := some (bodyOf content)
  responses := []

def mediaOf (type : String) : Value := .object [("schema", .object [("type", .text type)])]

/-- A form of JSON between a type that is not supported and one that is. -/
def vendorContent : Fields := textFields [("text/plain", mediaOf "string"),
  ("application/vnd.api+json", mediaOf "number"), ("multipart/form-data", mediaOf "object")]

/-- Types that are not supported. -/
def plainContent : Fields :=
  textFields [("text/plain", mediaOf "string"), ("image/png", mediaOf "string")]

def vendorEntry : Entry where
  name := (sending vendorContent).contractName
  method := Method.post.upperName
  path := contractPath "/items"
  summary := none
  headers := none
  query := none
  pathParams := none
  body := some (Expr.z "number" [])
  contentType := some jsonType
  responses := []

theorem chosen_vendorContent :
    Chosen vendorContent "application/vnd.api+json" (mediaOf "number") jsonType := by
  have hb : ∀ entry ∈ [(Scalar.text "text/plain", mediaOf "string")], IsOtherType entry.1 :=
    List.forall_mem_singleton.2 ⟨_, rfl, by decide +kernel⟩
  exact .json hb (by decide +kernel)

theorem assemble_vendorContent :
    (assemble Scope.bare (sending vendorContent)).result = .ok vendorEntry := by
  have hparameters : ((sending vendorContent).parameters.mapM
      (placed Scope.bare (sending vendorContent))).result = .ok [] := rfl
  have hdescribed : Describes Scope.bare (mediaOf "number") (Expr.z "number" []) :=
    .schema rfl rfl rfl
  have hbody : (body Scope.bare (sending vendorContent)).result =
      .ok (some (Expr.z "number" []), some jsonType) := by
    rw [result_body_of_some rfl, result_requestBody_eq_ok_iff.2
      ⟨vendorContent, none, _, _, rfl, chosen_vendorContent, hdescribed⟩]
    rfl
  have hresponses : (responses Scope.bare (sending vendorContent)).result = .ok [] := by
    simp [responses, sending, expand, ofKind, sortByCode]
  simp only [assemble, Traced.result_bind, hparameters, ok_bind, hbody, hresponses]
  rfl

theorem isUnsupportedType_of_mem : ∀ entry ∈ plainContent, IsUnsupportedType entry.1 := by
  have htext : IsUnsupportedType (.text "text/plain") := ⟨_, rfl, by decide +kernel, by decide⟩
  have himage : IsUnsupportedType (.text "image/png") := ⟨_, rfl, by decide +kernel, by decide⟩
  simpa [plainContent, textFields] using ⟨htext, himage⟩

/-- A form of JSON is taken although another type stands before it; other types alone are refused. -/
theorem body_selected_vendor :
    (assemble Scope.bare (sending vendorContent)).result = .ok vendorEntry ∧
      vendorEntry.body ≠ none ∧ vendorEntry.contentType ≠ none ∧
      (∃ content mark name media contentType e,
        (bodyOf vendorContent).get "content" = .map content mark ∧
        Chosen content name media contentType ∧ Describes Scope.bare media e ∧
        vendorEntry.body = some e ∧ vendorEntry.contentType = some contentType) ∧
      (∀ entry ∈ plainContent, IsUnsupportedType entry.1) ∧
      (assemble Scope.bare (sending plainContent)).result = .error (.bodyContentType "text/plain") := by
  have hassembled := assemble_vendorContent
  obtain ⟨hbody, htype, _, hselected⟩ :=
    (body_selected Scope.bare (sending vendorContent)).1 vendorEntry hassembled
  have hrefused := (body_selected Scope.bare (sending plainContent)).2 (bodyOf plainContent)
    "text/plain" (mediaOf "string") (textFields [("image/png", mediaOf "string")]) none [] rfl rfl
    isUnsupportedType_of_mem rfl
  refine ⟨hassembled, ?_, ?_, hselected _ rfl, isUnsupportedType_of_mem, hrefused⟩
  · intro h
    cases (hbody.1 h).1
  · intro h
    cases htype.1 h

end Contract

end RestContract
