import RestContract.Proofs.ForeseenRuns
import RestContract.Proofs.ReferenceKinds

/-!
# Parts of the record of an operation

The record of an operation holds its parameters, its request body and its responses as objects whose
keys are texts. Each is a copy of an object that was written in the document or that a reference has
led to. That object is no reference. Its copy can look like one all the same: where a key is bytes,
the record takes it for the text that the bytes encode.
-/

namespace RestContract

/-! ## Keys of a record -/

namespace Fields

theorem has_eq_true_iff {fields : Fields} {name : String} :
    fields.has name = true ↔ .text name ∈ fields.map Prod.fst := by
  induction fields with
  | nil => simp [has, get?]
  | cons field rest ih =>
    obtain ⟨key, value⟩ := field
    rw [has, get?, List.map_cons, List.mem_cons, ← ih, has]
    by_cases hk : key = .text name
    · simp [hk]
    · simp [hk, Ne.symm hk]

/-- The keys of the fields are texts. -/
def Textual (fields : List (Scalar × Value)) : Prop :=
  ∀ field ∈ fields, ∃ name, field.1 = .text name

theorem mem_insert_iff {fields : Fields} (h : Textual fields) {key : Scalar} {name : String}
    (value : Value) : key ∈ (fields.insert (.text name) value).map Prod.fst ↔
      key ∈ fields.map Prod.fst ∨ key = .text name := by
  induction fields with
  | nil => simp [insert]
  | cons field rest ih =>
    obtain ⟨⟨first, hfirst⟩, hrest⟩ := List.forall_mem_cons.1 h
    obtain ⟨head, old⟩ := field
    dsimp only at hfirst
    subst hfirst
    rw [insert]
    by_cases heq : (Scalar.text first).same (.text name) = true
    · have hname := Scalar.same_text.1 heq
      rw [if_pos heq]
      simp only [List.map_cons, List.mem_cons, hname]
      tauto
    · rw [if_neg heq, List.map_cons, List.mem_cons, ih hrest, List.map_cons, List.mem_cons, or_assoc]

theorem Textual.insert {fields : Fields} (h : Textual fields) (name : String) (value : Value) :
    Textual (fields.insert (.text name) value) := by
  intro field hf
  have hkey := (mem_insert_iff h value).1 (List.mem_map_of_mem hf)
  rcases hkey with hkey | hkey
  · obtain ⟨other, ho, heq⟩ := List.mem_map.1 hkey
    obtain ⟨found, hfound⟩ := h other ho
    exact ⟨found, heq ▸ hfound⟩
  · exact ⟨name, hkey⟩

theorem mem_foldl_insert_iff {pairs : List (Scalar × Value)} (hp : Textual pairs) {fields : Fields}
    (h : Textual fields) {key : Scalar} :
    key ∈ (pairs.foldl (fun fields (key, value) => fields.insert key value) fields).map Prod.fst ↔
      key ∈ fields.map Prod.fst ∨ key ∈ pairs.map Prod.fst := by
  induction pairs generalizing fields with
  | nil => simp
  | cons pair rest ih =>
    obtain ⟨⟨name, hname⟩, hrest⟩ := List.forall_mem_cons.1 hp
    obtain ⟨first, value⟩ := pair
    dsimp only at hname
    subst hname
    rw [List.foldl_cons, ih hrest (h.insert name value), mem_insert_iff h, List.map_cons,
      List.mem_cons, or_assoc]

/-- The fields under the texts that a record takes their keys for. -/
def renamed? (fields : Fields) : Option (List (Scalar × Value)) :=
  fields.mapM fun (key, value) => key.recordText?.map fun name => (Scalar.text name, value)

theorem keys_renamed {fields : Fields} {pairs : List (Scalar × Value)}
    (h : renamed? fields = some pairs) : Textual pairs ∧ ∀ name, .text name ∈ pairs.map Prod.fst ↔
      ∃ key ∈ fields.map Prod.fst, key.recordText? = some name := by
  induction fields generalizing pairs with
  | nil =>
    cases h
    simp [Textual]
  | cons field rest ih =>
    obtain ⟨key, value⟩ := field
    rw [renamed?, List.mapM_cons] at h
    obtain ⟨pair, hpair, h⟩ := Option.bind_eq_some_iff.1 h
    obtain ⟨others, ho, h⟩ := Option.bind_eq_some_iff.1 h
    obtain ⟨name, hname, rfl⟩ := Option.map_eq_some_iff.1 hpair
    cases h
    obtain ⟨htextual, hkeys⟩ := ih ho
    refine ⟨List.forall_mem_cons.2 ⟨⟨name, rfl⟩, htextual⟩, fun other => ?_⟩
    simp only [List.map_cons, List.mem_cons, hkeys, exists_eq_or_imp, hname, Option.some.injEq,
      Scalar.text.injEq, eq_comm (a := other)]

/-- A record has the texts that it takes the keys of an object for. -/
theorem mem_record_iff {fields record : Fields} (h : fields.recordFields? = some record)
    (name : String) : .text name ∈ record.map Prod.fst ↔
      ∃ key ∈ fields.map Prod.fst, key.recordText? = some name := by
  unfold recordFields? at h
  split at h
  · next hk =>
    cases h
    constructor
    · intro hm
      exact ⟨_, hm, rfl⟩
    · rintro ⟨key, hm, hname⟩
      obtain ⟨field, hf, rfl⟩ := List.mem_map.1 hm
      obtain ⟨own, hown⟩ := exists_text_of_hasTextKeys hk hf
      rw [hown, Scalar.recordText?, Option.some.injEq] at hname
      rwa [← hname, ← hown]
  · obtain ⟨pairs, hp, h⟩ := Option.bind_eq_some_iff.1 h
    cases h
    obtain ⟨htextual, hkeys⟩ := keys_renamed hp
    rw [ofPairs, mem_foldl_insert_iff htextual (by simp [Textual]), ← hkeys]
    simp

end Fields

/-! ## Copies of objects -/

/-- Bytes below the first one that takes more than one encode the characters of their numbers. -/
theorem Text.decode_of_ascii {bytes : List Nat} (h : ∀ byte ∈ bytes, byte < 0x80) :
    Text.decode bytes = .ok (bytes.map Char.ofNat) := by
  have hfrom : ∀ position, decodeFrom position bytes = .ok (bytes.map Char.ofNat) := by
    induction bytes with
    | nil =>
      intro position
      rw [decodeFrom, List.map_nil]
    | cons byte rest ih =>
      intro position
      obtain ⟨hbyte, hrest⟩ := List.forall_mem_cons.1 h
      have hfirst : leading byte rest = .ok (Char.ofNat byte, 0) := by
        simp [leading, byteCount?, hbyte, goodBytes, leadBits]
      rw [decodeFrom, hfirst]
      simp only [List.drop_zero, ih hrest, List.map_cons]
  exact hfrom 0

/-- Bytes among the keys of an object encode a text. -/
def HasBytes (fields : Fields) (text : String) : Prop :=
  ∃ bytes value, (.bytes bytes, value) ∈ fields ∧ Text.decode bytes = .ok text.toList

/-- A record holds a copy of the object that a value is or refers to. This object is no reference.
    The copy has its keys as texts, and is itself no reference unless bytes among the keys encode the
    text that makes an object one. -/
def Copies (components given : Value) (record : Fields) : Prop :=
  ∃ (fields : Fields) (mark : Option Nat),
    Components.resolveValue components given = .ok (.map fields mark) ∧
    fields.has "$ref" = false ∧ fields.recordFields? = some record ∧
    (fields.hasTextKeys = true → record = fields) ∧
    (record.has "$ref" = true ↔ HasBytes fields "$ref")

namespace Operation

variable {components given resolved : Value} {record : Fields}

/-- What a value is or refers to is no reference. -/
theorem has_ref_of_resolveValue {fields : Fields} {mark : Option Nat}
    (h : Components.resolveValue components given = .ok (.map fields mark)) :
    fields.has "$ref" = false := by
  unfold Components.resolveValue at h
  split at h
  · obtain ⟨found, hf, h⟩ := exists_of_bind_eq_ok h
    cases h
    rw [Fields.has, Components.get?_ref_of_resolve hf]
    rfl
  · next hnone =>
    cases h
    rw [Fields.has, show Fields.get? fields "$ref" = none from hnone]
    rfl

theorem has_ref_record_iff {fields : Fields} (hp : fields.has "$ref" = false)
    (h : fields.recordFields? = some record) :
    record.has "$ref" = true ↔ HasBytes fields "$ref" := by
  rw [Fields.has_eq_true_iff, Fields.mem_record_iff h]
  constructor
  · rintro ⟨key, hm, hname⟩
    cases key with
    | text s =>
      cases hname
      rw [← Fields.has_eq_true_iff, hp] at hm
      cases hm
    | bytes b =>
      obtain ⟨⟨_, value⟩, hf, rfl⟩ := List.mem_map.1 hm
      refine ⟨b, value, hf, ?_⟩
      cases hd : Text.decode b with
      | error e => simp [Scalar.recordText?, hd, Except.toOption] at hname
      | ok text =>
        simp only [Scalar.recordText?, hd, Except.toOption, Option.map_some,
          Option.some.injEq] at hname
        rw [← hname, String.toList_ofList]
    | _ => cases hname
  · rintro ⟨bytes, value, hf, hd⟩
    refine ⟨_, List.mem_map_of_mem hf, ?_⟩
    simp [Scalar.recordText?, hd, Except.toOption]

theorem copies_of_checkFields (h : Components.resolveValue components given = .ok resolved)
    (hc : checkFields resolved = .ok record) : Copies components given record := by
  unfold checkFields at hc
  split at hc
  · next fields mark =>
    split at hc
    · next found hrecord =>
      cases hc
      have hplain := has_ref_of_resolveValue h
      refine ⟨fields, mark, h, hplain, hrecord, fun hk => ?_, has_ref_record_iff hplain hrecord⟩
      rw [Fields.recordFields?, if_pos hk, Option.some.injEq] at hrecord
      exact hrecord.symm
    · cases hc
  · cases hc

/-! ## The parts of a record -/

theorem mem_putNamed {named : List (String × Value)} {name : String} {value : Value}
    {entry : String × Value} (h : entry ∈ putNamed named name value) :
    entry ∈ named ∨ entry = (name, value) := by
  induction named with
  | nil => exact .inr (List.mem_singleton.1 h)
  | cons first rest ih =>
    obtain ⟨key, old⟩ := first
    rw [putNamed] at h
    split at h
    · rcases List.mem_cons.1 h with rfl | h
      · exact .inr rfl
      · exact .inl (List.mem_cons_of_mem _ h)
    · rcases List.mem_cons.1 h with rfl | h
      · exact .inl List.mem_cons_self
      · exact (ih h).imp_left (List.mem_cons_of_mem _)

/-- A response was given under a key that is shown as its name. -/
def IsGiven (components : Value) (all : Fields) (response : String × Value) : Prop :=
  ∃ key value, (key, value) ∈ all ∧ key.shown = .ok response.1 ∧
    Components.resolveValue components value = .ok response.2

/-- Each step of the loop over the responses keeps the ones before it and gives one more. -/
theorem isGiven_of_foldlM {method : String} {path : Scalar} {fields : Fields}
    {before after : List (String × Value)}
    (h : fields.foldlM (fun responses (key, response) => do
      let code ← key.shown
      let _ ← statusOf method path code
      return putNamed responses code
        (← Components.resolveValue components response)) before = .ok after)
    (hb : ∀ response ∈ before, IsGiven components fields response) :
    ∀ response ∈ after, IsGiven components fields response := by
  refine of_foldlM (P := fun responses => ∀ response ∈ responses, IsGiven components fields response)
    (fun (key, value) hfield responses next hgiven hstep response hm => ?_) hb h
  obtain ⟨code, hcode, hstep⟩ := exists_of_bind_eq_ok hstep
  obtain ⟨_, _, hstep⟩ := exists_of_bind_eq_ok hstep
  obtain ⟨resolved, hr, hstep⟩ := exists_of_bind_eq_ok hstep
  cases hstep
  rcases mem_putNamed hm with hm | rfl
  · exact hgiven response hm
  · exact ⟨key, value, hfield, hcode, hr⟩

/-- The record of an operation has the method and path that it was read for, and its parts are
    copies of the objects that are given for them. -/
structure Records (components : Value) (path : Scalar) (item fields : Fields)
    (operation : Operation) : Prop where
  path : path.recordText? = some operation.path
  parameters : ∃ shared own, (item.get "parameters").orEmptyList.asParts = .ok shared ∧
    (fields.get "parameters").orEmptyList.asParts = .ok own ∧
    List.Forall₂ (Copies components) (Value.dedup (shared ++ own)) operation.parameters
  requestBody : ∀ body, operation.requestBody = some body →
    Copies components (fields.get "requestBody") body
  responses : ∃ all, (fields.get "responses").asFields = .ok all ∧
    ∀ response ∈ operation.responses, ∃ key value, (key, value) ∈ all ∧
      key.shown = .ok response.1 ∧ Copies components value response.2

theorem forall₂_copies {values drafted : List Value} {records : List Fields}
    (hr : List.Forall₂ (fun value draft => Components.resolveValue components value = .ok draft)
      values drafted)
    (hc : List.Forall₂ (fun draft record => checkFields draft = .ok record) drafted records) :
    List.Forall₂ (Copies components) values records := by
  induction hr generalizing records with
  | nil =>
    cases hc
    exact .nil
  | cons h _ ih =>
    cases hc with
    | cons hfirst hrest => exact .cons (copies_of_checkFields h hfirst) (ih hrest)

theorem copies_of_requestBodyOf {fields : Fields} {body : Value}
    (h : requestBodyOf components fields = .ok body) (hc : checkFields? body = .ok (some record)) :
    Copies components (fields.get "requestBody") record := by
  unfold checkFields? at hc
  split at hc
  · cases hc
  · next hnull =>
    obtain ⟨found, hf, hc⟩ := exists_of_bind_eq_ok hc
    cases hc
    unfold requestBodyOf at h
    split at h
    · exact absurd (Except.ok.inj h).symm hnull
    · exact copies_of_checkFields h hf

theorem recordText?_of_checkText {path : Scalar} {text : String}
    (h : checkText (.scalar path) = .ok text) : path.recordText? = some text := by
  unfold checkText at h
  dsimp only at h
  split at h
  · next hfound =>
    cases h
    exact hfound
  · cases h

theorem records_of_extract {path : Scalar} {item fields : Fields} {method : Method}
    {operation : Operation} (h : extract components path item method fields = .ok operation) :
    operation.method = method ∧ Records components path item fields operation := by
  obtain ⟨drafted, hparameters, h⟩ := exists_of_bind_eq_ok h
  obtain ⟨body, hbody, h⟩ := exists_of_bind_eq_ok h
  obtain ⟨draftedResponses, hresponses, h⟩ := exists_of_bind_eq_ok h
  obtain ⟨text, htext, h⟩ := exists_of_bind_eq_ok h
  obtain ⟨_, _, h⟩ := exists_of_bind_eq_ok h
  obtain ⟨_, _, h⟩ := exists_of_bind_eq_ok h
  obtain ⟨_, _, h⟩ := exists_of_bind_eq_ok h
  obtain ⟨parameters, hcopied, h⟩ := exists_of_bind_eq_ok h
  obtain ⟨checkedBody, hcheckedBody, h⟩ := exists_of_bind_eq_ok h
  obtain ⟨responses, hchecked, h⟩ := exists_of_bind_eq_ok h
  cases h
  refine ⟨rfl, recordText?_of_checkText htext, ?_, ?_, ?_⟩
  · obtain ⟨shared, hshared, hparameters⟩ := exists_of_bind_eq_ok hparameters
    obtain ⟨own, hown, hparameters⟩ := exists_of_bind_eq_ok hparameters
    refine ⟨shared, own, hshared, hown, ?_⟩
    exact forall₂_copies (mapM_eq_ok_iff.1 hparameters) (mapM_eq_ok_iff.1 hcopied)
  · rintro found rfl
    exact copies_of_requestBodyOf hbody hcheckedBody
  · obtain ⟨all, hall, hresponses⟩ := exists_of_bind_eq_ok hresponses
    refine ⟨all, hall, fun response hm => ?_⟩
    obtain ⟨draft, hd, hc⟩ := exists_of_mem_forall₂ (mapM_eq_ok_iff.1 hchecked) hm
    obtain ⟨key, value, hf, hk, hr⟩ :=
      isGiven_of_foldlM hresponses (by simp) draft hd
    obtain ⟨record, hrecord, hc⟩ := exists_of_bind_eq_ok hc
    cases hc
    exact ⟨key, value, hf, hk, copies_of_checkFields hr hrecord⟩

end Operation
end RestContract
