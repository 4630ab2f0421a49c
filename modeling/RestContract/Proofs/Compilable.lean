import RestContract.Proofs.SchemaMeaning

/-!
# Elementary schemas have validators

The compiler takes a limited number of steps into a schema. Every elementary schema that is not too
deep has a validator: at each level of the schema the compiler takes no more than eight steps.
-/

namespace RestContract

namespace Value

mutual
/-- The number of lists and maps inside each other. -/
def depth : Value → Nat
  | .list items _ => 1 + depthOfItems items
  | .map fields _ => 1 + depthOfFields fields
  | _ => 0

def depthOfItems : List Value → Nat
  | [] => 0
  | item :: rest => max item.depth (depthOfItems rest)

def depthOfFields : List (Scalar × Value) → Nat
  | [] => 0
  | (_, value) :: rest => max value.depth (depthOfFields rest)
end

theorem depth_lt_of_mem_items {item : Value} {items : List Value} {mark : Option Nat}
    (h : item ∈ items) : item.depth < (Value.list items mark).depth := by
  have hle : item.depth ≤ depthOfItems items := by
    induction items with
    | nil => cases h
    | cons first rest ih =>
      rw [depthOfItems]
      rcases List.mem_cons.1 h with rfl | h
      · omega
      · have := ih h
        omega
  rw [depth]
  omega

theorem depth_le_of_mem_fields {field : Scalar × Value} {fields : Fields} (h : field ∈ fields) :
    field.2.depth ≤ depthOfFields fields := by
  induction fields with
  | nil => cases h
  | cons first rest ih =>
    obtain ⟨key, value⟩ := first
    rw [depthOfFields]
    rcases List.mem_cons.1 h with rfl | h
    · exact Nat.le_max_left ..
    · have := ih h
      omega

theorem depth_lt_of_mem_fields {field : Scalar × Value} {fields : Fields} {mark : Option Nat}
    (h : field ∈ fields) : field.2.depth < (Value.map fields mark).depth := by
  have hle := depth_le_of_mem_fields h
  rw [depth]
  omega

theorem depthOfFields_put_le (fields : Fields) (name : String) (s : Scalar) :
    depthOfFields (fields.put name (.scalar s)) ≤ depthOfFields fields := by
  induction fields with
  | nil => simp [Fields.put, depthOfFields, depth]
  | cons first rest ih =>
    obtain ⟨key, old⟩ := first
    rw [Fields.put]
    split
    · simp only [depthOfFields, depth]
      omega
    · simp only [depthOfFields]
      omega

theorem depth_lt_of_get? {fields : Fields} {name : String} {value : Value} {mark : Option Nat}
    (h : fields.get? name = some value) : value.depth < (Value.map fields mark).depth :=
  depth_lt_of_mem_fields (Fields.mem_of_get? h)

end Value

namespace Compile

open Expr Schema Validation

section

variable {inner : Nat → Compiler} {fields : Fields} {type : Value}

theorem exists_members {steps : Nat} {parts : List Value} {m : Option Nat}
    (h : ∀ part ∈ parts, ∃ e, (inner steps part .unstated).result = .ok e) :
    ∃ es, (members inner steps (.list parts m)).result = .ok es :=
  Traced.exists_result_bind rfl (Traced.exists_result_mapM h)

theorem exists_array (h : ∀ items, fields.get? "items" = some items →
    ∃ e, (inner 3 items .unstated).result = .ok e) : ∃ e, (array inner fields).result = .ok e := by
  unfold array
  dsimp only
  split
  · exact ⟨_, rfl⟩
  · next hn =>
    obtain ⟨e, he⟩ := h _ (get?_of_get rfl (by simpa using hn))
    exact Traced.exists_result_bind he ⟨_, rfl⟩

theorem exists_properties (hs : Shaped fields type)
    (hp : ∀ entry ∈ propertiesOf fields, ∀ p, ∃ e, (inner 5 entry.2 p).result = .ok e) :
    ∃ e, (properties inner fields).result = .ok e := by
  obtain ⟨names, hrequired, _⟩ := exists_requiredKeys hs
  refine Traced.exists_result_bind hrequired (Traced.exists_result_bind hs.get_properties ?_)
  have hcompiled : ∃ compiled, ((propertiesOf fields).mapM fun (key, schema) =>
      property inner (names.map .text) key schema).result = .ok compiled := by
    refine Traced.exists_result_mapM fun entry he => ?_
    obtain ⟨e, h⟩ := hp entry he (if (names.map Scalar.text).any (·.same entry.1) then .required
      else .optional)
    exact Traced.exists_result_bind h ⟨_, rfl⟩
  obtain ⟨compiled, h⟩ := hcompiled
  exact Traced.exists_result_bind h ⟨_, rfl⟩

theorem exists_object (hs : Shaped fields type)
    (hp : ∀ entry ∈ propertiesOf fields, ∀ p, ∃ e, (inner 5 entry.2 p).result = .ok e)
    (ha : ∀ other m, fields.get? "additionalProperties" = some (.map other m) →
      ∃ e, (inner 4 (.map other m) .unstated).result = .ok e) :
    ∃ e, (object inner fields).result = .ok e := by
  unfold object
  split
  · split
    · exact ⟨_, rfl⟩
    · next hmap =>
      obtain ⟨e, he⟩ := ha _ _ (get?_of_get hmap rfl)
      exact Traced.exists_result_bind he ⟨_, rfl⟩
    · exact exists_properties hs hp
  · exact exists_properties hs hp

theorem exists_ofTag {tag : String} (hs : Shaped fields (.text tag))
    (hi : tag = "array" → ∀ items, fields.get? "items" = some items →
      ∃ e, (inner 3 items .unstated).result = .ok e)
    (hp : tag = "object" → ∀ entry ∈ propertiesOf fields, ∀ p,
      ∃ e, (inner 5 entry.2 p).result = .ok e)
    (ha : tag = "object" → ∀ other m, fields.get? "additionalProperties" = some (.map other m) →
      ∃ e, (inner 4 (.map other m) .unstated).result = .ok e) :
    ∃ e narrowing, (ofTag inner fields (.text tag)).result = .ok e ∧
      constraints fields (.text tag) = .ok narrowing := by
  have hmem := hs.mem_typeTags
  simp only [typeTags, List.mem_cons, List.not_mem_nil, or_false] at hmem
  rcases hmem with rfl | rfl | rfl | rfl | rfl | rfl | rfl
  · exact ⟨_, _, rfl, textCalls_eq hs⟩
  · exact ⟨_, _, rfl, numberCalls_eq hs false⟩
  · exact ⟨_, _, rfl, numberCalls_eq hs true⟩
  · exact ⟨_, _, rfl, rfl⟩
  · exact ⟨_, _, rfl, rfl⟩
  · obtain ⟨e, he⟩ := exists_array (hi rfl)
    exact ⟨e, _, he, arrayCalls_eq hs⟩
  · obtain ⟨e, he⟩ := exists_object hs (hp rfl) (ha rfl)
    exact ⟨e, _, he, rfl⟩

/-- A schema with a type has a validator if the type has one. -/
theorem exists_concrete {p : Presence} (hs : Shaped fields type)
    (hsole : ∀ tag m, type ≠ .list [tag] m)
    (h : ∃ e narrowing, (ofType inner fields type).result = .ok e ∧
      constraints fields type = .ok narrowing) :
    ∃ e, (concrete inner fields p).result = .ok e := by
  obtain ⟨e, narrowing, he, hc⟩ := h
  have hget : fields.get "type" = type := by simp [Fields.get, hs.typed]
  have hvacant : ∀ keyword, keyword ∉ typedKeywords → (fields.get keyword).isVacant = true := by
    intro keyword hk
    rw [hs.get_eq_null keyword hk]
    rfl
  have hbase : base inner fields type = ofType inner fields type := by
    simp [base, Fields.has, hs.get?_eq_none "not" (by decide), hs.get?_eq_none "enum" (by decide),
      hvacant "oneOf" (by decide), hvacant "allOf" (by decide), hvacant "anyOf" (by decide)]
  have hcalls : Validation.calls fields type p = .ok _ :=
    calls_eq (hs.get?_eq_none "default" (by decide)) (hs.get?_eq_none "nullable" (by decide)) hc
  unfold concrete
  rw [hget]
  split
  · exact absurd rfl (hsole _ _)
  · rw [hbase]
    exact Traced.exists_result_bind he (Traced.exists_result_bind hcalls ⟨_, rfl⟩)

end

theorem result_compileWith {inner : Nat → Compiler} {scope : Scope} {fields : Fields}
    {mark : Option Nat} {p : Presence} (ht : Reference.target? (.map fields mark) = none) :
    (compileWith inner scope (.map fields mark) p).result = (concrete inner fields p).result := by
  unfold compileWith
  rw [ht]
  rfl

theorem compileAt_eq {scope : Scope} {room steps : Nat} (h : steps ≤ room) :
    compileAt scope room steps = compileAt scope (room - steps) 0 := by
  induction steps generalizing room with
  | zero => rfl
  | succ steps ih =>
    cases room with
    | zero => omega
    | succ room =>
      rw [compileAt, ih (by omega)]
      congr 1
      omega

/-- Whether there is a validator of a schema in the room for some steps. -/
def HasRoom (scope : Scope) (room : Nat) (schema : Value) : Prop :=
  ∀ p, ∃ e, (compileAt scope room 0 schema p).result = .ok e

variable {scope : Scope} {fields : Fields} {type : Value} {mark : Option Nat}

/-- Inside a schema there is room for the steps that are left. -/
theorem HasRoom.inner {room steps : Nat} {schema : Value} {p : Presence} (hle : steps - 1 ≤ room)
    (h : HasRoom scope (room - (steps - 1)) schema) :
    ∃ e, (compileAt scope room (steps - 1) schema p).result = .ok e := by
  rw [compileAt_eq hle]
  exact h p

theorem hasRoom_of_concrete {room : Nat} (ht : Reference.target? (.map fields mark) = none)
    (h : ∀ p, ∃ e, (concrete (fun steps => compileAt scope room (steps - 1)) fields p).result =
      .ok e) : HasRoom scope (room + 1) (.map fields mark) := by
  intro p
  obtain ⟨e, he⟩ := h p
  refine ⟨e, ?_⟩
  rw [compileAt, result_compileWith ht, he]

/-- A schema of several types takes four steps more than the schema taken with each of them, and one
    of a single type takes one. -/
theorem hasRoom_of_tags {tags : List String} {m : Option Nat} {room : Nat}
    (hs : Shaped fields (.list (tags.map .text) m)) (hne : tags ≠ []) (hr : 3 ≤ room)
    (h : ∀ tag ∈ tags, ∀ left, room - 3 ≤ left → HasRoom scope left (retyped fields (.text tag))) :
    HasRoom scope (room + 1) (.map fields mark) := by
  refine hasRoom_of_concrete hs.simple.ref fun p => ?_
  match tags, hne with
  | [tag], _ =>
    have hget : fields.get "type" = .list [.text tag] m := by simp [Fields.get, hs.typed]
    unfold concrete
    rw [hget]
    exact (h tag (List.mem_singleton_self tag) _ (by omega)).inner (by omega)
  | first :: second :: rest, _ =>
    refine exists_concrete hs (by simp) ?_
    have hmembers : ∃ es, (((first :: second :: rest).map Value.text).mapM fun tag =>
        compileAt scope room (4 - 1) (retyped fields tag) .unstated).result = .ok es := by
      refine Traced.exists_result_mapM fun tag ht => ?_
      obtain ⟨name, hn, rfl⟩ := List.mem_map.1 ht
      exact (h name hn _ (by omega)).inner (by omega)
    obtain ⟨es, hes⟩ := hmembers
    have hunion : ∃ e, (ofType (fun steps => compileAt scope room (steps - 1)) fields
        (.list ((first :: second :: rest).map .text) m)).result = .ok e :=
      Traced.exists_result_bind hes ⟨_, rfl⟩
    obtain ⟨e, he⟩ := hunion
    exact ⟨e, [], he, rfl⟩

/-- A composition takes three steps more than its members. -/
theorem hasRoom_of_single {keyword : String} {parts : List Value} {m : Option Nat} {room : Nat}
    (hk : keyword = "oneOf" ∨ keyword = "allOf") (hne : parts ≠ []) (hr : 2 ≤ room)
    (h : ∀ part ∈ parts, HasRoom scope (room - 2) part) :
    HasRoom scope (room + 1) (.map [(.text keyword, .list parts m)] mark) := by
  obtain ⟨es, hes⟩ : ∃ es, (members (fun steps => compileAt scope room (steps - 1)) 3
      (.list parts m)).result = .ok es :=
    exists_members fun part hp => (h part hp).inner (by omega)
  have hbase : ∃ e, (base (fun steps => compileAt scope room (steps - 1))
      [(.text keyword, .list parts m)] .null).result = .ok e := by
    rcases hk with rfl | rfl
    · refine ⟨union es, ?_⟩
      simp [base, Fields.has, Fields.get, Fields.get?, Value.isVacant, hne, hes, ok_bind, -bind_pure_comp]
    · refine ⟨joinBy "and" es, ?_⟩
      simp [base, Fields.has, Fields.get, Fields.get?, Value.isVacant, hne, hes, ok_bind, -bind_pure_comp]
  obtain ⟨e, he⟩ := hbase
  refine hasRoom_of_concrete ?_ fun p => ?_
  · rcases hk with rfl | rfl <;> simp [Reference.target?, Fields.get?]
  · have hcalls : Validation.calls [(.text keyword, .list parts m)] .null p = .ok _ :=
      calls_eq (by rcases hk with rfl | rfl <;> simp [Fields.get?])
        (by rcases hk with rfl | rfl <;> simp [Fields.get?]) rfl
    have hget : Fields.get [(.text keyword, .list parts m)] "type" = .null := by
      rcases hk with rfl | rfl <;> simp [Fields.get, Fields.get?]
    unfold concrete
    rw [hget]
    exact Traced.exists_result_bind he (Traced.exists_result_bind hcalls ⟨_, rfl⟩)

theorem depth_of_part {keyword : String} {part : Value} {parts : List Value} {m : Option Nat}
    (h : part ∈ parts) :
    part.depth + 2 ≤ (Value.map [(.text keyword, .list parts m)] mark).depth := by
  have hpart : part.depth < (Value.list parts m).depth := Value.depth_lt_of_mem_items h
  have hlist : (Scalar.text keyword, Value.list parts m).2.depth <
      (Value.map [(.text keyword, .list parts m)] mark).depth :=
    Value.depth_lt_of_mem_fields (List.mem_singleton_self _)
  dsimp only at hlist
  omega

theorem depth_of_property {field : Scalar × Value} (h : field ∈ propertiesOf fields) :
    field.2.depth + 2 ≤ (Value.map fields mark).depth := by
  unfold propertiesOf at h
  split at h
  · next properties m hg =>
    have hfield : field.2.depth < (Value.map properties m).depth := Value.depth_lt_of_mem_fields h
    have hmap : (Value.map properties m).depth < (Value.map fields mark).depth :=
      Value.depth_lt_of_get? hg
    omega
  · cases h

/-- A level of a schema leaves more than seven steps. -/
theorem exists_room {room : Nat} (h : 8 * (Value.map fields mark).depth ≤ room) :
    ∃ left, room = left + 1 ∧ 7 ≤ left := by
  rw [Value.depth] at h
  exact ⟨room - 1, by omega, by omega⟩

theorem hasRoom_of_composition {keyword : String} {parts : List Value} {m : Option Nat} {room : Nat}
    (hk : keyword = "oneOf" ∨ keyword = "allOf") (hne : parts ≠ [])
    (hr : 8 * (Value.map [(.text keyword, .list parts m)] mark).depth ≤ room)
    (h : ∀ part ∈ parts, ∀ {room}, 8 * part.depth ≤ room → HasRoom scope room part) :
    HasRoom scope room (.map [(.text keyword, .list parts m)] mark) := by
  obtain ⟨left, rfl, hle⟩ := exists_room hr
  refine hasRoom_of_single hk hne (by omega) fun part hp => h part hp ?_
  have hdepth : part.depth + 2 ≤ (Value.map [(.text keyword, .list parts m)] mark).depth :=
    depth_of_part hp
  omega

/-- A schema of one tag takes a step more than the schemas inside it, and up to three are left over
    for a list of types that it is taken from. -/
theorem hasRoom_of_tag {tag : String} {room : Nat} (hs : Shaped fields (.text tag))
    (hr : 8 * (Value.map fields mark).depth ≤ room + 5)
    (h : HoldsInside (fun schema => ∀ room, 8 * schema.depth ≤ room → HasRoom scope room schema)
      fields (.text tag)) : HasRoom scope (room + 1) (.map fields mark) := by
  refine hasRoom_of_concrete hs.simple.ref fun p => exists_concrete hs nofun ?_
  refine exists_ofTag hs (fun ht items hi => ?_) (fun ht field hf p => ?_) fun ht other m ha => ?_
  · have hdepth : items.depth < (Value.map fields mark).depth := Value.depth_lt_of_get? hi
    exact (h.items (isOrHolds_text.2 ht) items hi _ (by omega)).inner (by omega)
  · have hdepth : field.2.depth + 2 ≤ (Value.map fields mark).depth := depth_of_property hf
    exact (h.properties (isOrHolds_text.2 ht) field hf _ (by omega)).inner (by omega)
  · have hdepth : (Value.map other m).depth < (Value.map fields mark).depth :=
      Value.depth_lt_of_get? ha
    exact (h.additional (isOrHolds_text.2 ht) other m ha _ (by omega)).inner (by omega)

/-- There is room for an elementary schema in eight steps for each level of it. -/
theorem hasRoom_of_elementary {known : String → Prop} {schema : Value} {room : Nat}
    (hd : ∀ name, known name → ∃ declaration, scope.find? (.text (refTo name)) = some declaration)
    (h : Elementary known schema) (hr : 8 * schema.depth ≤ room) : HasRoom scope room schema := by
  induction h generalizing room with
  | @reference schema _ ht hk =>
    obtain ⟨fields, mark, rfl⟩ : ∃ fields mark, schema = .map fields mark :=
      (Elementary.reference ht hk).isMap
    obtain ⟨left, rfl, _⟩ := exists_room hr
    intro p
    obtain ⟨declaration, hf⟩ := hd _ hk
    refine ⟨chain (.identifier declaration.identifier) (presence [] p), ?_⟩
    simp only [compileAt, compileWith, ht, Traced.result_bind, hf]
    rfl
  | oneOf hne _ ih => exact hasRoom_of_composition (.inl rfl) hne hr ih
  | allOf hne _ ih => exact hasRoom_of_composition (.inr rfl) hne hr ih
  | @typed fields mark type hs _ _ _ ihi ihp iha =>
    obtain ⟨left, rfl, hle⟩ := exists_room hr
    have hinside : HoldsInside (fun schema => ∀ room, 8 * schema.depth ≤ room →
        HasRoom scope room schema) fields type :=
      ⟨fun ht items hi _ => ihi ht items hi, fun ht field hf _ => ihp ht field hf,
        fun ht other m ha _ => iha ht other m ha⟩
    cases hs.isType with
    | tag => exact hasRoom_of_tag hs (by omega) hinside
    | @tags tags m hne htags _ =>
      refine hasRoom_of_tags hs hne (by omega) fun tag ht room hroom => ?_
      obtain ⟨room, rfl⟩ : ∃ left, room = left + 1 := ⟨room - 1, by omega⟩
      have hdepth : (Value.map (fields.put "type" (.text tag)) none).depth ≤
          (Value.map fields mark).depth :=
        Nat.add_le_add_left (Value.depthOfFields_put_le fields "type" (.text tag)) 1
      exact hasRoom_of_tag (hs.retype (htags tag ht)) (by omega) (hinside.retype ht)

end Compile
end RestContract
