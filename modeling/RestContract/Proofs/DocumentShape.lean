import RestContract.Contract.Assembly
import RestContract.Proofs.CanonicalDeclarations
import RestContract.Proofs.ForeseenRuns
import RestContract.Proofs.ReferenceKinds

/-!
# Shapes of documents

What the values in the places of a document have to be for the rules that read them. A composition
is a list, properties are a map, a pattern is a text; and in a place of a kind stands a map of the
shape of the kind, or a reference that names no component of another kind. Everything else is free:
the type of a schema can be any value, a bound need not be a number, and a reference can lead
nowhere.

Schemas that are no maps have no shape. A boolean is a schema only for additional properties.
-/

namespace RestContract.Shape

open Schema Compile

/-- A value counts as nothing, or it has a property. -/
def OrNothing (P : Value → Prop) (value : Value) : Prop := value.isVacant = true ∨ P value

/-- A value is null, or it has a property. -/
def OrNull (P : Value → Prop) (value : Value) : Prop := value = .null ∨ P value

def IsScalar (value : Value) : Prop := ∃ s, value = .scalar s

def IsText (value : Value) : Prop := ∃ s, value = .text s

def IsList (value : Value) : Prop := ∃ items mark, value = .list items mark

def IsMap (value : Value) : Prop := ∃ fields mark, value = .map fields mark

/-- A list whose items have a property. -/
def IsListOf (P : Value → Prop) (value : Value) : Prop :=
  ∃ items mark, value = .list items mark ∧ ∀ item ∈ items, P item

/-- A map whose values have a property. -/
def IsMapOf (P : Value → Prop) (value : Value) : Prop :=
  ∃ fields mark, value = .map fields mark ∧ ∀ field ∈ fields, P field.2

/-- In a place for components of a kind stands a reference, to a component of the kind if it is the
    reference of any component, or a map of some shape. -/
inductive StandsFor (kind : ComponentKind) (shape : Fields → Prop) : Value → Prop where
  | reference {fields : Fields} {mark : Option Nat} {ref : Value}
    (hr : fields.get? "$ref" = some ref) (hs : IsScalar ref)
    (hk : ∀ r, Reference.parse ref = .ok r → r.kind = kind) :
    StandsFor kind shape (.map fields mark)
  | plain {fields : Fields} {mark : Option Nat} (hp : fields.get? "$ref" = none)
    (hs : shape fields) : StandsFor kind shape (.map fields mark)

/-! ## Schemas -/

/-- A value stands in a place of a schema where another schema is expected. -/
inductive Holds (fields : Fields) : Value → Prop where
  | member {keyword : String} {items : List Value} {mark : Option Nat} {schema : Value}
    (hk : keyword ∈ compositionKeywords) (hl : fields.get keyword = .list items mark)
    (hm : schema ∈ items) : Holds fields schema
  | items (hn : (fields.get "items").isNull = false) : Holds fields (fields.get "items")
  | property {all : Fields} {mark : Option Nat} {field : Scalar × Value}
    (hp : fields.get "properties" = .map all mark) (hm : field ∈ all) : Holds fields field.2
  | additional {all : Fields} {mark : Option Nat}
    (ha : fields.get "additionalProperties" = .map all mark) : Holds fields (.map all mark)

/-- The keywords of a schema that are read as lists, maps or texts are that, or nothing. -/
structure HasKeywords (fields : Fields) : Prop where
  composed : ∀ keyword ∈ compositionKeywords, OrNothing IsList (fields.get keyword)
  properties : OrNothing IsMap (fields.get "properties")
  required : OrNothing (IsListOf IsScalar) (fields.get "required")
  enum : ∀ values, fields.get? "enum" = some values → IsList values
  pattern : OrNothing IsText (fields.get "pattern")
  format : IsScalar (fields.get "format")

/-- The fields of a schema. -/
inductive IsSchema : Fields → Prop where
  | intro {fields : Fields} (hk : HasKeywords fields)
    (hi : ∀ inner, Holds fields inner → StandsFor .schemas IsSchema inner) : IsSchema fields

/-- A value is a schema, or a reference to one. -/
abbrev SchemaOrReference : Value → Prop := StandsFor .schemas IsSchema

/-! ## Operations -/

/-- The fields of a parameter. One without a schema need not have a name. -/
def IsParameter (fields : Fields) : Prop :=
  OrNull (fun schema => SchemaOrReference schema ∧ fields.has "name" = true) (fields.get "schema")

/-- What stands under a content type. -/
def IsMedia (value : Value) : Prop :=
  ∃ fields mark, value = .map fields mark ∧ OrNull SchemaOrReference (Fields.get fields "schema")

/-- The fields of a request body or of a response. -/
def HasContent (fields : Fields) : Prop :=
  OrNothing (IsMapOf (OrNothing IsMedia)) (fields.get "content")

/-- The fields of an operation. -/
structure IsOperation (fields : Fields) : Prop where
  operationId : OrNull IsText (fields.get "operationId")
  summary : OrNull IsText (fields.get "summary")
  description : OrNull IsText (fields.get "description")
  parameters : OrNothing (IsListOf (StandsFor .parameters IsParameter)) (fields.get "parameters")
  requestBody : OrNull (StandsFor .requestBodies HasContent) (fields.get "requestBody")
  responses : OrNothing (IsMapOf (StandsFor .responses HasContent)) (fields.get "responses")

/-- The fields of a path. Those that hold no operation are free. -/
structure IsPathItem (fields : Fields) : Prop where
  parameters : OrNothing (IsListOf (StandsFor .parameters IsParameter)) (fields.get "parameters")
  operations : ∀ key operation mark, (.text key, .map operation mark) ∈ fields →
    Operation.isPassedOver key = false → IsOperation operation

/-! ## Documents -/

/-- The shape of the components of a kind. Nothing is read of a header. -/
def ofKind : ComponentKind → Fields → Prop
  | .schemas => IsSchema
  | .parameters => IsParameter
  | .requestBodies | .responses => HasContent
  | .headers => fun _ => True
  | .pathItems => IsPathItem

/-- Components, of which those that are maps have the shapes of their kinds. -/
structure AreComponents (kinds : Fields) : Prop where
  json : IsJson (.ofFields kinds)
  shaped : ∀ kind named mark, kinds.get (ComponentKind.name kind) = .map named mark →
    ∀ entry ∈ named, ∀ fields own, entry.2 = .map fields own →
      StandsFor kind (ofKind kind) entry.2

/-- The fields of a document. -/
structure IsDocument (fields : Fields) : Prop where
  json : IsJson (.ofFields fields)
  components : ∃ kinds, (fields.get "components").orEmptyMap = .ofFields kinds ∧
    AreComponents kinds ∧ OrNothing IsMap (Fields.get kinds "schemas")
  paths : OrNothing (IsMapOf (OrNothing (StandsFor .pathItems IsPathItem))) (fields.get "paths")

/-! ## What shapes give -/

variable {fields : Fields} {value : Value} {kind : ComponentKind}

theorem OrNothing.exists_items {P : Value → Prop} (h : OrNothing (IsListOf P) value) :
    ∃ items mark, value.orEmptyList = .list items mark ∧ ∀ item ∈ items, P item := by
  unfold Value.orEmptyList
  rcases h with h | ⟨items, mark, rfl, hp⟩
  · rw [if_pos h]
    exact ⟨[], none, rfl, by simp⟩
  · split
    · exact ⟨[], none, rfl, by simp⟩
    · exact ⟨items, mark, rfl, hp⟩

theorem OrNothing.exists_fields {P : Value → Prop} (h : OrNothing (IsMapOf P) value) :
    ∃ fields mark, value.orEmptyMap = .map fields mark ∧ ∀ field ∈ fields, P field.2 := by
  unfold Value.orEmptyMap
  rcases h with h | ⟨fields, mark, rfl, hp⟩
  · rw [if_pos h]
    exact ⟨[], none, rfl, by simp⟩
  · split
    · exact ⟨[], none, rfl, by simp⟩
    · exact ⟨fields, mark, rfl, hp⟩

theorem OrNothing.of_not_vacant {P : Value → Prop} (h : OrNothing P value)
    (hv : value.isVacant = false) : P value :=
  h.resolve_left (by simp [hv])

theorem OrNull.of_not_null {P : Value → Prop} (h : OrNull P value) (hn : value.isNull = false) :
    P value := by
  refine h.resolve_left ?_
  rintro rfl
  cases hn

/-- The fields of a component that is no reference. -/
structure IsPlain (kind : ComponentKind) (fields : Fields) : Prop where
  json : IsJson (.ofFields fields)
  plain : fields.get? "$ref" = none
  shaped : ofKind kind fields

/-- A value of JSON that stands in a place of a kind. -/
structure Suits (kind : ComponentKind) (value : Value) : Prop where
  json : IsJson value
  shaped : StandsFor kind (ofKind kind) value

/-- A component that is no reference. -/
def Resolved (kind : ComponentKind) (value : Value) : Prop :=
  ∃ fields mark, value = .map fields mark ∧ IsPlain kind fields

theorem Suits.isPlain {mark : Option Nat} (h : Suits kind (.map fields mark))
    (hp : fields.get? "$ref" = none) : IsPlain kind fields := by
  obtain ⟨hj, hs⟩ := h
  refine ⟨hj.unmark, hp, ?_⟩
  cases hs with
  | reference hr => cases hr.symm.trans hp
  | plain _ hs => exact hs

/-! ### The type of a schema is free -/

theorem ne_type_of_mem {keyword : String} (h : keyword ∈ compositionKeywords) :
    keyword ≠ "type" := by
  rintro rfl
  simp [compositionKeywords] at h

section

variable {a b : Fields} (hab : ∀ name, name ≠ "type" → a.get? name = b.get? name)

include hab

theorem Holds.congr {inner : Value} (h : Holds b inner) : Holds a inner := by
  cases h with
  | member hk hl hm => exact .member hk ((get_congr hab (ne_type_of_mem hk)).trans hl) hm
  | items hn =>
    rw [← get_congr hab (by simp)] at hn ⊢
    exact .items hn
  | property hp hm => exact .property ((get_congr hab (by simp)).trans hp) hm
  | additional ha => exact .additional ((get_congr hab (by simp)).trans ha)

theorem HasKeywords.congr (h : HasKeywords a) : HasKeywords b where
  composed keyword hk := by
    rw [← get_congr hab (ne_type_of_mem hk)]
    exact h.composed keyword hk
  properties := by
    rw [← get_congr hab (by simp)]
    exact h.properties
  required := by
    rw [← get_congr hab (by simp)]
    exact h.required
  enum values hv := h.enum values ((hab _ (by simp)).trans hv)
  pattern := by
    rw [← get_congr hab (by simp)]
    exact h.pattern
  format := by
    rw [← get_congr hab (by simp)]
    exact h.format

theorem IsSchema.congr (h : IsSchema a) : IsSchema b := by
  cases h with
  | intro hk hi => exact .intro (hk.congr hab) fun inner hh => hi inner (hh.congr hab)

end

theorem suits_retyped {tag : Value} (h : IsPlain .schemas fields) (ht : IsJson tag) :
    Suits .schemas (retyped fields tag) := by
  have hab : ∀ name, name ≠ "type" → fields.get? name = (fields.put "type" tag).get? name :=
    fun name hn => (Fields.get?_put_of_ne fields tag hn).symm
  refine ⟨h.json.put "type" ht, .plain ?_ (IsSchema.congr hab h.shaped)⟩
  rw [← hab _ (by simp), h.plain]

theorem IsPlain.suits_of_holds {inner : Value} (h : IsPlain .schemas fields)
    (hi : Holds fields inner) : Suits .schemas inner := by
  have hjson : IsJson inner := by
    cases hi with
    | member _ hl hm => exact (hl ▸ h.json.get _).of_mem_list hm
    | items => exact h.json.get _
    | property hp hm => exact (hp ▸ h.json.get _).of_mem_map hm
    | additional ha => exact ha ▸ h.json.get _
  cases h.shaped with
  | intro _ hall => exact ⟨hjson, hall inner hi⟩

/-! ## References within a kind -/

theorem yields_parse {ref : Value} (h : IsJson ref) :
    Yields (fun r => Reference.parse ref = .ok r) (Reference.parse ref) := by
  have hrun : Yields (fun _ => True) (Reference.parse ref) := by
    unfold Reference.parse
    split
    · split
      · exact .ok trivial
      · exact .error rfl
    · rw [h.shown, ok_bind]
      exact .error rfl
  exact hrun.self

section

variable {kinds : Fields} {ref : Value}

/-- A component of any kind can be looked up. -/
theorem exists_lookup (kinds : Fields) (r : Reference) :
    ∃ found, Components.lookup (.ofFields kinds) r = .ok found := by
  unfold Components.lookup
  rw [Value.asFields, ok_bind]
  split
  · split <;> exact ⟨_, rfl⟩
  · exact ⟨_, rfl⟩

theorem yields_named {asked current : Value} (h : IsJson current) :
    Yields (Components.Names (.ofFields kinds) kind current)
      (Components.named (.ofFields kinds) asked kind current) := by
  have hrun : Yields (fun _ => True) (Components.named (.ofFields kinds) asked kind current) := by
    refine (yields_parse h).bind fun r _ => ?_
    split
    · obtain ⟨found, hl⟩ := exists_lookup kinds r
      rw [hl, ok_bind]
      cases found with
      | some fields => exact .ok trivial
      | none => exact .error rfl
    · exact .error rfl
  exact hrun.self.mono fun _ => Components.named_eq_ok_iff.1

/-- The component that a reference names suits the kind of the reference. -/
theorem AreComponents.suits_of_names (h : AreComponents kinds)
    (hn : Components.Names (.ofFields kinds) kind ref fields) : Suits kind (.ofFields fields) := by
  obtain ⟨r, _, rfl, hl⟩ := hn
  rw [Components.lookup, Value.asFields, ok_bind] at hl
  split at hl
  · next named mark hn =>
    split at hl
    · next found own hf =>
      cases hl
      have hm := Fields.mem_of_get? hf
      have hnamed : IsJson (.map named mark) := hn ▸ h.json.get _
      have hjson : IsJson (.map fields own) := hnamed.of_mem_map hm
      have hs := h.shaped _ _ _ hn _ hm fields own rfl
      refine ⟨hjson.unmark, ?_⟩
      cases hs with
      | reference hr hs hk => exact .reference hr hs hk
      | plain hp hs => exact .plain hp hs
    · cases hl
  · cases hl

theorem yields_follow (h : AreComponents kinds) {asked current : Value} (hj : IsJson current)
    (steps : Nat) :
    Yields (fun _ => True) (Components.follow (.ofFields kinds) asked kind steps current) := by
  induction steps generalizing current with
  | zero =>
    refine (yields_named hj).bind fun fields _ => ?_
    split
    · exact .error rfl
    · exact .ok trivial
  | succ steps ih =>
    refine (yields_named hj).bind fun fields hn => ?_
    split
    · next next hr => exact ih ((h.suits_of_names hn).json.get? hr)
    · exact .ok trivial

/-- A reference to a component of a kind leads to a component of this kind that is no reference. -/
theorem yields_resolve (h : AreComponents kinds) (hj : IsJson ref)
    (hk : ∀ r, Reference.parse ref = .ok r → r.kind = kind) :
    Yields (IsPlain kind) (Components.resolve (.ofFields kinds) ref) := by
  refine (yields_parse hj).bind fun r hr => ?_
  obtain rfl := hk r hr
  refine (yields_follow h hj _).self.mono fun fields hf => ?_
  obtain ⟨_, _, hl⟩ := Components.follow_eq_ok_iff.1 hf
  obtain ⟨_, hn⟩ := hl.exists_names
  exact (h.suits_of_names hn).isPlain hl.not_reference

theorem yields_resolveValue (h : AreComponents kinds) (hv : Suits kind value) :
    Yields (Resolved kind) (Components.resolveValue (.ofFields kinds) value) := by
  unfold Components.resolveValue
  cases hv.shaped with
  | reference hr _ hk =>
    simp only [Reference.target?, hr]
    have hj := hv.json.get? hr
    exact (yields_resolve h hj hk).bind fun fields hf => .ok ⟨fields, none, rfl, hf⟩
  | @plain fields mark hp _ =>
    simp only [Reference.target?, hp]
    exact .ok ⟨fields, mark, rfl, hv.isPlain hp⟩

end

end RestContract.Shape
