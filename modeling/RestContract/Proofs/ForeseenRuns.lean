import RestContract.Expr.Printer
import RestContract.Proofs.Citation

/-!
# Runs without unforeseen failures

A rule that takes a value apart is right about its kind, or else the run stops with a fault. So
what a run needs to know of its values goes along with it, and if a run fails it does so in a
foreseen way.

The values of a document are those of JSON. All of them can be shown and written, and stand in a
module as constants.
-/

namespace RestContract

/-- A run gives a value with a property, or it fails for a reason that is foreseen. -/
abbrev Yields {α : Type} (P : α → Prop) (x : Except Error α) : Prop :=
  YieldsOr (·.isForeseen = true) P x

/-! ## Values of JSON -/

/-- A scalar of JSON. Its whole numbers have no more digits than are read and written. -/
def Scalar.IsJson : Scalar → Prop
  | .date _ | .moment _ | .bytes _ => False
  | s => s.isShowable = true

/-- A value of JSON. The keys of its maps are texts, and it does not hold itself. -/
inductive IsJson : Value → Prop where
  | scalar {s : Scalar} (h : s.IsJson) : IsJson (.scalar s)
  | list {items : List Value} (h : ∀ item ∈ items, IsJson item) : IsJson (.ofItems items)
  | map {fields : Fields} (hk : fields.hasTextKeys = true) (hv : ∀ field ∈ fields, IsJson field.2) :
    IsJson (.ofFields fields)

theorem exists_text_of_hasTextKeys {fields : Fields} (h : fields.hasTextKeys = true)
    {field : Scalar × Value} (hm : field ∈ fields) : ∃ name, field.1 = .text name := by
  have hkey := List.all_eq_true.1 h field hm
  obtain ⟨key, value⟩ := field
  cases key with
  | text name => exact ⟨name, rfl⟩
  | _ => cases hkey

theorem Scalar.IsJson.isShowable {s : Scalar} (h : s.IsJson) : s.isShowable = true := by
  cases s with
  | date _ | moment _ | bytes _ => cases h
  | _ => exact h

namespace IsJson

variable {value : Value} {fields : Fields} {items : List Value} {mark : Option Nat}

theorem null : IsJson .null := .scalar rfl

theorem text (s : String) : IsJson (.text s) := .scalar rfl

theorem bool (b : Bool) : IsJson (.bool b) := .scalar rfl

theorem double (x : Double) : IsJson (.double x) := .scalar rfl

@[simp] theorem text_iff (s : String) : IsJson (.text s) ↔ True := iff_true_intro (text s)

@[simp] theorem object_iff {named : List (String × Value)} :
    IsJson (.object named) ↔ ∀ entry ∈ named, IsJson entry.2 := by
  constructor
  · rintro (_ | _ | ⟨_, hv⟩) entry he
    exact hv _ (List.mem_map_of_mem he)
  · intro h
    refine .map (by simp [Fields.hasTextKeys]) fun field hf => ?_
    obtain ⟨entry, he, rfl⟩ := List.mem_map.1 hf
    exact h entry he

theorem of_mem_list (h : IsJson (.list items mark)) {item : Value} (hm : item ∈ items) :
    IsJson item := by
  cases h with
  | list h => exact h item hm

theorem of_mem_map (h : IsJson (.map fields mark)) {field : Scalar × Value} (hm : field ∈ fields) :
    IsJson field.2 := by
  cases h with
  | map _ hv => exact hv field hm

theorem hasTextKeys (h : IsJson (.map fields mark)) : fields.hasTextKeys = true := by
  cases h with
  | map hk _ => exact hk

theorem unmark (h : IsJson (.map fields mark)) : IsJson (.ofFields fields) := by
  cases h with
  | map hk hv => exact .map hk hv

theorem get? (h : IsJson (.map fields mark)) {name : String} (hg : fields.get? name = some value) :
    IsJson value :=
  h.of_mem_map (Fields.mem_of_get? hg)

theorem get (h : IsJson (.map fields mark)) (name : String) : IsJson (fields.get name) := by
  unfold Fields.get
  cases hg : fields.get? name with
  | none => exact null
  | some value => exact h.get? hg

theorem hasTextKeys_put (h : fields.hasTextKeys = true) (name : String) :
    (fields.put name value).hasTextKeys = true := by
  refine List.all_eq_true.2 fun field hm => ?_
  rcases Fields.eq_or_mem_of_mem_put hm with rfl | hm
  · rfl
  · exact List.all_eq_true.1 h field hm

theorem put (h : IsJson (.map fields mark)) (name : String) (hv : IsJson value) :
    IsJson (.ofFields (fields.put name value)) := by
  refine .map (hasTextKeys_put h.hasTextKeys name) fun field hm => ?_
  rcases Fields.eq_or_mem_of_mem_put hm with rfl | hm
  · exact hv
  · exact h.of_mem_map hm

theorem orEmptyMap (h : IsJson value) : IsJson value.orEmptyMap := by
  unfold Value.orEmptyMap
  split
  · exact .map rfl (by simp)
  · exact h

theorem orEmptyList (h : IsJson value) : IsJson value.orEmptyList := by
  unfold Value.orEmptyList
  split
  · exact .list (by simp)
  · exact h

/-! ### Showing -/

theorem areShowable {opened : List Nat} (h : ∀ item ∈ items, item.isShowableIn opened = true) :
    Value.areShowable opened items = true := by
  induction items with
  | nil => rfl
  | cons item rest ih =>
    rw [List.forall_mem_cons] at h
    rw [Value.areShowable, h.1, ih h.2, Bool.and_self]

theorem fieldsShowable {opened : List Nat} (hk : fields.hasTextKeys = true)
    (h : ∀ field ∈ fields, field.2.isShowableIn opened = true) :
    Value.fieldsShowable opened fields = true := by
  induction fields with
  | nil => rfl
  | cons field rest ih =>
    rw [List.forall_mem_cons] at h
    obtain ⟨_, hname⟩ := exists_text_of_hasTextKeys hk List.mem_cons_self
    obtain ⟨_, hrest⟩ := (Bool.and_eq_true _ _).mp hk
    rw [Value.fieldsShowable, h.1, ih hrest h.2, hname]
    rfl

theorem isShowableIn (h : IsJson value) (opened : List Nat) : value.isShowableIn opened = true := by
  induction h with
  | scalar hs => exact hs.isShowable
  | list _ ih => exact areShowable ih
  | map hk _ ih => exact fieldsShowable hk ih

theorem shown (h : IsJson value) : value.shown = .ok value.display := by
  rw [Value.shown, if_pos (h.isShowableIn [])]

/-! ### Writing -/

variable {quote : String → String} {opened : List Nat}

theorem exists_writeItems
    (h : ∀ item ∈ items, ∃ s, Json.writeWith quote opened item = .ok s) :
    ∃ parts, Json.writeItems quote opened items = .ok parts := by
  induction items with
  | nil => exact ⟨[], rfl⟩
  | cons item rest ih =>
    rw [List.forall_mem_cons] at h
    obtain ⟨⟨s, hs⟩, hrest⟩ := h
    obtain ⟨parts, hp⟩ := ih hrest
    exact ⟨s :: parts, by rw [Json.writeItems, hs, ok_bind, hp]; rfl⟩

theorem exists_writeFields (hk : fields.hasTextKeys = true)
    (h : ∀ field ∈ fields, ∃ s, Json.writeWith quote opened field.2 = .ok s) :
    ∃ parts, Json.writeFields quote opened fields = .ok parts := by
  induction fields with
  | nil => exact ⟨[], rfl⟩
  | cons field rest ih =>
    rw [List.forall_mem_cons] at h
    obtain ⟨⟨s, hs⟩, hrest⟩ := h
    obtain ⟨name, hname⟩ := exists_text_of_hasTextKeys hk List.mem_cons_self
    obtain ⟨parts, hp⟩ := ih ((Bool.and_eq_true _ _).mp hk).2 hrest
    refine ⟨(quote name ++ ": " ++ s) :: parts, ?_⟩
    rw [Json.writeFields, hname, hs]
    simp only [Json.key, ok_bind, hp]
    rfl

/-- Every value of JSON is written, between whichever quotes. -/
theorem exists_writeWith (h : IsJson value) (quote : String → String) (opened : List Nat) :
    ∃ s, Json.writeWith quote opened value = .ok s := by
  induction h with
  | @scalar s hs =>
    cases s with
    | bool b => cases b <;> exact ⟨_, rfl⟩
    | int n => exact ⟨toString n, if_pos hs⟩
    | date _ | moment _ | bytes _ => cases hs
    | _ => exact ⟨_, rfl⟩
  | list _ ih =>
    obtain ⟨parts, hp⟩ := exists_writeItems ih
    exact ⟨_, congrArg (Except.map _) hp⟩
  | map hk _ ih =>
    obtain ⟨parts, hp⟩ := exists_writeFields hk ih
    exact ⟨_, congrArg (Except.map _) hp⟩

end IsJson

/-! ## Expressions with a text -/

namespace Expr

/-- All parts of an expression can be written. -/
def IsWritable (e : Expr) : Prop := checkText e = .ok ()

theorem checkTexts_eq_ok_iff {es : List Expr} :
    checkTexts es = .ok () ↔ ∀ e ∈ es, e.IsWritable := by
  induction es with
  | nil => simp [checkTexts]
  | cons e rest ih =>
    rw [checkTexts, List.forall_mem_cons, ← ih]
    constructor
    · intro h
      obtain ⟨_, he, hrest⟩ := exists_of_bind_eq_ok h
      exact ⟨he, hrest⟩
    · rintro ⟨he, hrest⟩
      rw [show checkText e = .ok () from he, ok_bind, hrest]

end Expr

/-- The key of a property and its value can be written. -/
def Property.IsWritable : Property → Prop
  | .shorthand _ => True
  | .valued key e => (∃ s, Json.writeWith Json.quote [] key = .ok s) ∧ e.IsWritable

/-- The arguments of a call can be written. -/
def Call.IsWritable : Call → Prop
  | .call _ args => ∀ e ∈ args, e.IsWritable

namespace Expr

theorem checkProperties_eq_ok_iff {properties : List Property} :
    checkProperties properties = .ok () ↔ ∀ p ∈ properties, p.IsWritable := by
  induction properties with
  | nil => simp [checkProperties]
  | cons p rest ih =>
    rw [List.forall_mem_cons, ← ih]
    cases p with
    | shorthand name => simp [checkProperties, Property.IsWritable]
    | valued key e =>
      rw [checkProperties]
      constructor
      · intro h
        obtain ⟨s, hs, h⟩ := exists_of_bind_eq_ok h
        obtain ⟨_, he, hrest⟩ := exists_of_bind_eq_ok h
        exact ⟨⟨⟨s, hs⟩, he⟩, hrest⟩
      · rintro ⟨⟨⟨s, hs⟩, he⟩, hrest⟩
        rw [hs, ok_bind, show checkText e = .ok () from he, ok_bind, hrest]

theorem checkCalls_eq_ok_iff {calls : List Call} :
    checkCalls calls = .ok () ↔ ∀ call ∈ calls, call.IsWritable := by
  induction calls with
  | nil => simp [checkCalls]
  | cons call rest ih =>
    obtain ⟨method, args⟩ := call
    rw [List.forall_mem_cons, ← ih, checkCalls, Call.IsWritable, ← checkTexts_eq_ok_iff]
    constructor
    · intro h
      obtain ⟨_, hargs, hrest⟩ := exists_of_bind_eq_ok h
      exact ⟨hargs, hrest⟩
    · rintro ⟨hargs, hrest⟩
      rw [hargs, ok_bind, hrest]

@[simp] theorem isWritable_identifier (name : String) : (identifier name).IsWritable := rfl

@[simp] theorem isWritable_regex (source : String) : (regex source).IsWritable := rfl

@[simp] theorem isWritable_text (s : String) : (text s).IsWritable := rfl

@[simp] theorem isWritable_bool (b : Bool) : (literal (.bool b)).IsWritable := rfl

@[simp] theorem isWritable_array_iff {es : List Expr} :
    (array es).IsWritable ↔ ∀ e ∈ es, e.IsWritable :=
  checkTexts_eq_ok_iff

@[simp] theorem isWritable_object_iff {properties : List Property} :
    (object properties).IsWritable ↔ ∀ p ∈ properties, p.IsWritable :=
  checkProperties_eq_ok_iff

@[simp] theorem isWritable_chained_iff {base : Expr} {calls : List Call} :
    (chained base calls).IsWritable ↔ base.IsWritable ∧ ∀ call ∈ calls, call.IsWritable := by
  rw [← checkCalls_eq_ok_iff, IsWritable, checkText]
  constructor
  · intro h
    obtain ⟨_, hbase, hcalls⟩ := exists_of_bind_eq_ok h
    exact ⟨hbase, hcalls⟩
  · rintro ⟨hbase, hcalls⟩
    rw [show checkText base = .ok () from hbase, ok_bind, hcalls]

@[simp] theorem isWritable_call_iff {method : String} {args : List Expr} :
    (Call.call method args).IsWritable ↔ ∀ e ∈ args, e.IsWritable :=
  Iff.rfl

@[simp] theorem isWritable_property_iff {key : String} {e : Expr} :
    (property key e).IsWritable ↔ e.IsWritable :=
  ⟨fun h => h.2, fun h => ⟨⟨_, rfl⟩, h⟩⟩

@[simp] theorem isWritable_z_iff {method : String} {args : List Expr} :
    (z method args).IsWritable ↔ ∀ e ∈ args, e.IsWritable := by
  simp [z]

@[simp] theorem isWritable_c_iff {method : String} {args : List Expr} :
    (c method args).IsWritable ↔ ∀ e ∈ args, e.IsWritable := by
  simp [c]

theorem isWritable_chain {base : Expr} {calls : List Call} (hb : base.IsWritable)
    (hc : ∀ call ∈ calls, call.IsWritable) : (chain base calls).IsWritable := by
  unfold chain
  split
  · exact hb
  · next inner earlier _ =>
    rw [isWritable_chained_iff] at hb ⊢
    refine ⟨hb.1, fun call hm => ?_⟩
    rcases List.mem_append.1 hm with hm | hm
    · exact hb.2 call hm
    · exact hc call hm
  · exact isWritable_chained_iff.2 ⟨hb, hc⟩

theorem render_of_isWritable {e : Expr} (h : e.IsWritable) : e.render = .ok e.print := by
  rw [render, show checkText e = .ok () from h]

/-! ## Constants -/

variable {value : Value} {fields : Fields} {items : List Value}

theorem mem_ofItems_iff {e : Expr} : e ∈ ofItems items ↔ ∃ item ∈ items, ofValue item = e := by
  induction items with
  | nil => simp [ofItems]
  | cons item rest ih => simp [ofItems, ih, eq_comm]

theorem mem_ofFields_iff {p : Property} :
    p ∈ ofFields fields ↔ ∃ field ∈ fields, property field.1.display (ofValue field.2) = p := by
  induction fields with
  | nil => simp [ofFields]
  | cons field rest ih => simp [ofFields, ih, eq_comm]

theorem isWritable_ofValue (h : IsJson value) : (ofValue value).IsWritable := by
  induction h with
  | @scalar s hs =>
    cases s with
    | int n => exact if_pos hs
    | date _ | moment _ | bytes _ => cases hs
    | _ => rfl
  | list _ ih =>
    rw [ofValue, isWritable_array_iff]
    intro e he
    obtain ⟨item, hm, rfl⟩ := mem_ofItems_iff.1 he
    exact ih item hm
  | map _ _ ih =>
    rw [ofValue, isWritable_object_iff]
    intro p hp
    obtain ⟨field, hm, rfl⟩ := mem_ofFields_iff.1 hp
    exact isWritable_property_iff.2 (ih field hm)

theorem checkItems_eq_ok {opened : List Nat} (h : ∀ item ∈ items, check opened item = .ok ()) :
    checkItems opened items = .ok () := by
  induction items with
  | nil => rfl
  | cons item rest ih =>
    rw [List.forall_mem_cons] at h
    rw [checkItems, h.1, ok_bind, ih h.2]

theorem checkFields_eq_ok {opened : List Nat} (hk : fields.hasTextKeys = true)
    (h : ∀ field ∈ fields, check opened field.2 = .ok ()) : checkFields opened fields = .ok () := by
  induction fields with
  | nil => rfl
  | cons field rest ih =>
    rw [List.forall_mem_cons] at h
    obtain ⟨key, value⟩ := field
    obtain ⟨name, rfl⟩ : ∃ name, key = .text name :=
      exists_text_of_hasTextKeys hk List.mem_cons_self
    rw [Fields.hasTextKeys, List.all_cons, Bool.and_eq_true] at hk
    have hrest := ih hk.2 h.2
    show (do check opened value; checkFields opened rest) = _
    rw [h.1, ok_bind, hrest]

theorem check_eq_ok (h : IsJson value) (opened : List Nat) : check opened value = .ok () := by
  induction h with
  | scalar => rfl
  | list _ ih => exact checkItems_eq_ok ih
  | map hk _ ih => exact checkFields_eq_ok hk ih

theorem constant_eq_ok (h : IsJson value) : constant value = .ok (ofValue value) := by
  rw [constant, check_eq_ok h]

/-- A value of JSON is a constant that can be written. -/
theorem yields_constant (h : IsJson value) : Yields IsWritable (constant value) := by
  rw [constant_eq_ok h]
  exact .ok (isWritable_ofValue h)

end Expr
end RestContract
