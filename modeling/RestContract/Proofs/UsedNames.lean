import Mathlib.Data.List.Sublists
import RestContract.Compile.Combination
import RestContract.Proofs.EmittedCalls

/-!
# Names that expressions use

The identifiers that an expression reads, those of the two libraries aside. The names that a
combination of validators uses are those that the validators use, and the calls for the constraints
of a schema use none.
-/

namespace RestContract

namespace Expr

/-- The methods of the libraries that begin an expression. No validator has a method of such a
    name. -/
def makers : List String :=
  ["string", "number", "boolean", "null", "any", "unknown", "never", "void", "literal", "enum",
    "array", "object", "record", "union", "instanceof", "router", "otherResponse"]

/-- Whether a chain begins with a method of a library. -/
def isMade (base : Expr) (calls : List Call) : Bool :=
  match base, calls with
  | .identifier library, .call method _ :: _ =>
    (library == "z" || library == "c") && makers.contains method
  | _, _ => false

mutual
/-- The names that an expression uses. Neither a library nor a class that a value has to be an
    instance of counts, and a name that stands for itself in an object is one of the module's own. -/
def names : Expr → List String
  | .identifier name => [name]
  | .literal _ => []
  | .regex _ => []
  | .array elements => namesOfAll elements
  | .object properties => namesOfProperties properties
  | .chained base calls => (if isMade base calls then [] else names base) ++ namesOfCalls calls

def namesOfAll : List Expr → List String
  | [] => []
  | e :: rest => names e ++ namesOfAll rest

def namesOfProperties : List Property → List String
  | [] => []
  | .shorthand _ :: rest => namesOfProperties rest
  | .valued _ e :: rest => names e ++ namesOfProperties rest

def namesOfCalls : List Call → List String
  | [] => []
  | .call method args :: rest =>
    (if method = "instanceof" then [] else namesOfAll args) ++ namesOfCalls rest
end

theorem mem_namesOfAll {es : List Expr} {name : String} :
    name ∈ namesOfAll es ↔ ∃ e ∈ es, name ∈ names e := by
  induction es with
  | nil => simp [namesOfAll]
  | cons e rest ih => simp [namesOfAll, ih]

theorem namesOfCalls_append (a b : List Call) :
    namesOfCalls (a ++ b) = namesOfCalls a ++ namesOfCalls b := by
  induction a with
  | nil => rfl
  | cons call rest ih =>
    obtain ⟨method, args⟩ := call
    rw [List.cons_append, namesOfCalls, namesOfCalls, ih, List.append_assoc]

/-- A call of a method on a validator. -/
def IsMethod (call : Call) : Prop := ∃ method args, call = .call method args ∧ method ∉ makers

theorem isMade_append {base : Expr} {earlier calls : List Call} (h : ∀ call ∈ calls, IsMethod call) :
    isMade base (earlier ++ calls) = isMade base earlier := by
  cases earlier with
  | cons call rest =>
    obtain ⟨method, args⟩ := call
    cases base <;> rfl
  | nil =>
    cases calls with
    | nil => rfl
    | cons call rest =>
      obtain ⟨method, args, rfl, hm⟩ := h call List.mem_cons_self
      cases base <;> simp [isMade, hm]

/-- Methods that are called on a validator only add the names in their arguments. -/
theorem names_chain (e : Expr) {calls : List Call} (h : ∀ call ∈ calls, IsMethod call) :
    names (chain e calls) = names e ++ namesOfCalls calls := by
  have hbase : ∀ base, names (.chained base calls) = names base ++ namesOfCalls calls := by
    intro base
    have hmade : isMade base calls = false := by
      rw [← List.nil_append calls, isMade_append h]
      cases base <;> rfl
    rw [names, hmade]
    rfl
  unfold chain
  split
  · simp [namesOfCalls]
  · rw [names, names, isMade_append h, namesOfCalls_append, List.append_assoc]
  · exact hbase e

theorem names_z {method : String} (args : List Expr) (hm : method ∈ makers)
    (hi : method ≠ "instanceof") : names (z method args) = namesOfAll args := by
  simp [z, names, isMade, hm, namesOfCalls, hi]

theorem names_c {method : String} (args : List Expr) (hm : method ∈ makers)
    (hi : method ≠ "instanceof") : names (c method args) = namesOfAll args := by
  simp [c, names, isMade, hm, namesOfCalls, hi]

mutual
/-- Constants use no names. -/
theorem names_ofValue (value : Value) : names (ofValue value) = [] := by
  cases value with
  | scalar s => cases s <;> rfl
  | list items mark => exact namesOfAll_ofItems items
  | map fields mark => exact namesOfProperties_ofFields fields
  | pair first second =>
    simp [ofValue, names, namesOfAll, names_ofValue first, names_ofValue second]
  | set members => rfl

theorem namesOfAll_ofItems (items : List Value) : namesOfAll (ofItems items) = [] := by
  cases items with
  | nil => rfl
  | cons item rest => simp [ofItems, namesOfAll, names_ofValue item, namesOfAll_ofItems rest]

theorem namesOfProperties_ofFields (fields : Fields) :
    namesOfProperties (ofFields fields) = [] := by
  cases fields with
  | nil => rfl
  | cons field rest =>
    obtain ⟨key, value⟩ := field
    simp [ofFields, property, namesOfProperties, names_ofValue value,
      namesOfProperties_ofFields rest]
end

theorem names_constant {value : Value} {e : Expr} (h : constant value = .ok e) : names e = [] := by
  rw [eq_ofValue_of_constant h, names_ofValue]

/-- Calls of methods whose arguments use no names. -/
def Bare (calls : List Call) : Prop :=
  ∀ call ∈ calls, ∃ method args, call = .call method args ∧ method ∉ makers ∧ namesOfAll args = []

theorem Bare.append {a b : List Call} (ha : Bare a) (hb : Bare b) : Bare (a ++ b) := by
  intro call h
  rcases List.mem_append.1 h with h | h
  · exact ha call h
  · exact hb call h

/-- Calls of some methods only, whose arguments use no names. -/
def CallsOnly (methods : List String) (calls : List Call) : Prop :=
  ∀ call ∈ calls, ∃ method args, call = .call method args ∧ method ∈ methods ∧ namesOfAll args = []

namespace CallsOnly

variable {methods : List String} {calls : List Call}

theorem mem {method : String} {args : List Expr} (h : CallsOnly methods calls)
    (hc : .call method args ∈ calls) : method ∈ methods := by
  obtain ⟨_, _, heq, hm, _⟩ := h _ hc
  cases heq
  exact hm

theorem bare (h : CallsOnly methods calls) (hm : ∀ method ∈ methods, method ∉ makers) :
    Bare calls := by
  intro call hc
  obtain ⟨method, args, heq, hmem, ha⟩ := h call hc
  exact ⟨method, args, heq, hm method hmem, ha⟩

end CallsOnly

theorem Bare.isMethod {calls : List Call} (h : Bare calls) : ∀ call ∈ calls, IsMethod call := by
  intro call hc
  obtain ⟨method, args, heq, hm, _⟩ := h call hc
  exact ⟨method, args, heq, hm⟩

theorem names_chain_bare (e : Expr) {calls : List Call} (h : Bare calls) :
    names (chain e calls) = names e := by
  have hcalls : namesOfCalls calls = [] := by
    induction calls with
    | nil => rfl
    | cons call rest ih =>
      obtain ⟨method, args, rfl, _, ha⟩ := h _ List.mem_cons_self
      rw [namesOfCalls, ha, ih fun call hc => h call (List.mem_cons_of_mem _ hc)]
      simp
  rw [names_chain e h.isMethod, hcalls, List.append_nil]

end Expr

/-! ## Calls -/

namespace Validation

open Expr

/-- The methods that narrow a validator to the keywords of its schema. -/
def narrowing : List String :=
  ["min", "max", "regex", "uuid", "url", "email", "datetime", "ip", "int", "gt", "gte", "lt", "lte",
    "multipleOf"]

/-- The constraints of a schema only narrow a validator. -/
theorem callsOnly_constraints {fields : Fields} {type : Value} {calls : List Call}
    (h : constraints fields type = .ok calls) : CallsOnly narrowing calls := by
  intro call hc
  have hvalue : ∀ {methods : List String} {method : String} {value : Value}, methods ⊆ narrowing →
      method ∈ methods → call = .call method [ofValue value] →
      ∃ method args, call = .call method args ∧ method ∈ narrowing ∧ namesOfAll args = [] := by
    intro methods method value hs hm heq
    exact ⟨method, _, heq, hs hm, by simp [namesOfAll, names_ofValue]⟩
  obtain ⟨maker, _, hcall⟩ := constrains_of_constraints h hc
  cases hcall with
  | length hm | bound hm | count hm => exact hvalue (by simp [narrowing]) hm rfl
  | pattern | whole => exact ⟨_, _, rfl, by simp [narrowing], rfl⟩
  | format h =>
    unfold formatCall? at h
    split at h <;> cases h <;> exact ⟨_, _, rfl, by simp [narrowing], rfl⟩

theorem bare_constraints {fields : Fields} {type : Value} {calls : List Call}
    (h : constraints fields type = .ok calls) : Bare calls :=
  (callsOnly_constraints h).bare (by simp [narrowing, makers])

theorem bare_presence (fields : Fields) (p : Presence) : Bare (presence fields p) := by
  intro call hc
  obtain ⟨method, hm, rfl⟩ := exists_of_mem_presence hc
  exact ⟨method, [], rfl, (by decide : ∀ method ∈ ["optional", "nullable", "nullish"],
    method ∉ makers) method hm, rfl⟩

theorem callsOnly_defaultCalls {fields : Fields} {type : Value} {calls : List Call}
    (h : defaultCalls fields type = .ok calls) : CallsOnly ["default"] calls := by
  intro call hc
  obtain ⟨value, rfl⟩ := exists_of_mem_defaultCalls h hc
  exact ⟨_, _, rfl, List.mem_singleton_self _, by simp [namesOfAll, names_ofValue]⟩

/-- The calls that follow a validator use no names. -/
theorem bare_calls {fields : Fields} {type : Value} {p : Presence} {calls : List Call}
    (h : Validation.calls fields type p = .ok calls) : Bare calls := by
  obtain ⟨narrowed, default, rfl, hn, hd⟩ := exists_of_calls h
  have hdefault : Bare default := (callsOnly_defaultCalls hd).bare (by simp [makers])
  exact .append (.append (bare_constraints hn) (bare_presence fields p)) hdefault

end Validation

/-! ## Combinations -/

namespace Compile

open Expr

theorem powerSet_concat {α : Type} (items : List α) (item : α) :
    powerSet (items ++ [item]) = powerSet items ++ (powerSet items).map (· ++ [item]) := by
  unfold powerSet
  rw [List.foldl_append]
  rfl

/-- The selections are the parts of the list in its order. -/
theorem mem_powerSet {α : Type} {items selection : List α} :
    selection ∈ powerSet items ↔ selection.Sublist items := by
  induction items using List.reverseRecOn generalizing selection with
  | nil => simp [powerSet]
  | append_singleton items item ih =>
    rw [powerSet_concat, List.mem_append, List.mem_map, List.sublist_append_iff, ih]
    constructor
    · rintro (hs | ⟨front, hf, rfl⟩)
      · exact ⟨selection, [], by simp, hs, List.nil_sublist _⟩
      · exact ⟨front, [item], rfl, ih.1 hf, List.Sublist.refl _⟩
    · rintro ⟨front, last, rfl, hf, hl⟩
      rcases List.sublist_singleton.1 hl with rfl | rfl
      · exact .inl (by simpa using hf)
      · exact .inr ⟨front, ih.2 hf, rfl⟩

theorem mem_selections {α : Type} {items selection : List α} :
    selection ∈ selections items ↔ selection.Sublist items ∧ selection ≠ [] := by
  unfold selections
  rw [List.mem_mergeSort, List.mem_filter, mem_powerSet]
  simp

theorem mem_names_union {es : List Expr} {name : String} :
    name ∈ names (union es) ↔ ∃ e ∈ es, name ∈ names e := by
  unfold union
  split
  · simp
  · rw [names_z _ (by simp [makers]) (by simp)]
    simp [namesOfAll, names, mem_namesOfAll]

theorem namesOfCalls_map {method : String} (hi : method ≠ "instanceof") (es : List Expr) :
    namesOfCalls (es.map fun e => .call method [e]) = namesOfAll es := by
  induction es with
  | nil => rfl
  | cons e rest ih => simp [namesOfCalls, namesOfAll, hi, ih]

theorem mem_names_joinBy {method : String} (hm : method ∉ makers) {es : List Expr} {name : String} :
    name ∈ names (joinBy method es) ↔ ∃ e ∈ es, name ∈ names e := by
  cases es with
  | nil => simp [joinBy, names, namesOfAll]
  | cons first rest =>
    have hmethods : ∀ call ∈ rest.map fun member => Call.call method [member], IsMethod call := by
      intro call h
      obtain ⟨member, _, rfl⟩ := List.mem_map.1 h
      exact ⟨method, [member], rfl, hm⟩
    have hi : method ≠ "instanceof" := by
      rintro rfl
      exact hm (by simp [makers])
    rw [joinBy, names_chain first hmethods, namesOfCalls_map hi, List.mem_append, mem_namesOfAll]
    simp

theorem mem_names_anyOf {es : List Expr} {name : String} :
    name ∈ names (anyOf es) ↔ ∃ e ∈ es, name ∈ names e := by
  have hm : "merge" ∉ makers := by simp [makers]
  rw [anyOf, mem_names_union]
  constructor
  · rintro ⟨joined, hj, hn⟩
    obtain ⟨selection, hs, rfl⟩ := List.mem_map.1 hj
    obtain ⟨e, he, hn⟩ := (mem_names_joinBy hm).1 hn
    exact ⟨e, (mem_selections.1 hs).1.subset he, hn⟩
  · rintro ⟨e, he, hn⟩
    have hs : [e] ∈ selections es := mem_selections.2 ⟨List.singleton_sublist.2 he, by simp⟩
    exact ⟨_, List.mem_map_of_mem hs, (mem_names_joinBy hm).2 ⟨e, List.mem_singleton_self e, hn⟩⟩

theorem names_enumeration {type : Value} {values : List Value} {e : Expr}
    (h : (enumeration type values).result = .ok e) : names e = [] := by
  have hliteral : ∀ value, names (z "literal" [ofValue value]) = [] := by
    intro value
    rw [names_z _ (by simp [makers]) (by simp)]
    simp [namesOfAll, names_ofValue]
  have henum : ∀ write : Value → Expr, (∀ value, names (write value) = []) →
      names (z "enum" [.array (values.map write)]) = [] := by
    intro write hwrite
    rw [names_z _ (by simp [makers]) (by simp), List.eq_nil_iff_forall_not_mem]
    intro name hn
    simp [namesOfAll, names, mem_namesOfAll, hwrite] at hn
  cases enumerationForm_of_enumeration h with
  | mixed => rfl
  | sole => exact hliteral _
  | texts => exact henum _ names_ofValue
  | others => exact henum _ hliteral

end Compile
end RestContract
