import RestContract.Number.Double
import RestContract.Value.Calendar

/-!
# Document values

The values that a document is made of: scalars, lists, and maps that keep the order of their fields;
and less often pairs and sets. Whole numbers and floating-point numbers are different values. The
keys of a map are scalars, most often texts. Reading a field gives null for a field that is not
there, because nothing tells the two apart unless a rule asks for the field itself.

A list or map can hold itself. It is unrolled then, deeper than any rule follows it, and it has a
mark by which it is known again inside itself.
-/

namespace RestContract

/-- A value without parts. -/
inductive Scalar where
  | null
  | bool (b : Bool)
  | int (n : Int)
  | double (x : Double)
  | text (s : String)
  | date (d : Date)
  | moment (m : Moment)
  | bytes (b : List Nat)
  deriving DecidableEq

/-- One, and one more for every character of a text and every byte of a run. -/
def Scalar.size : Scalar → Nat
  | .text s => 1 + s.length
  | .bytes b => 1 + b.length
  | _ => 1

/-- A value of a document. Lists and maps that hold themselves have marks. -/
inductive Value where
  | scalar (s : Scalar)
  | list (items : List Value) (mark : Option Nat)
  | map (fields : List (Scalar × Value)) (mark : Option Nat)
  | pair (first second : Value)
  | set (members : List Scalar)

instance : Inhabited Scalar := ⟨.null⟩
instance : Inhabited Value := ⟨.scalar .null⟩

/-- The fields of a map in order. -/
abbrev Fields := List (Scalar × Value)

namespace Value

@[match_pattern] abbrev null : Value := .scalar .null
@[match_pattern] abbrev bool (b : Bool) : Value := .scalar (.bool b)
@[match_pattern] abbrev int (n : Int) : Value := .scalar (.int n)
@[match_pattern] abbrev double (x : Double) : Value := .scalar (.double x)
@[match_pattern] abbrev text (s : String) : Value := .scalar (.text s)

/-- A list that does not hold itself. -/
abbrev ofItems (items : List Value) : Value := .list items none

/-- A map that does not hold itself. -/
abbrev ofFields (fields : List (Scalar × Value)) : Value := .map fields none

/-- A map whose keys are texts. -/
def object (fields : List (String × Value)) : Value :=
  ofFields (fields.map fun (name, value) => (.text name, value))

/-- The measures of scalars together. -/
def sizeOfScalars : List Scalar → Nat
  | [] => 0
  | s :: rest => s.size + sizeOfScalars rest

mutual
/-- A measure of a value that exceeds the measures of its parts together, where the characters of a
    text and the bytes of a run count as parts too. -/
def size : Value → Nat
  | .scalar s => s.size
  | .list items _ => 1 + sizeOfItems items
  | .map fields _ => 1 + sizeOfFields fields
  | .pair first second => 1 + first.size + second.size
  | .set members => 1 + sizeOfScalars members

/-- The measures of the items of a list together. -/
def sizeOfItems : List Value → Nat
  | [] => 0
  | item :: rest => item.size + sizeOfItems rest

/-- The measures of the keys and values of a map together. -/
def sizeOfFields : List (Scalar × Value) → Nat
  | [] => 0
  | (key, value) :: rest => key.size + value.size + sizeOfFields rest
end

theorem size_le_sizeOfItems {item : Value} {items : List Value} (h : item ∈ items) :
    item.size ≤ sizeOfItems items := by
  induction items with
  | nil => cases h
  | cons head rest ih =>
    simp only [sizeOfItems]
    cases h with
    | head => omega
    | tail _ h => have := ih h; omega

theorem size_le_sizeOfFields {key : Scalar} {value : Value} {fields : Fields}
    (h : (key, value) ∈ fields) : key.size + value.size ≤ sizeOfFields fields := by
  induction fields with
  | nil => cases h
  | cons head rest ih =>
    obtain ⟨headKey, headValue⟩ := head
    simp only [sizeOfFields]
    cases h with
    | head => omega
    | tail _ h => have := ih h; omega

/-- Whether a value counts as nothing: null, false, zero, an empty text, list, map, set or run of
    bytes. -/
def isVacant : Value → Bool
  | .scalar .null => true
  | .scalar (.bool b) => !b
  | .scalar (.int n) => n == 0
  | .scalar (.double x) => x.isZero
  | .scalar (.text s) => s.isEmpty
  | .scalar (.bytes b) => b.isEmpty
  | .scalar (.date _) => false
  | .scalar (.moment _) => false
  | .list items _ => items.isEmpty
  | .map fields _ => fields.isEmpty
  | .pair .. => false
  | .set members => members.isEmpty

/-- The value, or an empty map where it counts as nothing. -/
def orEmptyMap (value : Value) : Value := if value.isVacant then .ofFields [] else value

/-- The value, or an empty list where it counts as nothing. -/
def orEmptyList (value : Value) : Value := if value.isVacant then .ofItems [] else value

/-- The values that a value is made of when it is gone through: the items of a list, the keys of a
    map, the two of a pair, the members of a set, the characters of a text and the bytes of a run.
    The other kinds cannot be gone through. -/
def parts? : Value → Option (List Value)
  | .list items _ => some items
  | .map fields _ => some (fields.map fun (key, _) => .scalar key)
  | .pair first second => some [first, second]
  | .set members => some (members.map .scalar)
  | .scalar (.text s) => some (s.toList.map fun c => .text (String.singleton c))
  | .scalar (.bytes b) => some (b.map fun (n : Nat) => .int n)
  | _ => none

theorem size_le_sizeOfScalars {s : Scalar} {all : List Scalar} (h : s ∈ all) :
    s.size ≤ sizeOfScalars all := by
  induction all with
  | nil => cases h
  | cons head rest ih =>
    simp only [sizeOfScalars]
    cases h with
    | head => omega
    | tail _ h => have := ih h; omega

/-- No part is larger than its value. -/
theorem size_le_of_mem_parts {value part : Value} {parts : List Value}
    (h : value.parts? = some parts) (hp : part ∈ parts) : part.size ≤ value.size := by
  cases value with
  | scalar s =>
    cases s with
    | text s =>
      simp only [parts?, Option.some.injEq] at h
      subst h
      obtain ⟨c, hc, rfl⟩ := List.mem_map.1 hp
      have : 0 < s.toList.length := List.length_pos_of_mem hc
      simp only [size, Scalar.size, String.length_singleton] at this ⊢
      simp only [String.length_toList] at this
      omega
    | bytes b =>
      simp only [parts?, Option.some.injEq] at h
      subst h
      obtain ⟨n, _, rfl⟩ := List.mem_map.1 hp
      simp only [size, Scalar.size]
      omega
    | _ => simp [parts?] at h
  | list items mark =>
    simp only [parts?, Option.some.injEq] at h
    subst h
    have := size_le_sizeOfItems hp
    simp only [size]
    omega
  | map fields mark =>
    simp only [parts?, Option.some.injEq] at h
    subst h
    obtain ⟨⟨key, value⟩, hf, rfl⟩ := List.mem_map.1 hp
    have := size_le_sizeOfFields hf
    simp only [size]
    omega
  | pair first second =>
    simp only [parts?, Option.some.injEq] at h
    subst h
    simp only [List.mem_cons, List.not_mem_nil, or_false] at hp
    rcases hp with rfl | rfl <;> simp only [size] <;> omega
  | set members =>
    simp only [parts?, Option.some.injEq] at h
    subst h
    obtain ⟨s, hs, rfl⟩ := List.mem_map.1 hp
    have := size_le_sizeOfScalars hs
    simp only [size]
    omega

/-- Whether a value can be a key or a member of a set. -/
def isKey : Value → Bool
  | .scalar _ => true
  | .pair first second => first.isKey && second.isKey
  | _ => false

/-- Whether the value is null. -/
def isNull : Value → Bool
  | .scalar .null => true
  | _ => false

end Value

namespace Fields

/-- The value of the field with this name. -/
def get? : Fields → String → Option Value
  | [], _ => none
  | (key, value) :: rest, name => if key = .text name then some value else get? rest name

/-- Whether there is a field with this name. -/
def has (fields : Fields) (name : String) : Bool := (fields.get? name).isSome

/-- The value of the field with this name, null if there is none. -/
def get (fields : Fields) (name : String) : Value := (fields.get? name).getD .null

/-- The fields with one more; a field of the same name keeps its place and takes the new value. -/
def put (fields : Fields) (name : String) (value : Value) : Fields :=
  match fields with
  | [] => [(.text name, value)]
  | (key, old) :: rest =>
    if key = .text name then (key, value) :: rest else (key, old) :: put rest name value

/-- Whether all keys are texts. -/
def hasTextKeys (fields : Fields) : Bool :=
  fields.all fun (key, _) => match key with
    | .text _ => true
    | _ => false

theorem mem_of_get? {fields : Fields} {name : String} {value : Value}
    (h : fields.get? name = some value) : (.text name, value) ∈ fields := by
  induction fields with
  | nil => simp [get?] at h
  | cons head rest ih =>
    obtain ⟨key, first⟩ := head
    rw [get?] at h
    split at h
    · next hk =>
      cases h
      subst hk
      exact List.mem_cons_self
    · exact List.mem_cons_of_mem _ (ih h)

/-- A field that is there is smaller than the map. -/
theorem size_lt_of_get? {fields : Fields} {name : String} {value : Value}
    (h : fields.get? name = some value) (mark : Option Nat) :
    value.size < (Value.map fields mark).size := by
  have := Value.size_le_sizeOfFields (mem_of_get? h)
  simp only [Value.size]
  omega

end Fields
end RestContract
