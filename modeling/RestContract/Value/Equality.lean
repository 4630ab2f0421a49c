import RestContract.Value.Basic

/-!
# Equality of values

Two values are the same when they mean the same: numbers are compared by value across their kinds,
with false and true as zero and one; lists and pairs item by item; maps and sets whatever the order.
Lists or maps with one mark are one and the same.
-/

namespace RestContract

namespace Scalar

/-- The whole number that a scalar counts as, if it counts as one. -/
def whole? : Scalar → Option Int
  | .bool b => some (if b then 1 else 0)
  | .int n => some n
  | .double x => x.toInt?
  | _ => none

/-- Whether two scalars mean the same. -/
def same (a b : Scalar) : Bool :=
  match a, b with
  | .double x, .double y => x.same y
  | .moment x, .moment y => x.same y
  | a, b =>
    match a.whole?, b.whole? with
    | some m, some n => m == n
    | none, none => a == b
    | _, _ => false

/-- Only a text is the same as a text. -/
theorem same_text {s : Scalar} {name : String} : s.same (.text name) = true ↔ s = .text name := by
  cases s with
  | double x => cases hx : x.toInt? <;> simp [same, whole?, hx]
  | null | bool | int | text | date | moment | bytes => simp [same, whole?]

end Scalar

namespace Fields

/-- The value of the field whose key means the same as this one. -/
def find? : Fields → Scalar → Option Value
  | [], _ => none
  | (key, value) :: rest, wanted => if key.same wanted then some value else find? rest wanted

theorem find?_text (fields : Fields) (name : String) :
    fields.find? (.text name) = fields.get? name := by
  induction fields with
  | nil => rfl
  | cons field rest ih =>
    obtain ⟨key, value⟩ := field
    simp only [find?, get?, Scalar.same_text, ih]

/-- The first field under a name is the one that is found. -/
theorem find?_append_cons {before after : Fields} {name : String} {value : Value}
    (h : ∀ entry ∈ before, entry.1 ≠ .text name) :
    find? (before ++ (.text name, value) :: after) (.text name) = some value := by
  induction before with
  | nil => simp [find?, Scalar.same_text]
  | cons entry rest ih =>
    obtain ⟨hf, hr⟩ := List.forall_mem_cons.1 h
    rw [List.cons_append, find?, if_neg (by simpa [Scalar.same_text] using hf), ih hr]

/-- The fields with one more; a field whose key means the same keeps its place and key and takes
    the new value. -/
def insert (fields : Fields) (key : Scalar) (value : Value) : Fields :=
  match fields with
  | [] => [(key, value)]
  | (first, old) :: rest =>
    if first.same key then (first, value) :: rest else (first, old) :: insert rest key value

/-- The map that results when fields are written one after the other. -/
def ofPairs (pairs : List (Scalar × Value)) : Fields :=
  pairs.foldl (fun fields (key, value) => fields.insert key value) []

end Fields

namespace Value

/-- Whether two sets mean the same. -/
def sameMembers (a b : List Scalar) : Bool :=
  a.length == b.length && a.all fun member => b.any (·.same member)

mutual
/-- Whether two values mean the same. -/
def same : Value → Value → Bool
  | .scalar a, .scalar b => a.same b
  | .list a m, .list b n => (m.isSome && m == n) || sameItems a b
  | .map a m, .map b n => (m.isSome && m == n) || (a.length == b.length && sameFields a b)
  | .pair a b, .pair c d => a.same c && b.same d
  | .set a, .set b => sameMembers a b
  | _, _ => false

/-- Whether two lists mean the same, item by item. -/
def sameItems : List Value → List Value → Bool
  | [], [] => true
  | a :: as, b :: bs => a.same b && sameItems as bs
  | _, _ => false

/-- Whether every field of the first map has a partner of the same meaning in the second. -/
def sameFields : List (Scalar × Value) → Fields → Bool
  | [], _ => true
  | (key, value) :: rest, fields =>
    (match fields.find? key with
      | some other => value.same other
      | none => false) && sameFields rest fields
end

/-- Whether a value is the text `s`. -/
def isText (value : Value) (s : String) : Bool :=
  match value with
  | .text t => t == s
  | _ => false

/-- The items without those that mean the same as an earlier one that was kept. -/
def dedup (items : List Value) : List Value :=
  items.foldl (fun kept item => if kept.any (·.same item) then kept else kept ++ [item]) []

end Value
end RestContract
