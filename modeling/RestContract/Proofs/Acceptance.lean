import Mathlib.Data.Rat.Defs
import RestContract.Proofs.UsedNames

/-!
# What validators accept

What the validators of a module accept among the values of JSON, with numbers taken as they are. An
object accepts any members beside its properties, and of its properties only an optional one may be
missing. What the identifiers of the module stand for is given.
-/

namespace RestContract

/-- A value of JSON. -/
inductive Datum where
  | null
  | bool (b : Bool)
  | number (q : Rat)
  | text (s : String)
  | list (items : List Datum)
  | record (members : List (String × Datum))

/-- The length of a text, counted in some way, or the number of items of a list. -/
def Datum.extent? (length : String → Nat) : Datum → Option Rat
  | .text s => some (length s)
  | .list items => some items.length
  | _ => none

/-- Whether a value has no other values inside. -/
def Datum.isScalar : Datum → Bool
  | .list _ => false
  | .record _ => false
  | _ => true

def Datum.number? : Datum → Option Rat
  | .number q => some q
  | _ => none

/-- Whether two numbers, both of which are there, stand in some relation. -/
def Bounded (relation : Rat → Rat → Prop) (bound x : Option Rat) : Prop :=
  ∃ b ∈ bound, ∃ q ∈ x, relation b q

/-- The exact value of a finite number. -/
def Double.exact? (x : Double) : Option Rat := x.toFraction?.map fun (num, den) => (num : Rat) / den

def Literal.exact? : Literal → Option Rat
  | .int n => some n
  | .double x => x.exact?
  | _ => none

def Value.exact? : Value → Option Rat
  | .int n => some n
  | .double x => x.exact?
  | _ => none

/-- The constant for a number is a literal of the same value. -/
theorem exists_literal_of_exact? {value : Value} (h : value.exact?.isSome = true) :
    ∃ l, Expr.ofValue value = .literal l ∧ l.exact? = value.exact? := by
  cases value with
  | scalar s =>
    cases s with
    | int n => exact ⟨.int n, rfl, rfl⟩
    | double x => exact ⟨.double x, rfl, rfl⟩
    | _ => cases h
  | _ => cases h

/-- What an expression stands for. -/
inductive Sense where
  /-- No value that a validator is made of. -/
  | nothing
  /-- The validation library. -/
  | library
  | literal (l : Literal)
  | list (members : List Sense)
  | object (members : List (Value × Sense))
  /-- A validator by the values that it accepts, and whether a property that has to pass it may be
      missing. -/
  | validator (accepts : Datum → Prop) (omissible : Bool)

namespace Sense

def Accepts : Sense → Datum → Prop
  | .validator accepts _, v => accepts v
  | _, _ => False

def Omissible : Sense → Prop
  | .validator _ omissible => omissible = true
  | _ => False

/-- What a property accepts in the place of its name. -/
def Suits (s : Sense) : Option Datum → Prop
  | some v => s.Accepts v
  | none => s.Omissible

/-- The validators that the library makes. -/
def make (method : String) (args : List Sense) : Sense :=
  match method, args with
  | "string", [] => .validator (fun v => ∃ s, v = .text s) false
  | "number", [] => .validator (fun v => ∃ q, v = .number q) false
  | "boolean", [] => .validator (fun v => ∃ b, v = .bool b) false
  | "null", [] => .validator (fun v => v = .null) false
  | "any", [] => .validator (fun _ => True) false
  | "array", [item] =>
    .validator (fun v => ∃ items, v = .list items ∧ ∀ x ∈ items, item.Accepts x) false
  | "record", [value] =>
    .validator (fun v => ∃ members, v = .record members ∧ ∀ m ∈ members, value.Accepts m.2) false
  | "object", [.object properties] =>
    .validator (fun v => ∃ members, v = .record members ∧
      ∀ p ∈ properties, ∃ name, p.1 = .text name ∧ p.2.Suits (members.lookup name)) false
  | "union", [.list alternatives] =>
    .validator (fun v => ∃ s ∈ alternatives, s.Accepts v) false
  | _, _ => .nothing

/-- What a call that narrows a validator asks of the values. -/
def narrowing? (length : String → Nat) (method : String) (args : List Sense) :
    Option (Datum → Prop) :=
  match method, args with
  | "min", [.literal l] => some fun v => Bounded (· ≤ ·) l.exact? (v.extent? length)
  | "max", [.literal l] => some fun v => Bounded (· ≥ ·) l.exact? (v.extent? length)
  | "gte", [.literal l] => some fun v => Bounded (· ≤ ·) l.exact? v.number?
  | "gt", [.literal l] => some fun v => Bounded (· < ·) l.exact? v.number?
  | "lte", [.literal l] => some fun v => Bounded (· ≥ ·) l.exact? v.number?
  | "lt", [.literal l] => some fun v => Bounded (· > ·) l.exact? v.number?
  | "int", [] => some fun v => ∃ n : Int, v = .number n
  | _, _ => none

/-- A call of a method on a validator. -/
def onValidator (length : String → Nat) (accepts : Datum → Prop) (omissible : Bool)
    (method : String) (args : List Sense) : Sense :=
  match method, args with
  | "optional", [] => .validator accepts true
  | "and", [other] => .validator (fun v => accepts v ∧ other.Accepts v) false
  | method, args =>
    match narrowing? length method args with
    | some condition => .validator (fun v => accepts v ∧ condition v) omissible
    | none => .nothing

/-- A call of a method. -/
def call (length : String → Nat) (s : Sense) (method : String) (args : List Sense) : Sense :=
  match s with
  | .library => make method args
  | .validator accepts omissible => onValidator length accepts omissible method args
  | _ => .nothing

end Sense

namespace Expr

variable (length : String → Nat) (meaning : String → Sense)

mutual
/-- What an expression stands for in a module, by what the identifiers stand for. -/
def denote : Expr → Sense
  | .identifier name => meaning name
  | .literal l => .literal l
  | .regex _ => .nothing
  | .array elements => .list (denoteAll elements)
  | .object properties => .object (denoteProperties properties)
  | .chained base calls => denoteCalls (if isMade base calls then .library else denote base) calls

def denoteAll : List Expr → List Sense
  | [] => []
  | e :: rest => denote e :: denoteAll rest

def denoteProperties : List Property → List (Value × Sense)
  | [] => []
  | .shorthand name :: rest => (.text name, meaning name) :: denoteProperties rest
  | .valued key e :: rest => (key, denote e) :: denoteProperties rest

/-- What is left of a value after some calls. -/
def denoteCalls (s : Sense) : List Call → Sense
  | [] => s
  | .call method args :: rest => denoteCalls (s.call length method (denoteAll args)) rest
end

variable {length meaning}

theorem denoteAll_eq_map (es : List Expr) :
    denoteAll length meaning es = es.map (denote length meaning) := by
  induction es with
  | nil => rfl
  | cons e rest ih => rw [denoteAll, ih, List.map_cons]

theorem denoteCalls_append (s : Sense) (a b : List Call) :
    denoteCalls length meaning s (a ++ b) =
      denoteCalls length meaning (denoteCalls length meaning s a) b := by
  induction a generalizing s with
  | nil => rfl
  | cons call rest ih =>
    obtain ⟨method, args⟩ := call
    rw [List.cons_append, denoteCalls, denoteCalls, ih]

/-- The calls of methods come after what they are called on. -/
theorem denote_chain (e : Expr) {calls : List Call} (h : ∀ call ∈ calls, IsMethod call) :
    denote length meaning (chain e calls) =
      denoteCalls length meaning (denote length meaning e) calls := by
  have hbase : ∀ base, denote length meaning (.chained base calls) =
      denoteCalls length meaning (denote length meaning base) calls := by
    intro base
    have hmade : isMade base calls = false := by
      rw [← List.nil_append calls, isMade_append h]
      cases base <;> rfl
    rw [denote, hmade]
    rfl
  unfold chain
  split
  · rfl
  · rw [denote, denote, isMade_append h, denoteCalls_append]
  · exact hbase e

theorem denote_z {method : String} (args : List Expr) (hm : method ∈ makers) :
    denote length meaning (z method args) = .make method (args.map (denote length meaning)) := by
  have hmade : isMade (.identifier "z") [.call method args] = true := by simp [isMade, hm]
  rw [z, denote, hmade, if_pos rfl, denoteCalls, denoteCalls, denoteAll_eq_map]
  rfl

end Expr
end RestContract
