import RestContract.Error
import RestContract.Text.Encoding
import RestContract.Value.Equality

/-!
# Using values

What a rule can ask of a value, and the fault that stops a run when the value is of a kind that the
rule did not foresee.
-/

namespace RestContract

namespace Value

/-- The fields of a value that is used as a map. -/
def asFields : Value → Except Error Fields
  | .map fields _ => .ok fields
  | _ => .error (.fault .noSuchPart)

/-- The parts of a value that is gone through. -/
def asParts (value : Value) : Except Error (List Value) :=
  match value.parts? with
  | some parts => .ok parts
  | none => .error (.fault .wrongKind)

/-- The scalar of a value that is used as a key. -/
def asKey : Value → Except Error Scalar
  | .scalar s => .ok s
  | _ => .error (.fault .wrongKind)

/-- The position in a list of some length that a number stands for; negative ones count from the
    end. -/
def position? (length : Nat) (index : Int) : Option Nat :=
  if 0 ≤ index then (if index < length then some index.toNat else none)
  else if 0 ≤ index + length then some (index + length).toNat
  else none

/-- The item of a list at a position. -/
def item (items : List Value) (index : Int) : Except Error Value :=
  match (position? items.length index).bind (items[·]?) with
  | some found => .ok found
  | none => .error (.fault .outOfRange)

/-- The part of a value at an index: a field of a map, or an item of a list at a position. -/
def part (value index : Value) : Except Error Value :=
  match value, index with
  | .map fields _, .scalar key =>
    match Fields.find? fields key with
    | some found => .ok found
    | none => .error (.fault .missingField)
  | .list items _, .scalar (.int n) => item items n
  | .list items _, .scalar (.bool b) => item items (if b then 1 else 0)
  | .scalar (.bytes b), .scalar (.int n) => item (b.map fun (n : Nat) => .int n) n
  | .scalar (.bytes b), .scalar (.bool c) =>
    item (b.map fun (n : Nat) => .int n) (if c then 1 else 0)
  | _, _ => .error (.fault .wrongKind)

end Value

/-- The text of a scalar in which characters are to be replaced. Dates and bytes have replacements
    too, but not by texts. -/
def Scalar.asText : Scalar → Except Error String
  | .text s => .ok s
  | .date _ | .moment _ | .bytes _ => .error (.fault .wrongKind)
  | _ => .error (.fault .noSuchPart)

/-- The text that a record takes a scalar for: a text, or bytes that are one. -/
def Scalar.recordText? : Scalar → Option String
  | .text s => some s
  | .bytes b => (Text.decode b).toOption.map String.ofList
  | _ => none

/-- The fields of a map with texts as keys, if a record takes all keys for texts. -/
def Fields.recordFields? (fields : Fields) : Option Fields :=
  if fields.hasTextKeys then some fields
  else do
    let pairs ← fields.mapM fun (key, value) =>
      key.recordText?.map fun name => (Scalar.text name, value)
    return Fields.ofPairs pairs

end RestContract
