import RestContract.Value.Display

/-!
# Expressions

The expressions of TypeScript that a contract is made of. A chain of calls on a chain of calls is
the same as one longer chain, so `Expr.chain` builds only the longer one, but a nested chain is an
expression as well.
-/

namespace RestContract

/-- A constant without parts. -/
inductive Literal where
  | null
  | bool (b : Bool)
  | int (n : Int)
  | double (x : Double)
  | text (s : String)
  deriving DecidableEq

mutual

/-- An expression. -/
inductive Expr where
  /-- A bare name. -/
  | identifier (name : String)
  | literal (l : Literal)
  /-- A regular expression with its delimiters. -/
  | regex (source : String)
  | array (elements : List Expr)
  | object (properties : List Property)
  /-- A base and the methods that are called on it one after the other. -/
  | chained (base : Expr) (calls : List Call)

/-- A property of an object. -/
inductive Property where
  /-- A name that stands for the value it is bound to. -/
  | shorthand (name : String)
  /-- A key with its value. A key that is not a text comes from a document in which it is none. -/
  | valued (key : Value) (value : Expr)

/-- A call of a method. -/
inductive Call where
  | call (method : String) (args : List Expr)

end

instance : Inhabited Expr := ⟨.array []⟩
instance : Inhabited Property := ⟨.shorthand ""⟩
instance : Inhabited Call := ⟨.call "" []⟩

namespace Expr

/-- A property whose key is a text. -/
def property (key : String) (value : Expr) : Property := .valued (.text key) value

def text (s : String) : Expr := .literal (.text s)

/-- A call of a method on an expression without calls, or one more call on a chain. -/
def chain (base : Expr) (calls : List Call) : Expr :=
  match calls, base with
  | [], base => base
  | calls, .chained inner earlier => .chained inner (earlier ++ calls)
  | calls, base => .chained base calls

/-- Calls on an expression that is no chain start one. -/
theorem chain_of_ne {base : Expr} {calls : List Call}
    (hb : ∀ inner earlier, base ≠ .chained inner earlier) (hc : calls ≠ []) :
    chain base calls = .chained base calls := by
  unfold chain
  split
  · exact absurd rfl hc
  · exact absurd rfl (hb _ _)
  · rfl

/-- A call of a method of the validation library. -/
def z (method : String) (args : List Expr) : Expr :=
  .chained (.identifier "z") [.call method args]

/-- A call of a method of the contract library. -/
def c (method : String) (args : List Expr) : Expr :=
  .chained (.identifier "c") [.call method args]

mutual
/-- The constant for a value. The keys of its maps and values without a counterpart become texts as
    they stand in messages. -/
def ofValue : Value → Expr
  | .scalar .null => .literal .null
  | .scalar (.bool b) => .literal (.bool b)
  | .scalar (.int n) => .literal (.int n)
  | .scalar (.double x) => .literal (.double x)
  | .scalar (.text s) => .literal (.text s)
  | .scalar s => .literal (.text s.display)
  | .list items _ => .array (ofItems items)
  | .map fields _ => .object (ofFields fields)
  | .pair first second => .array [ofValue first, ofValue second]
  | .set members => .literal (.text (Value.set members).display)

def ofItems : List Value → List Expr
  | [] => []
  | item :: rest => ofValue item :: ofItems rest

def ofFields : List (Scalar × Value) → List Property
  | [] => []
  | (key, value) :: rest => property key.display (ofValue value) :: ofFields rest
end

mutual
/-- Checks that there is a constant for a value: that no list or map in it holds itself, where
    `opened` holds the marks of those around it, and that the texts of its parts can be written. -/
def check (opened : List Nat) : Value → Except Fault Unit
  | .scalar _ => .ok ()
  | .list items mark =>
    if Value.isInside opened mark then .error .endlessNesting
    else checkItems (mark.toList ++ opened) items
  | .map fields mark =>
    if Value.isInside opened mark then .error .endlessNesting
    else checkFields (mark.toList ++ opened) fields
  | .pair first second => do
    check opened first
    check opened second
  | .set members => if members.all Scalar.isShowable then .ok () else .error .badText

def checkItems (opened : List Nat) : List Value → Except Fault Unit
  | [] => .ok ()
  | item :: rest => do
    check opened item
    checkItems opened rest

def checkFields (opened : List Nat) : List (Scalar × Value) → Except Fault Unit
  | [] => .ok ()
  | (key, value) :: rest => do
    if !key.isShowable then throw .badText
    check opened value
    checkFields opened rest
end

/-- The constant for a value, if there is one. -/
def constant (value : Value) : Except Error Expr :=
  match check [] value with
  | .ok _ => .ok (ofValue value)
  | .error fault => .error (.fault fault)

end Expr
end RestContract
