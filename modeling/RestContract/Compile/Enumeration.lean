import RestContract.Expr.Basic
import RestContract.Trace
import RestContract.Value.Access

/-!
# Enumerations

The validator for a list of admissible values. Texts are enumerated as they are, other values one by
one as constants; no value at all is admitted when texts stand among values of another type.
-/

namespace RestContract.Compile

/-- The validator that admits one value. -/
def constant (value : Value) : Except Error Expr := do
  return Expr.z "literal" [← Expr.constant value]

/-- Whether a value is a text. -/
def isSomeText : Value → Bool
  | .text _ => true
  | _ => false

/-- The validator that admits nothing, for values among which texts stand where there should be
    none. -/
def mixed (values : List Value) : Traced Expr := do
  Traced.note .compiler ("Enum " ++ (Value.ofItems values).inspect ++
    " mixes strings into a non-string type")
  return Expr.z "never" []

/-- The validator for a list of values of a type. -/
def enumeration (type : Value) (values : List Value) : Traced Expr :=
  if !type.isText "string" && values.any isSomeText then mixed values
  else
    match values with
    | [value] => Traced.lift (constant value)
    | values => do
      let write := if type.isText "string" then Expr.constant else constant
      return Expr.z "enum" [.array (← (values.mapM write : Except Error _))]

end RestContract.Compile
