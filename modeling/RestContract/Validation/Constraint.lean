import RestContract.Expr.Basic
import RestContract.Validation.Pattern
import RestContract.Value.Access

/-!
# Constraints

The calls that narrow a validator to the keywords of its schema: lengths, pattern and format of a
text, bounds of a number, the number of items of an array. They follow from the type alone; a schema
of another type has none. And the calls that say whether a value may be null or missing.
-/

namespace RestContract.Validation

/-- A call whose only argument is a value of the document. -/
def callWith (method : String) (value : Value) : Except Error Call := do
  return .call method [← Expr.constant value]

/-- A call with the value of a keyword, unless the value counts as nothing. -/
def unlessVacant (fields : Fields) (keyword method : String) : Except Error (List Call) := do
  let value := fields.get keyword
  if value.isVacant then return [] else return [← callWith method value]

/-- A call with the value of a keyword, unless the value is null. -/
def unlessNull (fields : Fields) (keyword method : String) : Except Error (List Call) := do
  let value := fields.get keyword
  if value.isNull then return [] else return [← callWith method value]

/-- The text of a pattern. A list, map or set of several parts lacks an end to compare, and any
    other value lacks a length. -/
def patternText : Value → Except Error String
  | .text s => .ok s
  | .list (_ :: _ :: _) _ => .error (.fault .noSuchPart)
  | .map (_ :: _ :: _) _ => .error (.fault .noSuchPart)
  | .set (_ :: _ :: _) => .error (.fault .noSuchPart)
  | _ => .error (.fault .wrongKind)

/-- The call for the pattern of a text. -/
def patternCalls (fields : Fields) : Except Error (List Call) :=
  let value := fields.get "pattern"
  if value.isVacant then .ok []
  else do return [.call "regex" [.regex (Pattern.sanitize (← patternText value))]]

/-- The formats of a text that the validation library knows. -/
def formatCall? : String → Option Call
  | "uuid" => some (.call "uuid" [])
  | "hostname" | "uri" => some (.call "url" [])
  | "email" => some (.call "email" [])
  | "date-time" =>
    some (.call "datetime" [.object [Expr.property "offset" (.literal (.bool true))]])
  | "ipv4" => some (.call "ip" [.object [Expr.property "version" (.text "v4")]])
  | "ipv6" => some (.call "ip" [.object [Expr.property "version" (.text "v6")]])
  | _ => none

/-- The call for the format of a text. -/
def formatCalls (fields : Fields) : Except Error (List Call) := do
  match ← (fields.get "format").asKey with
  | .text format => return (formatCall? format).toList
  | _ => return []

/-- The constraints of a text. An enumeration has no lengths. -/
def textCalls (fields : Fields) : Except Error (List Call) := do
  let lengths ← if fields.has "enum" then pure []
    else do pure ((← unlessVacant fields "minLength" "min") ++
      (← unlessVacant fields "maxLength" "max"))
  return lengths ++ (← patternCalls fields) ++ (← formatCalls fields)

/-- Whether a value is a number of either kind. -/
def isNumber : Value → Bool
  | .int _ | .double _ => true
  | _ => false

/-- The bound of a number on one side. A bound that excludes its value is either marked by a flag
    beside it or given alone as a number. -/
def boundCalls (bound exclusive : Value) (inclusiveMethod exclusiveMethod : String) :
    Except Error (List Call) := do
  if !bound.isNull then
    let flagged := match exclusive with
      | .bool true => true
      | _ => false
    return [← callWith (if flagged then exclusiveMethod else inclusiveMethod) bound]
  else if isNumber exclusive then return [← callWith exclusiveMethod exclusive]
  else return []

/-- The constraints of a number, of which `integer` tells whether it has to be whole. An enumeration
    has none. -/
def numberCalls (fields : Fields) (integer : Bool) : Except Error (List Call) := do
  if fields.has "enum" then return []
  let lower ← boundCalls (fields.get "minimum") (fields.get "exclusiveMinimum") "gte" "gt"
  let upper ← boundCalls (fields.get "maximum") (fields.get "exclusiveMaximum") "lte" "lt"
  let step ← unlessNull fields "multipleOf" "multipleOf"
  return (if integer then [.call "int" []] else []) ++ lower ++ upper ++ step

/-- The constraints of an array. -/
def arrayCalls (fields : Fields) : Except Error (List Call) := do
  return (← unlessNull fields "minItems" "min") ++ (← unlessNull fields "maxItems" "max")

/-- The constraints that the keywords of a schema put on values of a type. -/
def constraints (fields : Fields) (type : Value) : Except Error (List Call) :=
  if type.isText "string" then textCalls fields
  else if type.isText "number" then numberCalls fields false
  else if type.isText "integer" then numberCalls fields true
  else if type.isText "array" then arrayCalls fields
  else .ok []

/-- Whether a value has to be there: it can be a required or an optional property, or no
    property. -/
inductive Presence where
  | required
  | optional
  | unstated
  deriving DecidableEq, Repr

/-- The calls for a value that may be null or missing. One that may be null may be missing as well,
    unless it is required. -/
def presence (fields : Fields) (p : Presence) : List Call :=
  if (fields.get "nullable").isVacant then
    match p with
    | .optional => [.call "optional" []]
    | _ => []
  else
    match p with
    | .required => [.call "nullable" []]
    | _ => [.call "nullish" []]

end RestContract.Validation
