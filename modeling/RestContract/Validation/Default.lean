import RestContract.Json.Writer
import RestContract.Validation.Constraint

/-!
# Defaults

The value that stands in for a missing one, as a value of the type of its schema. A default that is
no such value is dropped, but any default of a text is written as JSON, and any default of a boolean
is taken for whether it counts as nothing. And all calls that follow a validator.
-/

namespace RestContract.Validation

/-- A default as a text. -/
def textDefault (value : Value) : Except Error (Option Value) :=
  match value with
  | .text s => .ok (some (.text s))
  | value =>
    match Json.write value with
    | .ok s => .ok (some (.text s))
    | .error fault => .error (.fault fault)

/-- A default as a number; a text may stand for one that is finite. -/
def numberDefault (value : Value) : Option Value :=
  match value with
  | .text s =>
    match Text.number? s.toList with
    | some x => if x.isFinite then some (.double x) else none
    | none => none
  | value => if isNumber value then some value else none

/-- A default as an array. -/
def arrayDefault : Value → Option Value
  | .list items mark => some (.list items mark)
  | _ => none

/-- A default as a value of a type, if it is one. -/
def coerceDefault (type value : Value) : Except Error (Option Value) :=
  if type.isText "string" then textDefault value
  else if type.isText "number" || type.isText "integer" then .ok (numberDefault value)
  else if type.isText "boolean" then .ok (some (.bool !value.isVacant))
  else if type.isText "array" then .ok (arrayDefault value)
  else .ok none

/-- The default of a schema that has one, as a value of a type. -/
def defaultValue (fields : Fields) (type : Value) : Except Error (Option Value) :=
  match fields.get? "default" with
  | some value => coerceDefault type value
  | none => .error (.fault .missingField)

/-- The call for the default of a schema. -/
def defaultCalls (fields : Fields) (type : Value) : Except Error (List Call) := do
  if !fields.has "default" then return []
  match ← defaultValue fields type with
  | some value => return [← callWith "default" value]
  | none => return []

/-- All calls that follow the validator of a schema, taken as a schema of the given type. -/
def calls (fields : Fields) (type : Value) (p : Presence) : Except Error (List Call) := do
  return (← constraints fields type) ++ presence fields p ++ (← defaultCalls fields type)

end RestContract.Validation
