import RestContract.Compile.Combination
import RestContract.Compile.Enumeration
import RestContract.Schema.Declaration
import RestContract.Validation.Default

/-!
# Compiling schemas

The validator of a schema. A reference to a declared schema is its identifier. Any other schema is
compiled by the first of these that it has: a composition, an enumeration, a type; the calls for its
constraints, its presence and its default follow. A list of several types is the union of the schema
taken with each of them.

The functions take the compiler of nested schemas as an argument, and tell it how many steps further
in a schema is. `compileAt` closes this circle for schemas that are a limited number of steps deep,
so that schemas, whose references may lead anywhere, are compiled by recursion on a number.
-/

namespace RestContract.Compile

open Schema Validation

/-- A compiler of schemas. -/
abbrev Compiler := Value → Presence → Traced Expr

variable (inner : Nat → Compiler)

/-- The validators of the members of a composition. -/
def members (steps : Nat) (value : Value) : Traced (List Expr) := do
  (← value.asParts).mapM fun member => inner steps member .unstated

/-- The union of all combinations of the members, if there are not too many. -/
def alternatives (value : Value) : Traced Expr := do
  let parts ← value.asParts
  if parts.length > maxAlternatives then
    Traced.fail (.tooManyAlternatives parts.length maxAlternatives)
  else return anyOf (← members inner 4 value)

/-- The validator of the property of an object. -/
def property (required : List Scalar) (key : Scalar) (schema : Value) : Traced Property := do
  let p := if required.any (·.same key) then Presence.required else Presence.optional
  return .valued (.scalar key) (← inner 5 schema p)

/-- The key that a value is, if any. A pair can be required, but is no key of a map. -/
def requiredKey (value : Value) : Except Error (Option Scalar) :=
  match value with
  | .scalar key => .ok (some key)
  | value => if value.isKey then .ok none else .error (.fault .wrongKind)

/-- The keys of the properties that have to be there. -/
def requiredKeys (fields : Fields) : Except Error (List Scalar) := do
  let keys ← (← (fields.get "required").orEmptyList.asParts).mapM requiredKey
  return keys.filterMap id

/-- The validator of an object by its properties. -/
def properties (fields : Fields) : Traced Expr := do
  let required ← requiredKeys fields
  let properties ← (fields.get "properties").orEmptyMap.asFields
  let compiled ← properties.mapM fun (key, schema) => property inner required key schema
  return Expr.z "object" [.object compiled]

/-- The validator of an object. One without properties can be a record of values that all follow one
    schema. -/
def object (fields : Fields) : Traced Expr :=
  if (fields.get "properties").isVacant then
    match fields.get "additionalProperties" with
    | .bool true => return Expr.z "record" [Expr.z "any" []]
    | .map additional mark =>
      return Expr.z "record" [← inner 4 (.map additional mark) .unstated]
    | _ => properties inner fields
  else properties inner fields

/-- The validator of a list. -/
def array (fields : Fields) : Traced Expr := do
  let items := fields.get "items"
  if items.isNull then return Expr.z "array" [Expr.z "any" []]
  return Expr.z "array" [← inner 3 items .unstated]

/-- The validator of a text. -/
def text (fields : Fields) : Expr :=
  if (fields.get "format").isText "binary" then Expr.z "instanceof" [.identifier "File"]
  else Expr.z "string" []

/-- The validator for a single type. A schema without one can still be an object. -/
def ofTag (fields : Fields) (type : Value) : Traced Expr :=
  if type.isText "string" then return text fields
  else if type.isText "number" || type.isText "integer" then return Expr.z "number" []
  else if type.isText "boolean" then return Expr.z "boolean" []
  else if type.isText "null" then return Expr.z "null" []
  else if type.isText "array" then array inner fields
  else if type.isText "object" || !(fields.get "properties").isNull then object inner fields
  else
    match type with
    | .null | .list [] _ => return Expr.z "unknown" []
    | type => do Traced.fail (.unknownType (← type.shown))

/-- A schema with another type. -/
def retyped (fields : Fields) (type : Value) : Value := .ofFields (fields.put "type" type)

/-- The validator for a type. -/
def ofType (fields : Fields) (type : Value) : Traced Expr :=
  match type with
  | .list (first :: second :: rest) _ => do
    let members ← (first :: second :: rest).mapM fun tag =>
      inner 4 (retyped fields tag) .unstated
    return Expr.z "union" [.array members]
  | type => ofTag inner fields type

/-- The validator of a schema of a type without its calls. -/
def base (fields : Fields) (type : Value) : Traced Expr :=
  if fields.has "not" then Traced.fail .negation
  else if !(fields.get "oneOf").isVacant then
    return union (← members inner 3 (fields.get "oneOf"))
  else if !(fields.get "allOf").isVacant then
    return joinBy "and" (← members inner 3 (fields.get "allOf"))
  else if !(fields.get "anyOf").isVacant then alternatives inner (fields.get "anyOf")
  else
    match fields.get? "enum" with
    | some values => do enumeration type (← values.asParts)
    | none => ofType inner fields type

/-- The validator of a schema that is no reference. A list of one type stands for that type. -/
def concrete (fields : Fields) (p : Presence) : Traced Expr :=
  match fields.get "type" with
  | .list [tag] _ => inner 1 (retyped fields tag) p
  | type => do
    let validator ← base inner fields type
    return Expr.chain validator (← Validation.calls fields type p)

/-- The validator of a schema where nested schemas are compiled by `inner`. -/
def compileWith (scope : Scope) : Compiler := fun schema p =>
  match Reference.target? schema with
  | none => do concrete inner (← schema.asFields) p
  | some ref => do
    let _ ← ref.asKey
    match scope.find? ref with
    | some declaration =>
      return Expr.chain (.identifier declaration.identifier) (presence [] p)
    | none => concrete inner (← Components.resolve scope.components ref) p

/-- The validator of a schema that is some steps further in, as long as there is room for a step. -/
def compileAt (scope : Scope) : Nat → Nat → Compiler
  | 0, _ => fun _ _ => Traced.fail (.fault .endlessNesting)
  | room + 1, steps + 1 => compileAt scope room steps
  | room + 1, 0 => compileWith (fun steps => compileAt scope room (steps - 1)) scope

/-- The validator of a schema. -/
def compile (scope : Scope) : Compiler := compileAt scope scope.room 0

end RestContract.Compile
