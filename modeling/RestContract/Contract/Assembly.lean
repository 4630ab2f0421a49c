import RestContract.Compile.Schema
import RestContract.Contract.Entry
import RestContract.Contract.Expansion
import RestContract.Operation.Extraction
import RestContract.Text.Search

/-!
# Writing entries

The entry of an operation: its parameters by the place they stand in, its body with the content type
it is sent in, and its responses by code.
-/

namespace RestContract.Contract

open Schema Validation

/-- The places of parameters that a contract knows, in the order in which it lists them. -/
inductive Place where
  | header
  | query
  | path
  deriving DecidableEq, Repr

/-- The place that a parameter names. -/
def Place.ofValue? : Value → Option Place
  | .text "header" => some .header
  | .text "query" => some .query
  | .text "path" => some .path
  | _ => none

/-- The content type of a body that is sent as JSON. -/
def jsonType : String := "application/json"

/-- The content types that a body can be sent in. -/
def bodyTypes : List String :=
  [jsonType, "multipart/form-data", "application/x-www-form-urlencoded"]

/-- The validator of nothing. -/
def nothing : Expr := Expr.z "void" []

variable (scope : Scope)

/-- The property of a parameter. A parameter of the path is always required. -/
def parameter (place : Place) (fields : Fields) : Traced Property := do
  let schema := fields.get "schema"
  if schema.isNull then Traced.fail (.parameterSchema (← (fields.get "name").shown))
  else
    let flagged := match fields.get "required" with
      | .bool b => b
      | _ => false
    let p := if place = .path || flagged then Presence.required else Presence.optional
    match fields.get? "name" with
    | none => Traced.fail (.fault .missingField)
    | some name => return .valued name (← Compile.compile scope schema p)

/-- The property of a parameter with its place, if a contract knows the place. One in a cookie is
    dropped with a note. -/
def placed (operation : Operation) (fields : Fields) : Traced (Option (Place × Property)) := do
  let place := fields.get "in"
  if place.isText "cookie" then
    Traced.note .contract ("Dropping cookie parameter " ++ (fields.get "name").inspect ++ " of " ++
      operation.method.name ++ " " ++ operation.path)
    return none
  match Place.ofValue? place with
  | none => return none
  | some place => return some (place, ← parameter scope place fields)

/-- The validator of the parameters of one place, if there are any. -/
def group (place : Place) (all : List (Place × Property)) : Option Expr :=
  match all.filterMap fun (p, property) => if p = place then some property else none with
  | [] => none
  | properties => some (Expr.z "object" [.object properties])

/-- Whether a key of a content map names a form of JSON. Keys that are no texts are searched like
    the collections they are. -/
def namesJson : Value → Except Error Bool
  | .text s => .ok (Text.occurs "json" s)
  | .list items _ => .ok (items.any (·.isText "json"))
  | .map fields _ => .ok (Fields.has fields "json")
  | .pair first second => .ok (first.isText "json" || second.isText "json")
  | .set members => .ok (members.any fun member => member = .text "json")
  | _ => .error (.fault .wrongKind)

/-- The first key that names a form of JSON. -/
def firstJson : List Value → Except Error (Option Value)
  | [] => .ok none
  | key :: rest => do
    if ← namesJson key then return some key
    firstJson rest

/-- The key of a content map whose schema is the schema of a body, and the content type it is sent
    in: the first form of JSON, which is sent as JSON, or else the first supported type. -/
def selectBody (keys : List Value) : Except Error (Value × String) := do
  match ← firstJson keys with
  | some key => return (key, jsonType)
  | none =>
    match keys.find? fun key => bodyTypes.any key.isText with
    | some key => return (key, key.display)
    | none => throw (.bodyContentType (← (keys.head?.getD (.text "")).shown))

/-- The schema under a key of a content map. -/
def schemaUnder (content key : Value) : Except Error Value := do
  let media ← (← content.part key).orEmptyMap.asFields
  return media.get "schema"

/-- The validator of a schema, or of nothing where there is no schema. -/
def compileOrNothing (schema : Value) : Traced Expr :=
  if schema.isNull then return nothing else Compile.compile scope schema .required

/-- The validator of a request body and the content type it is sent in. -/
def requestBody (operation : Operation) (fields : Fields) : Traced (Expr × String) := do
  let content := fields.get "content"
  if content.isVacant then
    Traced.fail (.missingContentType operation.method.name operation.path)
  else
    let (key, contentType) ← selectBody (← content.asParts)
    let schema ← schemaUnder content key
    return (← compileOrNothing scope schema, contentType)

/-- The validator of the body of an operation, if it has a body, and the content type it is sent in.
    Only an operation that reads can go without a body. -/
def body (operation : Operation) : Traced (Option Expr × Option String) :=
  match operation.requestBody with
  | some fields => do
    let (e, contentType) ← requestBody scope operation fields
    return (some e, some contentType)
  | none =>
    if operation.method = .get then return (none, none) else return (some nothing, none)

/-- The key of a content map whose schema is the schema of a response. -/
def selectResponse (keys : List Value) : Except Error Value :=
  match keys.find? (·.isText jsonType) with
  | some key => .ok key
  | none =>
    match keys with
    | key :: _ => .ok key
    | [] => .error (.fault .outOfRange)

/-- The property that holds the content type of a response. Where the document gives null for it,
    the name stands for itself. -/
def contentTypeProperty (key : Value) : Except Error Property := do
  if key.isNull then return .shorthand "contentType"
  else return Expr.property "contentType" (← Expr.constant key)

/-- The validator of a response. One that is not JSON has its content type beside it. -/
def response (fields : Fields) : Traced Expr := do
  let content := fields.get "content"
  if content.isVacant then return nothing
  let key ← selectResponse (← content.asParts)
  let e ← compileOrNothing scope (← schemaUnder content key)
  if key.isText jsonType then return e
  return Expr.c "otherResponse" [.object [← contentTypeProperty key, Expr.property "body" e]]

/-- The validators of the responses that are used, by code. -/
def share (s : Share Fields) : Traced (List (String × Expr)) := do
  let e ← response scope s.response
  return s.codes.map (·, e)

/-- The form of the key of a response. -/
def classify (operation : Operation) (entry : String × Fields) :
    Except Error (StatusKind × String × Fields) := do
  return (← Operation.statusOf operation.method.name (.text operation.path) entry.1, entry)

/-- The validators of the responses of an operation, by ascending code. -/
def responses (operation : Operation) : Traced (List (String × Expr)) := do
  let classified ← (operation.responses.mapM (classify operation) : Except Error _)
  return sortByCode (← (expand classified).mapM (share scope)).flatten

/-- The entry of an operation. -/
def assemble (operation : Operation) : Traced Entry := do
  let parameters := (← operation.parameters.mapM (placed scope operation)).filterMap id
  let (body, contentType) ← body scope operation
  let responses ← responses scope operation
  let summary := match operation.summary with
    | some summary => some summary
    | none => operation.description
  return {
    name := operation.contractName
    method := operation.method.upperName
    path := contractPath operation.path
    summary := summary.filter fun s => !s.isEmpty
    headers := group .header parameters
    query := group .query parameters
    pathParams := group .path parameters
    body, contentType, responses }

end RestContract.Contract
