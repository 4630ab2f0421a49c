import RestContract.Operation.Basic
import RestContract.Reference
import RestContract.Trace

/-!
# Operations of a document

The operations in the order of the document: path by path, and within a path method by method.
References at the top of a path, a parameter, a request body or a response are resolved; the schemas
inside stay as they are. Paths without contents are passed over, and so are methods without
responses.
-/

namespace RestContract.Operation

/-- The fields of a path that belong to all of its methods. -/
def sharedFields : List String := ["summary", "description", "parameters", "servers"]

/-- The text of a key of a path. -/
def keyText : Scalar → Except Error String
  | .text s => .ok s
  | .bytes _ => .error (.fault .wrongKind)
  | _ => .error (.fault .noSuchPart)

/-- Whether a field of a path holds no operation: it is shared, or an extension. -/
def isPassedOver (key : String) : Bool := sharedFields.contains key || "x-".isPrefixOf key

/-- The method of a field of a path. -/
def methodOf (key : String) (path : Scalar) : Except Error Method := do
  match Method.ofKey? key with
  | some method => return method
  | none => throw (.httpMethod key (← path.shown))

/-- The form of the key of a response. -/
def statusOf (method : String) (path : Scalar) (code : String) : Except Error StatusKind := do
  match StatusKind.ofKey? code with
  | some kind => return kind
  | none => throw (.statusCode method (← path.shown) code)

/-- The parameters of a path and of one of its operations, without repetitions and resolved. -/
def parametersOf (components : Value) (item operation : Fields) : Except Error (List Value) := do
  let shared ← (item.get "parameters").orEmptyList.asParts
  let own ← (operation.get "parameters").orEmptyList.asParts
  (Value.dedup (shared ++ own)).mapM (Components.resolveValue components)

/-- The request body of an operation, resolved. -/
def requestBodyOf (components : Value) (operation : Fields) : Except Error Value :=
  match operation.get "requestBody" with
  | .null => .ok .null
  | body => Components.resolveValue components body

/-- A list of named values with one more; one of the same name keeps its place and takes the new
    value. -/
def putNamed (named : List (String × Value)) (name : String) (value : Value) :
    List (String × Value) :=
  match named with
  | [] => [(name, value)]
  | (first, old) :: rest =>
    if first = name then (name, value) :: rest else (first, old) :: putNamed rest name value

/-- The responses of an operation, resolved, each under a key of one of the forms. -/
def responsesOf (components : Value) (method : Method) (path : Scalar) (operation : Fields) :
    Except Error (List (String × Value)) := do
  (← (operation.get "responses").asFields).foldlM (fun responses (key, response) => do
    let code ← key.shown
    let _ ← statusOf method.name path code
    return putNamed responses code (← Components.resolveValue components response)) []

/-- The operation of a method of a path. -/
def extract (components : Value) (path : Scalar) (item : Fields) (method : Method)
    (operation : Fields) : Except Error Operation := do
  let parameters ← parametersOf components item operation
  let requestBody ← requestBodyOf components operation
  let responses ← responsesOf components method path operation
  ofDraft {
    method, path := .scalar path, operationId := operation.get "operationId"
    summary := operation.get "summary", description := operation.get "description"
    parameters, requestBody, responses }

/-- No operation, with a note that the field held one without responses. -/
def skip (key path : String) : Traced (Option Operation) := do
  Traced.note .operations ("Skipping " ++ key ++ " " ++ path ++ ": no responses")
  return none

/-- The operation that a field of a path holds, if it holds one. -/
def ofField (components : Value) (path : Scalar) (item : Fields) (field : Scalar × Value) :
    Traced (Option Operation) := do
  let key ← keyText field.1
  if isPassedOver key then return none
  let method ← methodOf key path
  match field.2 with
  | .map operation _ =>
    if (Fields.get operation "responses").isVacant then skip key path.display
    else return some (← extract components path item method operation)
  | _ => skip key path.display

/-- The operations of a path. -/
def ofPath (components : Value) (path : Scalar × Value) : Traced (List Operation) := do
  if path.2.isVacant then return []
  let item ← (← Components.resolveValue components path.2).asFields
  return (← item.mapM (ofField components path.1 item)).filterMap id

/-- The operations of a document. -/
def ofDocument (document components : Value) : Traced (List Operation) := do
  let paths ← ((← document.asFields).get "paths").orEmptyMap.asFields
  let operations := (← paths.mapM (ofPath components)).flatten
  Traced.note .operations ("Extracted " ++ toString operations.length ++ " operations")
  return operations

end RestContract.Operation
