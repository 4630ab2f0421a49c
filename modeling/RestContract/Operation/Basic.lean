import RestContract.Error
import RestContract.Name
import RestContract.Operation.Method
import RestContract.Operation.Status
import RestContract.Value.Access

/-!
# Operations

One method of one path, with its parameters, request body and responses. The record is checked when
it is made: its texts are texts, and all maps in it have texts as keys. Bytes that are a text count
as one.
-/

namespace RestContract

/-- An operation. -/
structure Operation where
  method : Method
  path : String
  operationId : Option String
  summary : Option String
  description : Option String
  parameters : List Fields
  requestBody : Option Fields
  responses : List (String × Fields)

namespace Operation

/-- The fault of a record whose fields are not what they have to be. -/
def malformed {α : Type} : Except Error α := .error (.fault .invalidRecord)

/-- A text. -/
def checkText (value : Value) : Except Error String :=
  match value with
  | .scalar s =>
    match s.recordText? with
    | some text => .ok text
    | none => malformed
  | _ => malformed

/-- A text that may be null. -/
def checkText? : Value → Except Error (Option String)
  | .null => .ok none
  | value => do return some (← checkText value)

/-- A map whose keys are texts. -/
def checkFields : Value → Except Error Fields
  | .map fields _ =>
    match Fields.recordFields? fields with
    | some fields => .ok fields
    | none => malformed
  | _ => malformed

/-- A map whose keys are texts, or null. -/
def checkFields? : Value → Except Error (Option Fields)
  | .null => .ok none
  | value => do return some (← checkFields value)

/-- A response under its key. -/
def checkResponse (response : String × Value) : Except Error (String × Fields) := do
  return (response.1, ← checkFields response.2)

/-- The parts of an operation before they are checked. -/
structure Draft where
  method : Method
  path : Value
  operationId : Value
  summary : Value
  description : Value
  parameters : List Value
  requestBody : Value
  responses : List (String × Value)

/-- The operation that its parts make, if they are what they have to be. -/
def ofDraft (draft : Draft) : Except Error Operation := do
  return {
    method := draft.method
    path := ← checkText draft.path
    operationId := ← checkText? draft.operationId
    summary := ← checkText? draft.summary
    description := ← checkText? draft.description
    parameters := ← draft.parameters.mapM checkFields
    requestBody := ← checkFields? draft.requestBody
    responses := ← draft.responses.mapM checkResponse }

/-- The name of an operation in the contract: its own name, or else the one that its path gives. -/
def contractName (operation : Operation) : String :=
  match operation.operationId with
  | some id => if id.isEmpty then Name.ofPath operation.path else Name.camelCase id
  | none => Name.ofPath operation.path

end Operation
end RestContract
