import RestContract.Text.Search
import RestContract.Value.Access
import RestContract.Value.Display

/-!
# The version of a document

A document says which version of the format it follows. Versions that start with a three and a point
are supported. The field of an older format is refused first.
-/

namespace RestContract.Document

/-- What the field of the older format means where a value is no map: a list or a text that holds
    its name is read by a name that it cannot be read by. -/
def olderFault (document : Value) : Fault :=
  match document with
  | .list items _ => if items.any (·.isText "swagger") then .wrongKind else .noSuchPart
  | .scalar (.text s) => if Text.occurs "swagger" s then .wrongKind else .noSuchPart
  | _ => .wrongKind

/-- The version that a document states, if it is supported. -/
def supported (stated : Value) : Except Error String := do
  let version ← stated.shown
  if "3.".isPrefixOf version then return version
  else throw (.source (.unsupportedVersion version))

/-- The version of a document, if it is supported. -/
def version (document : Value) : Except Error String :=
  match document with
  | .map fields _ =>
    match Fields.get? fields "swagger" with
    | some older => do throw (.source (.oldFormat (← older.shown)))
    | none =>
      match Fields.get fields "openapi" with
      | .null => .error (.source .noVersion)
      | stated => supported stated
  | document => .error (.fault (olderFault document))

end RestContract.Document
