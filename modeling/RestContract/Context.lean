import RestContract.Operation.Extraction
import RestContract.Schema.Declaration

/-!
# What a document says

Everything that is known of a document before a contract is written: the schemas to be declared, in
their order, and the operations.
-/

namespace RestContract

/-- What a document says. -/
structure Context where
  document : Value
  scope : Schema.Scope
  operations : List Operation

namespace Context

/-- The schemas to be declared. -/
def declarations (context : Context) : List Schema.Declaration := context.scope.declarations

/-- What a document says, if its schemas can be ordered and its operations read. -/
def ofDocument (document : Value) : Traced Context := do
  let components ← Components.ofDocument document
  let declarations ← Schema.declarations document components
  let operations ← Operation.ofDocument document components
  Traced.note .context ("Built generation context: " ++ toString declarations.length ++
    " schemas, " ++ toString operations.length ++ " operations")
  return { document, scope := { components, declarations }, operations }

/-- What a document says, taken with another room. -/
def within (context : Context) (room : Nat) : Context :=
  { context with scope := { context.scope with room } }

/-- The version of the document format, as the document states it. -/
def version (context : Context) : Except Error String :=
  match context.document with
  | .map fields _ => ((Fields.get? fields "openapi").map Value.shown).getD (.ok "")
  | _ => .ok ""

end Context
end RestContract
