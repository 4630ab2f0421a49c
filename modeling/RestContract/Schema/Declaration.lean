import RestContract.Name
import RestContract.Schema.Order
import RestContract.Trace

/-!
# Schema declarations

The component schemas in the order in which a module declares them. Each declaration has the name of
its component, the identifier it is bound to, the reference that leads to it and the schema that the
reference resolves to.
-/

namespace RestContract.Schema

/-- A component schema to be declared. -/
structure Declaration where
  name : String
  identifier : String
  ref : String
  schema : Fields

/-- The declaration that a reference leads to. -/
def Declaration.ofRef (components : Value) (ref : String) : Except Error Declaration := do
  let r ← Reference.parse (.text ref)
  match Fields.recordFields? (← Components.resolve components (.text ref)) with
  | some schema => return { name := r.name, identifier := Name.identifier r.name, ref, schema }
  | none => throw (.fault .invalidRecord)

/-- The nodes of the dependency graph in the order of declaration. -/
def declarationOrder (graph : Graph) : Except Error (List String) :=
  match graph.order with
  | .ok refs => .ok refs
  | .error path => .error (.circularDependency path)

/-- The declarations of a document, each after those it refers to. -/
def declarations (document components : Value) : Traced (List Declaration) := do
  let graph ← dependencies document components
  let refs ← declarationOrder graph
  Traced.note .schemas ("Schema declaration order: " ++ (Value.ofItems (refs.map .text)).inspect)
  refs.mapM fun ref => Traced.lift (Declaration.ofRef components ref)

/-- What a schema can refer to: the components of its document, and the declarations among them. The
    room bounds the steps that are taken into it. -/
structure Scope where
  components : Value
  declarations : List Declaration
  room : Nat := usualRoom

/-- The scope of a document without components. -/
def Scope.bare : Scope := { components := .object [], declarations := [] }

/-- The declaration that a reference, written exactly so, leads to. -/
def Scope.find? (scope : Scope) (ref : Value) : Option Declaration :=
  match ref with
  | .text ref => scope.declarations.find? (·.ref == ref)
  | _ => none

end RestContract.Schema
