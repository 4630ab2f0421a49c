import RestContract.Context
import RestContract.Contract.Assembly
import RestContract.Expr.Printer

/-!
# The module

The text of the module of a document: what it imports, a constant for each declared schema, the
object that exports them, and the contract. Each of them is one line.
-/

namespace RestContract.Emission

open Validation

/-- What every module starts with. -/
def opening : List String :=
  ["import \x7b initContract \x7d from \"@ts-rest/core\";",
   "import \x7b z \x7d from \"zod\";",
   "",
   "const c = initContract();",
   ""]

/-- The line that declares a schema. -/
def declarationLine (scope : Schema.Scope) (declaration : Schema.Declaration) : Traced String := do
  let e ← Compile.compile scope (.ofFields declaration.schema) .unstated
  return "const " ++ declaration.identifier ++ " = " ++ (← e.render) ++ ";"

/-- The object that holds the declared schemas under their identifiers. -/
def exported (declarations : List Schema.Declaration) : Expr :=
  .object (declarations.map fun declaration => .shorthand declaration.identifier)

/-- The lines for the declared schemas, if there are any. -/
def schemaLines (context : Context) : Traced (List String) := do
  if context.declarations.isEmpty then return []
  let lines ← context.declarations.mapM (declarationLine context.scope)
  let all ← (exported context.declarations).render
  return lines ++ ["", "export const schemas = " ++ all ++ ";", ""]

/-- The line for the contract. -/
def contractLine (context : Context) : Traced String := do
  let entries ← context.operations.mapM (Contract.assemble context.scope)
  Traced.note .emission ("Assembled " ++ toString entries.length ++ " contract entries")
  return "export const contract = " ++ (← (Contract.router entries).render) ++ ";"

/-- The lines of the module of a document. -/
def moduleLines (context : Context) : Traced (List String) := do
  let schemas ← schemaLines context
  let contract ← contractLine context
  return opening ++ schemas ++ [contract]

/-- The text of the module of a document. -/
def moduleText (context : Context) : Traced String := do
  return String.join ((← moduleLines context).map (· ++ "\n"))

end RestContract.Emission
