import RestContract.Expr.Basic

/-!
# Entries of a contract

What a contract says about one operation, and the router that holds the entries of all operations
under their names.
-/

namespace RestContract.Contract

/-- What a contract says about an operation. -/
structure Entry where
  name : String
  method : String
  path : String
  summary : Option String
  headers : Option Expr
  query : Option Expr
  pathParams : Option Expr
  body : Option Expr
  contentType : Option String
  /-- The validators of the responses by code. -/
  responses : List (String × Expr)

/-- A path in which a colon marks each parameter. -/
def pathChars (path : List Char) : List Char :=
  (path.map fun c => if c = '\x7b' then ':' else c).filter (· != '\x7d')

/-- A path in which a colon marks each parameter. -/
def contractPath (path : String) : String := String.ofList (pathChars path.toList)

/-- A property, if there is a value for it. -/
def optional (key : String) (value : Option Expr) : List Property :=
  (value.map (Expr.property key)).toList

/-- An object with an expression under each of some names. -/
def table (named : List (String × Expr)) : Expr :=
  .object (named.map fun (name, e) => Expr.property name e)

/-- The entry as an object. -/
def Entry.toExpr (entry : Entry) : Expr :=
  .object (
    [Expr.property "method" (Expr.text entry.method),
      Expr.property "path" (Expr.text entry.path)] ++
    optional "summary" (entry.summary.map Expr.text) ++
    optional "headers" entry.headers ++
    optional "query" entry.query ++
    optional "pathParams" entry.pathParams ++
    optional "body" entry.body ++
    optional "contentType" (entry.contentType.map Expr.text) ++
    [Expr.property "responses" (table entry.responses)])

/-- The router of some entries. -/
def router (entries : List Entry) : Expr :=
  Expr.c "router" [table (entries.map fun entry => (entry.name, entry.toExpr))]

end RestContract.Contract
