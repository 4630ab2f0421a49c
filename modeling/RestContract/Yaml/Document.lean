import RestContract.Yaml.Node.Document
import RestContract.Yaml.Node.Unrolled

/-!
# Reading YAML

The value of a text of YAML, in the kinds of values that its usual tags have.
-/

namespace RestContract.Yaml

/-- The value of a text; a text without a document is null. -/
def readIn (room : Nat) (text : String) : Except Failure Value := do
  match ← Nodes.ofTokens room (Token.ofText text.toList) with
  | some (nodes, root) => nodes.value room root
  | none => return .null

end RestContract.Yaml
