import RestContract.Json.Reader
import RestContract.Value.Access
import RestContract.Yaml.Document

/-!
# The value of a text

A document is a text of JSON or YAML. Where nothing says which of the two it is, JSON is tried
first; a text that is said to be JSON is read as nothing else, so that its errors are those of JSON.
A text that goes over a limit of its reader is a fault in either format. Either way the value has to
be a map.
-/

namespace RestContract.Document

/-- The formats of a document. -/
inductive Format where
  | json
  | yaml
  deriving DecidableEq, Repr

/-- The kind of a value, as a message names it. -/
def kindName : Value → String
  | .scalar .null => "empty document"
  | .scalar (.bool _) => "bool"
  | .scalar (.int _) => "int"
  | .scalar (.double _) => "float"
  | .scalar (.text _) => "str"
  | .scalar (.date _) => "date"
  | .scalar (.moment _) => "datetime"
  | .scalar (.bytes _) => "bytes"
  | .list .. => "list"
  | .map .. => "dict"
  | .pair .. => "tuple"
  | .set _ => "set"

/-- A value that has to be a map. -/
def requireMap : Value → Except Error Value
  | .map fields mark => .ok (.map fields mark)
  | value => .error (.source (.notAnObject (kindName value)))

/-- The value of a text of YAML. `json` says why it is no JSON, if that was tried. -/
def readYaml (room : Nat) (content : String) (json : Option String) : Except Error Value :=
  match Yaml.readIn room content with
  | .ok value => requireMap value
  | .error (.fault f) => .error (.fault f)
  | .error e => .error (.source (.unparsable json e.message))

/-- The value of a text, of which a format may be known. -/
def parseIn (room : Nat) (content : String) (format : Option Format) : Except Error Value :=
  if format = some .yaml then readYaml room content none
  else
    match Json.readIn room content with
    | .ok value => requireMap value
    | .error e =>
      match e.fault? with
      | some fault => .error (.fault fault)
      | none =>
        if format = some .json then .error (.source (.invalidJson e.message))
        else readYaml room content (some e.message)

/-- Reading in the usual room. -/
def parse : String → Option Format → Except Error Value := parseIn usualRoom

end RestContract.Document
