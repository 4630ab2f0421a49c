import RestContract.Value.Access
import RestContract.Value.Display

/-!
# References

A reference names a component of the document: its kind and its name, written as a path in which a
tilde and a slash of the name are escaped. Resolving a reference looks the component up and follows
it as long as it is a reference itself, within one kind and over a limited number of steps.
-/

namespace RestContract

/-- The kinds of components that a reference can name. -/
inductive ComponentKind where
  | schemas
  | parameters
  | requestBodies
  | responses
  | headers
  | pathItems
  deriving DecidableEq, Repr

namespace ComponentKind

/-- The field of the document's components that holds the kind. -/
def name : ComponentKind → String
  | .schemas => "schemas"
  | .parameters => "parameters"
  | .requestBodies => "requestBodies"
  | .responses => "responses"
  | .headers => "headers"
  | .pathItems => "pathItems"

def all : List ComponentKind :=
  [.schemas, .parameters, .requestBodies, .responses, .headers, .pathItems]

/-- What every reference into a section of the components starts with. -/
def sectionStart (section_ : String) : List Char := ("#/components/" ++ section_ ++ "/").toList

/-- What every reference to a component of the kind starts with. -/
def start (kind : ComponentKind) : List Char := sectionStart kind.name

end ComponentKind

/-- A component by its kind and name. -/
structure Reference where
  kind : ComponentKind
  name : String
  deriving DecidableEq, Repr

namespace Reference

/-- A name with its tildes and slashes escaped. -/
def escape : List Char → List Char
  | [] => []
  | c :: rest =>
    if c = '~' then '~' :: '0' :: escape rest
    else if c = '/' then '~' :: '1' :: escape rest
    else c :: escape rest

/-- A text in which every escaped slash is a slash again. -/
def unescapeSlashes : List Char → List Char
  | '~' :: '1' :: rest => '/' :: unescapeSlashes rest
  | c :: rest => c :: unescapeSlashes rest
  | [] => []

/-- A text in which every escaped tilde is a tilde again. -/
def unescapeTildes : List Char → List Char
  | '~' :: '0' :: rest => '~' :: unescapeTildes rest
  | c :: rest => c :: unescapeTildes rest
  | [] => []

/-- The name that an escaped text stands for. Slashes come first, so that an escaped tilde before a
    digit one is no slash. -/
def unescape (text : List Char) : List Char := unescapeTildes (unescapeSlashes text)

/-- The written form of a reference into any section of the components. -/
def writeIn (section_ name : String) : String :=
  String.ofList (ComponentKind.sectionStart section_ ++ escape name.toList)

/-- The written form of a reference. -/
def write (r : Reference) : String := writeIn r.kind.name r.name

/-- What follows `start` in a text that starts with it. -/
def rest? (start text : List Char) : Option (List Char) :=
  if start.isPrefixOf text then some (text.drop start.length) else none

/-- The kind that a written reference starts with, and its escaped name. -/
def split? (text : List Char) : Option (ComponentKind × List Char) :=
  ComponentKind.all.findSome? fun kind => (rest? kind.start text).map (kind, ·)

/-- The reference that a text stands for. It names one of the kinds and has a name without further
    slashes. -/
def parse? (ref : String) : Option Reference :=
  match split? ref.toList with
  | some (kind, name) =>
    if name.isEmpty || name.contains '/' then none
    else some ⟨kind, String.ofList (unescape name)⟩
  | none => none

/-- The reference that a value stands for. -/
def parse (ref : Value) : Except Error Reference :=
  match ref with
  | .text s =>
    match parse? s with
    | some r => .ok r
    | none => .error (.malformedReference s)
  | ref => do throw (.malformedReference (← ref.shown))

/-- What a value refers to: a map with a field `$ref` is a reference. -/
def target? : Value → Option Value
  | .map fields _ => Fields.get? fields "$ref"
  | _ => none

end Reference

/-- Whether a value is a reference. -/
def Value.isReference (value : Value) : Bool := (Reference.target? value).isSome

namespace Components

/-- The components of a document; one that counts as nothing holds no components. -/
def ofDocument (document : Value) : Except Error Value := do
  let fields ← document.asFields
  return (fields.get "components").orEmptyMap

/-- The number of references that are followed from one reference on. -/
def maxDepth : Nat := 100

/-- The fields of a component, if there is one and it is a map. -/
def lookup (components : Value) (r : Reference) : Except Error (Option Fields) := do
  let kinds ← components.asFields
  match kinds.get r.kind.name with
  | .map named _ =>
    match Fields.get? named r.name with
    | some (.map fields _) => return some fields
    | _ => return none
  | _ => return none

/-- The component that `current` names, where `ref` was asked for and names the kind. -/
def named (components ref : Value) (kind : ComponentKind) (current : Value) :
    Except Error Fields := do
  let r ← Reference.parse current
  if r.kind = kind then
    match ← lookup components r with
    | some fields => return fields
    | none => throw (.unresolvedReference ref.display)
  else throw (.unresolvedReference ref.display)

/-- The component that `current` leads to, where `ref` was asked for and names the kind; a number of
    further references may be followed. -/
def follow (components ref : Value) (kind : ComponentKind) : Nat → Value → Except Error Fields
  | 0, current => do
    let fields ← named components ref kind current
    if fields.has "$ref" then throw (.referenceDepth ref.display) else return fields
  | steps + 1, current => do
    let fields ← named components ref kind current
    match fields.get? "$ref" with
    | some next => follow components ref kind steps next
    | none => return fields

/-- The component that a reference leads to. -/
def resolve (components : Value) (ref : Value) : Except Error Fields := do
  let r ← Reference.parse ref
  follow components ref r.kind maxDepth ref

/-- The value itself, or the component that it refers to. -/
def resolveValue (components : Value) (value : Value) : Except Error Value :=
  match Reference.target? value with
  | some ref => do return .ofFields (← resolve components ref)
  | none => .ok value

end Components
end RestContract
