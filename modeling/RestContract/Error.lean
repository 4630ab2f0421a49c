/-!
# Failures

Why a run can end without a module. Every failure that is foreseen belongs to a category, which
fixes the exit code of the command line, and has a message for the reader. A fault is different:
some part of the document has a shape that no rule foresees, and the run stops where it is met.
-/

namespace RestContract

/-- The categories of foreseen failures. -/
inductive Category where
  | general
  | usage
  | settings
  | document
  | malformedReference
  | unresolvedReference
  | referenceDepth
  | circularDependency
  | httpMethod
  | statusCode
  | parameterSchema
  | missingContentType
  | bodyContentType
  | unsupportedSchema
  | unexpected
  deriving DecidableEq, Repr

/-- The exit code of a category: one for each group of failures that a build script tells apart. -/
def Category.exitCode : Category → Int
  | .general | .settings => 1
  | .usage => 2
  | .document | .malformedReference | .unresolvedReference | .referenceDepth
  | .circularDependency | .httpMethod | .statusCode => 7
  | .parameterSchema | .missingContentType | .bodyContentType | .unsupportedSchema => 8
  | .unexpected => 70

/-- How a value of an unforeseen shape stops a run. -/
inductive Fault where
  /-- A value is asked for fields, or for a part of a text, that its kind does not have. -/
  | noSuchPart
  /-- A value of the wrong kind is iterated, indexed, used as a key or written. -/
  | wrongKind
  /-- A field that a rule relies on is missing. -/
  | missingField
  /-- A list is read past its end. -/
  | outOfRange
  /-- A text does not stand for a value of the kind that is asked for. -/
  | badText
  /-- A record of a parsed document does not have the fields it is declared with. -/
  | invalidRecord
  /-- Values or references are nested too deep or without end. -/
  | endlessNesting
  /-- A number is too large for the arithmetic that is asked for. -/
  | overflow
  /-- Bytes lack the mark without which their character set has no text for them. -/
  | unmarkedText
  /-- The outside cannot tell whether there is a file. -/
  | inaccessible
  deriving DecidableEq, Repr

def Fault.message : Fault → String
  | .noSuchPart => "a value has no such part"
  | .wrongKind => "a value is of the wrong kind"
  | .missingField => "a required field is missing"
  | .outOfRange => "a list is too short"
  | .badText => "a text does not stand for a value of its kind"
  | .invalidRecord => "a record is malformed"
  | .endlessNesting => "values are nested too deep"
  | .overflow => "a number is too large"
  | .unmarkedText => "a text lacks the mark of its byte order"
  | .inaccessible => "a file cannot be looked up"

/-- How many calls of a rule can be open inside each other, where nothing else is said. The rules that
    a run can stop in for this reason take such a number as their room. Which number it is only shows
    in values that are nested about as deep. -/
def usualRoom : Nat := 985

/-- What is wrong with the source of a document. -/
inductive SourceError where
  | noInput
  | undecodableInput (reason : String)
  | badStatus (status : Int) (url : String)
  | unreachable (url reason : String)
  | missingFile (path : String)
  | unreadableFile (path reason : String)
  | emptyFile (path : String)
  | invalidJson (reason : String)
  | unparsable (json : Option String) (yaml : String)
  | notAnObject (kind : String)
  | oldFormat (version : String)
  | noVersion
  | unsupportedVersion (version : String)
  deriving DecidableEq, Repr

/-- The versions of the document format that are supported, as a message ends with them. -/
def SourceError.supported : String := "Only OpenAPI 3.0.x and 3.1.x are supported."

def SourceError.message : SourceError → String
  | .noInput => "No input received from stdin"
  | .undecodableInput reason => "Failed to read from stdin: " ++ reason
  | .badStatus status url => "HTTP " ++ toString status ++ " fetching spec from " ++ url
  | .unreachable url reason => "Failed to fetch spec from " ++ url ++ ": " ++ reason
  | .missingFile path => "Spec file not found: " ++ path
  | .unreadableFile path reason => "Failed to read spec file " ++ path ++ ": " ++ reason
  | .emptyFile path => "Spec file is empty: " ++ path
  | .invalidJson reason => "Invalid JSON: " ++ reason
  | .unparsable json yaml =>
    "Failed to parse spec as JSON or YAML" ++
      (json.map ("\n  JSON error: " ++ ·)).getD "" ++ "\n  YAML error: " ++ yaml
  | .notAnObject kind => "Spec must be a JSON/YAML object (got " ++ kind ++ ")"
  | .oldFormat version =>
    "Swagger " ++ version ++ " is not supported. " ++ supported ++
      " Consider converting with https://converter.swagger.io"
  | .noVersion => "Missing 'openapi' field. Is this an OpenAPI 3.x document?"
  | .unsupportedVersion version => "Unsupported OpenAPI version: " ++ version ++ ". " ++ supported

/-- A setting that has no admissible value: its name and what is wrong with the value. -/
structure Problem where
  field : String
  kind : String
  deriving DecidableEq, Repr

/-- What is wrong with the settings of a run. -/
inductive SettingsError where
  | malformedFile (path reason : String)
  | notAnObject (path : String)
  | badSwitch (name shown : String)
  | invalid (problems : List Problem)
  deriving DecidableEq, Repr

def SettingsError.message : SettingsError → String
  | .malformedFile path reason => "Invalid project config at " ++ path ++ ": " ++ reason
  | .notAnObject path => "Invalid project config at " ++ path ++ ": expected a JSON object"
  | .badSwitch name shown =>
    "Invalid value for " ++ name ++ ": " ++ shown ++ " (expected 0/1/true/false)"
  | .invalid problems =>
    "Invalid configuration: " ++
      "; ".intercalate (problems.map fun problem => problem.field ++ " (" ++ problem.kind ++ ")")

/-- Why a run ends without a module. -/
inductive Error where
  /-- A failure given by its category and its message alone, and by an exit code if it is to be
      another than that of its category. -/
  | stated (category : Category) (message : String) (code : Option Int)
  | source (cause : SourceError)
  | settings (cause : SettingsError)
  | malformedReference (ref : String)
  | unresolvedReference (ref : String)
  | referenceDepth (ref : String)
  /-- Component schemas that depend on each other; the path ends where it starts. -/
  | circularDependency (path : List String)
  | httpMethod (method path : String)
  | statusCode (method path code : String)
  | parameterSchema (name : String)
  | missingContentType (method path : String)
  | bodyContentType (contentType : String)
  | negation
  /-- An `anyOf` with more members than are expanded. -/
  | tooManyAlternatives (count limit : Nat)
  | unknownType (shown : String)
  | fault (fault : Fault)
  deriving DecidableEq, Repr

/-- A computation in two steps succeeds where both steps do. -/
theorem exists_of_bind_eq_ok {ε α β : Type} {x : Except ε α} {f : α → Except ε β} {b : β}
    (h : (x >>= f) = .ok b) : ∃ a, x = .ok a ∧ f a = .ok b := by
  cases x with
  | ok a => exact ⟨a, rfl, h⟩
  | error e => cases h

/-- Each result of a list of computations is that of one of them. -/
theorem exists_of_mem_mapM {ε α β : Type} {f : α → Except ε β} {xs : List α} {ys : List β} {y : β}
    (h : xs.mapM f = .ok ys) (hy : y ∈ ys) : ∃ x ∈ xs, f x = .ok y := by
  induction xs generalizing ys with
  | nil =>
    cases h
    cases hy
  | cons x rest ih =>
    rw [List.mapM_cons] at h
    obtain ⟨first, hf, h⟩ := exists_of_bind_eq_ok h
    obtain ⟨others, ho, h⟩ := exists_of_bind_eq_ok h
    cases h
    cases hy with
    | head => exact ⟨x, List.mem_cons_self, hf⟩
    | tail _ hy =>
      obtain ⟨z, hz, hfz⟩ := ih ho hy
      exact ⟨z, List.mem_cons_of_mem _ hz, hfz⟩

namespace Error

/-- The category of a foreseen failure. -/
def category? : Error → Option Category
  | .stated category .. => some category
  | .source _ => some .document
  | .settings _ => some .settings
  | .malformedReference _ => some .malformedReference
  | .unresolvedReference _ => some .unresolvedReference
  | .referenceDepth _ => some .referenceDepth
  | .circularDependency _ => some .circularDependency
  | .httpMethod .. => some .httpMethod
  | .statusCode .. => some .statusCode
  | .parameterSchema _ => some .parameterSchema
  | .missingContentType .. => some .missingContentType
  | .bodyContentType _ => some .bodyContentType
  | .negation | .tooManyAlternatives .. => some .unsupportedSchema
  | .unknownType _ => some .unexpected
  | .fault _ => none

/-- Whether the failure is foreseen. -/
def isForeseen (e : Error) : Bool := e.category?.isSome

def message : Error → String
  | .stated _ message _ => message
  | .source cause => cause.message
  | .settings cause => cause.message
  | .malformedReference ref => "Invalid reference: " ++ ref
  | .unresolvedReference ref => "Could not resolve reference: " ++ ref
  | .referenceDepth ref => "Reference resolution depth exceeded: " ++ ref
  | .circularDependency path =>
    "Circular reference dependency found: " ++ " -> ".intercalate path
  | .httpMethod method path => "Invalid HTTP method at path " ++ path ++ ": " ++ method
  | .statusCode method path code =>
    "Invalid status code at path " ++ method ++ " " ++ path ++ ": " ++ code
  | .parameterSchema name => "Missing schema in parameter object: " ++ name
  | .missingContentType method path =>
    "Missing content type in request body at path " ++ method ++ " " ++ path
  | .bodyContentType contentType => "Unsupported request body content type: " ++ contentType
  | .negation => "Unsupported schema keyword: not"
  | .tooManyAlternatives count limit =>
    "anyOf with " ++ toString count ++ " members is not supported (at most " ++ toString limit ++
      ")"
  | .unknownType shown => "Unsupported schema type " ++ shown
  | .fault f => "Unreadable document: " ++ f.message

/-- The exit code of the command line for a failure; a fault ends it like any other program that
    stops half-way. -/
def exitCode (e : Error) : Int :=
  match e with
  | .stated _ _ (some code) => code
  | e => (e.category?.map Category.exitCode).getD 1

end Error
end RestContract
