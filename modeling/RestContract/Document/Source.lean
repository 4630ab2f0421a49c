import RestContract.Document.Content
import RestContract.Document.ContentType
import RestContract.Text.Blank
import RestContract.Text.Encoding
import RestContract.Text.Search
import RestContract.Trace

/-!
# Where documents come from

A document is read from the standard input, from an address or from a file. What the outside gives
for each of them is a value here, so that reading a document is a function of it.
-/

namespace RestContract.Document

/-- A place that a document is read from. -/
inductive Source where
  | standardInput
  | address (url : String)
  | file (path : String)
  deriving DecidableEq, Repr

/-- The place that a text names. -/
def Source.ofText (s : String) : Source :=
  if s = "-" then .standardInput
  else if "http://".isPrefixOf s || "https://".isPrefixOf s then .address s
  else .file s

/-- What a file or the standard input holds. -/
inductive Contents where
  | missing
  | unreadable (reason : String)
  /-- The outside cannot even tell whether there is something. -/
  | inaccessible
  | bytes (bytes : List Nat)

/-- What comes back from an address. -/
inductive Response where
  | unreachable (reason : String)
  | received (status : Int) (contentType : Option String) (body : List Nat)

/-- The text of bytes, with all its lines ended alike, or why they are no text. -/
def textOfBytes (bytes : List Nat) : Except String String :=
  match Text.decode bytes with
  | .ok text => .ok (String.ofList (Text.unifyBreaks text))
  | .error e => .error e.message

/-- The text of what the standard input or a file holds, if it holds anything. `unreadable` is the
    failure where what it holds is no text. -/
def Contents.text? (contents : Contents) (unreadable : String → Error) :
    Except Error (Option String) :=
  match contents with
  | .missing => .ok none
  | .unreadable reason => .error (unreadable reason)
  | .inaccessible => .error (.fault .inaccessible)
  | .bytes b => ((textOfBytes b).map some).mapError unreadable

/-- The parts of a path, which are separated by slashes. -/
def pathParts : List Char → List (List Char)
  | [] => [[]]
  | c :: rest =>
    match pathParts rest with
    | part :: others => if c = '/' then [] :: part :: others else (c :: part) :: others
    | [] => [[c]]

/-- The name of the file that a path leads to: its last part that is neither empty nor a point. -/
def fileName (path : String) : List Char :=
  (((pathParts path.toList).filter fun part => !part.isEmpty && part != ['.']).getLast?).getD []

/-- The end of a name from its last point on. A point that starts or ends the name does not
    count. -/
def suffixOf (name : List Char) : List Char :=
  let rest := (name.reverse.takeWhile (· != '.')).reverse
  if rest.isEmpty || name.length ≤ rest.length + 1 then [] else '.' :: rest

/-- The format that the name of a file stands for. -/
def Format.ofPath? (path : String) : Option Format :=
  let suffix := String.ofList ((suffixOf (fileName path)).map Char.toLower)
  if suffix = ".json" then some .json
  else if suffix = ".yaml" ∨ suffix = ".yml" then some .yaml
  else none

/-- The format that a content type stands for. -/
def Format.ofContentType? (contentType : String) : Option Format :=
  if Text.occurs "json" contentType then some .json
  else if Text.occurs "yaml" contentType || Text.occurs "yml" contentType then some .yaml
  else none

/-- The failure to read from a source. -/
def refuse {α : Type} (e : SourceError) : Except Error α := .error (.source e)

/-- The document on the standard input. -/
def ofInput (contents : Contents) : Except Error Value := do
  match ← contents.text? fun reason => .source (.undecodableInput reason) with
  | none => refuse .noInput
  | some content => if Text.isBlankText content then refuse .noInput else parse content none

/-- The document in a file. -/
def ofFile (path : String) (contents : Contents) : Except Error Value := do
  match ← contents.text? fun reason => .source (.unreadableFile path reason) with
  | none => refuse (.missingFile path)
  | some content =>
    if Text.isBlankText content then refuse (.emptyFile path)
    else parse content (Format.ofPath? path)

/-- Whether a status is one of success. -/
def isSuccess (status : Int) : Bool := 200 ≤ status && status < 300

/-- The text of what comes back from an address, in the character set that its content type names.
    A set that is not known counts as the usual one. -/
def bodyText (contentType : Option String) (body : List Nat) : Except Error String :=
  let charset := (contentType.bind ContentType.charset?).getD .unicode
  match charset.decode? body with
  | some text => .ok (String.ofList text)
  | none => .error (.fault .unmarkedText)

/-- The document at an address. -/
def ofResponse (url : String) (response : Response) : Except Error Value :=
  match response with
  | .unreachable reason => refuse (.unreachable url reason)
  | .received status contentType body =>
    if isSuccess status then do
      parse (← bodyText contentType body) (contentType.bind Format.ofContentType?)
    else refuse (.badStatus status url)

/-- What is noted before a document is read. -/
def Source.note : Source → Note
  | .standardInput => ⟨.reading, "Reading OpenAPI document from stdin"⟩
  | .address url => ⟨.reading, "Fetching OpenAPI document from " ++ url⟩
  | .file path => ⟨.reading, "Reading OpenAPI document from " ++ path⟩

end RestContract.Document
