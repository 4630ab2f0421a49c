import RestContract.Document.Source
import RestContract.Value.Display

/-!
# Settings

What can be set for a run: whether the module is formatted, by which command and in what time, and
whether the version of the document is checked. Settings come from the command line, from variables
of the environment, from a file of the project, and from defaults, where the earlier ones win. They
are put together as fields and checked as a whole.
-/

namespace RestContract

/-- The settings of a run. -/
structure Settings where
  format : Bool
  /-- The command line of the formatter. -/
  formatter : String
  /-- The time that the formatter may take, in seconds. -/
  timeout : Double
  checkVersion : Bool

namespace Settings

/-- The names of the settings, as they stand in the file of the project. -/
def formatName : String := "format"
def formatterName : String := "prettier_command"
def timeoutName : String := "format_timeout"
def checkName : String := "validate_version"

def names : List String := [formatName, formatterName, timeoutName, checkName]

/-- The defaults. -/
def default : Settings :=
  { format := true, formatter := "prettier", timeout := Double.ofInt 30, checkVersion := true }

/-- The words that are taken for true and for false, in any case of letters. -/
def trueWords : List String := ["1", "on", "t", "true", "y", "yes"]
def falseWords : List String := ["0", "off", "f", "false", "n", "no"]

/-- A text in small letters. -/
def lower (s : String) : String := s.map Char.toLower

/-- Whether an integer is within 64 bits. -/
def isWord (n : Int) : Bool := -9223372036854775808 ≤ n && n < 9223372036854775808

/-- The truth value of a number, which is zero or one, or what is wrong with it. -/
def readSwitchNumber (n : Int) : Except String Bool :=
  if n = 0 then .ok false else if n = 1 then .ok true
  else if isWord n then .error "bool_parsing" else .error "bool_type"

/-- The truth value of a field, or what is wrong with it. Zero and one are taken for truth values
    too. A floating-point number has to be whole, and above the least integer of 64 bits. -/
def readBool : Value → Except String Bool
  | .bool b => .ok b
  | .int n => readSwitchNumber n
  | .double x =>
    match x.toInt? with
    | some n => if n = -9223372036854775808 then .error "bool_type" else readSwitchNumber n
    | none => .error "bool_type"
  | .text s =>
    if trueWords.contains (lower s) then .ok true
    else if falseWords.contains (lower s) then .ok false
    else .error "bool_parsing"
  | _ => .error "bool_type"

/-- The text of a field, or what is wrong with it. -/
def readText : Value → Except String String
  | .text s => .ok s
  | _ => .error "string_type"

/-- A text without its underscores, if each of them is followed by another character. -/
def dropUnderscores? : List Char → Option (List Char)
  | [] => some []
  | ['_'] => none
  | '_' :: '_' :: _ => none
  | '_' :: rest => dropUnderscores? rest
  | c :: rest => (dropUnderscores? rest).map (c :: ·)

/-- The number that a text of ASCII stands for. -/
def plainNumber? (text : List Char) : Option Double :=
  if text.any fun c => c == '_' || 0x80 ≤ c.toNat then none else Text.number? text

/-- The number that a text stands for. It can have blanks around it, or single underscores between
    any two of its characters. -/
def number? (text : List Char) : Option Double :=
  match plainNumber? (Text.trimBy Text.isPadding text) with
  | some x => some x
  | none =>
    if text.head? = some '_' || text.any Text.isPadding then none
    else (dropUnderscores? text).bind plainNumber?

/-- The number of a field, or what is wrong with it. A truth value counts as one or zero. -/
def readNumber : Value → Except String Double
  | .bool b => .ok (Double.ofInt (if b then 1 else 0))
  | .int n =>
    let x := Double.ofInt n
    if x.isFinite then .ok x else .error "float_type"
  | .double x => .ok x
  | .text s =>
    match number? s.toList with
    | some x => .ok x
    | none => .error "float_parsing"
  | _ => .error "float_type"

/-- The time of a field, which is greater than zero, or what is wrong with it. -/
def readTimeout (value : Value) : Except String Double := do
  let x ← readNumber value
  if x.isPositive then return x else throw "greater_than"

/-- The setting of a name, or its default if there is no field for it. -/
def setting {α : Type} (fields : Fields) (name : String) (fallback : α)
    (read : Value → Except String α) : Except Problem α :=
  match fields.get? name with
  | none => .ok fallback
  | some value => (read value).mapError (Problem.mk name)

/-- The problem of a setting, if it has one. -/
def problem? {α : Type} : Except Problem α → Option Problem
  | .ok _ => none
  | .error problem => some problem

/-- The problems of the fields that are no settings. -/
def extraProblems (fields : Fields) : List Problem :=
  (fields.filter fun (key, _) => !names.any fun name => key = .text name).map fun (key, _) =>
    ⟨key.display, "extra_forbidden"⟩

/-- The settings that some fields stand for, or all that is wrong with the fields. -/
def ofFields (fields : Fields) : Except (List Problem) Settings :=
  let format := setting fields formatName default.format readBool
  let formatter := setting fields formatterName default.formatter readText
  let timeout := setting fields timeoutName default.timeout readTimeout
  let check := setting fields checkName default.checkVersion readBool
  let extra := extraProblems fields
  match format, formatter, timeout, check, extra with
  | .ok format, .ok formatter, .ok timeout, .ok checkVersion, [] =>
    .ok { format, formatter, timeout, checkVersion }
  | format, formatter, timeout, check, extra =>
    .error ((problem? format).toList ++ (problem? formatter).toList ++ (problem? timeout).toList ++
      (problem? check).toList ++ extra)

/-! ## Layers -/

/-- The file of the project. -/
def fileName : String := "tsrestgen.json"

/-- The variables of the environment. -/
def formatVariable : String := "TSRESTGEN_FORMAT"
def formatterVariable : String := "TSRESTGEN_PRETTIER"

/-- The variables that are set, by name. -/
abbrev Environment := String → Option String

/-- What the command line sets. -/
structure Flags where
  format : Option Bool
  formatter : Option String

/-- The fields in the file of the project, at a path, if there is one. -/
def ofProject (path : String) (contents : Document.Contents) : Except Error Fields := do
  let malformed := fun reason => Error.settings (.malformedFile path reason)
  match ← contents.text? malformed with
  | none => return []
  | some content =>
    match Json.read content with
    | .error e => throw ((e.fault?.map Error.fault).getD (malformed e.message))
    | .ok (.map fields _) => return fields
    | .ok _ => throw (.settings (.notAnObject path))

/-- The words of the environment for true and for false, in any case of letters and with blanks
    around them. -/
def switchWords : List (String × Bool) :=
  [("1", true), ("true", true), ("yes", true), ("on", true), ("0", false), ("false", false),
   ("no", false), ("off", false)]

/-- The truth value of a variable. -/
def readSwitch (name s : String) : Except Error Bool :=
  match switchWords.lookup (lower (String.ofList (Text.trim s.toList))) with
  | some b => .ok b
  | none => .error (.settings (.badSwitch name (Text.quoted s)))

/-- The value of a variable; one that is empty counts as not set. -/
def lookup? (environment : Environment) (name : String) : Option String :=
  (environment name).filter fun s => !s.isEmpty

/-- A field set to a value, if there is one. -/
def override {α : Type} (fields : Fields) (name : String) (wrap : α → Value) (value : Option α) :
    Fields :=
  match value with
  | some value => fields.put name (wrap value)
  | none => fields

/-- The fields with those that variables set. -/
def withEnvironment (fields : Fields) (environment : Environment) : Except Error Fields := do
  let format ← match lookup? environment formatVariable with
    | some s => do pure (some (← readSwitch formatVariable s))
    | none => pure none
  let fields := override fields formatName .bool format
  return override fields formatterName .text (lookup? environment formatterVariable)

/-- The fields with those that the command line sets. -/
def withFlags (fields : Fields) (flags : Flags) : Fields :=
  override (override fields formatName .bool flags.format) formatterName .text flags.formatter

/-- The settings of a run. -/
def resolve (path : String) (project : Document.Contents) (environment : Environment)
    (flags : Flags) : Except Error Settings := do
  let fields ← ofProject path project
  let fields ← withEnvironment fields environment
  match ofFields (withFlags fields flags) with
  | .ok settings => return settings
  | .error problems => throw (.settings (.invalid problems))

/-- The settings as they stand in a message. -/
def display (settings : Settings) : String :=
  (Value.object
    [(formatName, .bool settings.format), (formatterName, .text settings.formatter),
     (timeoutName, .double settings.timeout), (checkName, .bool settings.checkVersion)]).display

end Settings
end RestContract
