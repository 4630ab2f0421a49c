import RestContract.Command.Arguments
import RestContract.Console.Basic
import RestContract.Generation

/-!
# Runs of the command

What the command does for its arguments: it finds its settings, reads the document, generates the
module and writes it, and it says on the console what became of that. Everything that it needs of
the outside is a field of `Surroundings`, so that a run is the same in every monad.
-/

namespace RestContract.Command

/-- What a run needs of the outside. -/
structure Surroundings (m : Type → Type) where
  /-- The working directory. -/
  directory : m String
  environment : m Settings.Environment
  standardInput : m Document.Contents
  file : String → m Document.Contents
  fetch : String → m Document.Response
  format : Formatter.Request → m Formatter.Outcome
  /-- Writes a file, or says why it cannot be written. -/
  writeFile : String → String → m (Option String)
  writeOutput : String → m Unit
  writeError : String → m Unit
  /-- Shows a note to a reader who wants to know more. -/
  showNote : Note → m Unit

/-- The name of the command and its version. -/
def versionText : String := "tsrestgen 0.3.0\n"

/-- How the command is used. -/
def helpText : String :=
  "Usage: tsrestgen [OPTIONS] INPUT\n\n" ++
    "Generate a ts-rest contract from an OpenAPI document.\n\n" ++
    "Arguments:\n" ++
    "  INPUT  OpenAPI document: file path, http(s) URL, or '-' for stdin.  [required]\n\n" ++
    "Options:\n" ++
    "  -o, --output TEXT         File to write the contract to, or '-' for stdout.  [required]\n" ++
    "  --format / --no-format    Run prettier over the generated source (default: on).\n" ++
    "  --prettier TEXT           Command used to run prettier.\n" ++
    "  --no-color                Disable colored output.\n" ++
    "  -q, --quiet               Suppress non-essential output.\n" ++
    "  -v, --verbose             Show debug output.\n" ++
    "  --version                 Show version and exit.\n" ++
    "  --help                    Show this message and exit.\n"

/-- What is written for arguments that cannot be understood. -/
def usageText (e : UsageError) : String :=
  "Usage: tsrestgen [OPTIONS] INPUT\nTry 'tsrestgen --help' for help.\n\nError: " ++
    e.message ++ "\n"

/-- What is written when the reader stops a run, and its exit code. -/
def cancelText : String := "\nCancelled.\n"
def cancelCode : Int := 130

/-- The path of a file in a directory. -/
def inDirectory (directory name : String) : String := directory ++ "/" ++ name

variable {m : Type → Type} [Monad m] (surroundings : Surroundings m)

/-- Says something on the console. -/
def say (console : Console) (kind : Console.Kind) (message : String) : m Unit :=
  match console.write? kind message with
  | some text => surroundings.writeError text
  | none => return ()

/-- Ends a run with a failure: a foreseen one is told, and any other is left to the outside. -/
def report (console : Console) (e : Error) : m (Except Fault Int) :=
  match e with
  | .fault f => return .error f
  | e => do
    say surroundings console .error e.message
    return .ok e.exitCode

/-- The document that a text names. -/
def readDocument (input : String) : m (Except Error Value) :=
  match Document.Source.ofText input with
  | .standardInput => return Document.ofInput (← surroundings.standardInput)
  | .address url => return Document.ofResponse url (← surroundings.fetch url)
  | .file path => return Document.ofFile path (← surroundings.file path)

/-- The document that a text names, with the note that it is read. -/
def load (input : String) : m (Traced Value) := do
  let document ← readDocument surroundings input
  return ⟨[(Document.Source.ofText input).note], document⟩

/-- Writes the module where it is to go. -/
def deliver (console : Console) (output source : String) : m (Except Fault Int) := do
  if output = "-" then
    surroundings.writeOutput (Console.data source)
    return .ok 0
  match ← surroundings.writeFile output source with
  | none =>
    say surroundings console .success ("Contract written to " ++ output)
    return .ok 0
  | some reason =>
    report surroundings console
      (.stated .general ("Failed to write " ++ output ++ ": " ++ reason) none)

/-- The settings of a run. -/
def settings (environment : Settings.Environment) (flags : Settings.Flags) :
    m (Except Error Settings) := do
  let path := inDirectory (← surroundings.directory) Settings.fileName
  return Settings.resolve path (← surroundings.file Settings.fileName) environment flags

/-- Shows the notes of a run, if the console shows such things. -/
def showNotes (console : Console) (notes : List Note) : m Unit :=
  if console.verbose then notes.forM surroundings.showNote else return ()

/-- Generates the module with some settings and writes it. -/
def generate (console : Console) (options : Options) (found : Settings) : m (Except Fault Int) := do
  say surroundings console .debug ("Configuration: " ++ found.display)
  let document ← load surroundings options.input
  let generated ← Generation.run surroundings.format found document
  showNotes surroundings console generated.notes
  match generated.result with
  | .ok source => deliver surroundings console options.output source
  | .error e => report surroundings console e

/-- Does what the arguments ask for. Gives the exit code, or the fault that no rule foresees. -/
def run (args : List String) : m (Except Fault Int) := do
  match Invocation.ofArguments args with
  | .error e =>
    surroundings.writeError (usageText e)
    return .ok Category.usage.exitCode
  | .ok .help =>
    surroundings.writeOutput helpText
    return .ok 0
  | .ok .version =>
    surroundings.writeOutput versionText
    return .ok 0
  | .ok (.generate options) =>
    let environment ← surroundings.environment
    let console := Console.make options.noColour options.quiet options.verbose environment
    match ← settings surroundings environment options.flags with
    | .ok found => generate surroundings console options found
    | .error e => report surroundings console e

end RestContract.Command
