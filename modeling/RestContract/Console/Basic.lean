import RestContract.Console.Markup
import RestContract.Settings

/-!
# The console

What a run tells its reader. Only the module itself goes to the standard output; all messages go to
the standard error output, some of them only if the reader wants to know more or does not want to
know less. Messages are marked up, unless the reader refuses colour.
-/

namespace RestContract

/-- How messages are written, and which. -/
structure Console where
  /-- Whether messages are written without markup. -/
  plain : Bool
  quiet : Bool
  verbose : Bool

namespace Console

/-- The kinds of messages. -/
inductive Kind where
  | info
  | success
  | warning
  | error
  | debug
  deriving DecidableEq, Repr

/-- What a message of a kind starts with. -/
def Kind.label : Kind → String
  | .info | .success => ""
  | .warning => "Warning: "
  | .error => "Error: "
  | .debug => "[debug] "

/-- A message with its markup. -/
def Kind.markup (kind : Kind) (message : String) : String :=
  let literal := Markup.literal message
  match kind with
  | .info => literal
  | .success => "[green]" ++ literal ++ "[/green]"
  | .warning => "[yellow]Warning:[/yellow] " ++ literal
  | .error => "[bold red]Error:[/bold red] " ++ literal
  | .debug => "[dim]\\[debug] " ++ literal ++ "[/dim]"

/-- Whether messages of a kind are written. -/
def shows (console : Console) : Kind → Bool
  | .info | .success => !console.quiet
  | .warning | .error => true
  | .debug => console.verbose

/-- The text that a message is written as. -/
def line (console : Console) (kind : Kind) (message : String) : String :=
  if console.plain then kind.label ++ message ++ "\n"
  else Markup.render (kind.markup message) ++ "\n"

/-- What is written for a message, if anything. -/
def write? (console : Console) (kind : Kind) (message : String) : Option String :=
  if console.shows kind then some (console.line kind message) else none

/-- What is written for the module: the text itself, with a line break at its end. -/
def data (s : String) : String := if s.toList.getLast? = some '\n' then s else s ++ "\n"

/-- The variables of the environment that refuse colour, and that name the terminal. -/
def colourVariable : String := "NO_COLOR"
def terminalVariable : String := "TERM"

/-- Whether the environment refuses colour, or the terminal has none. -/
def refusesColour (environment : Settings.Environment) : Bool :=
  (environment colourVariable).isSome || environment terminalVariable == some "dumb"

/-- The console for a reader and an environment. -/
def make (noColour quiet verbose : Bool) (environment : Settings.Environment) : Console :=
  { plain := noColour || refusesColour environment, quiet, verbose }

end Console
end RestContract
