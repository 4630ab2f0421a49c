import RestContract.Number.Double
import RestContract.Text.Blank
import RestContract.Text.Quoted
import RestContract.Text.ShellWords
import RestContract.Trace

/-!
# Formatting

A module can be handed to a formatter, a program that gets the text on its input and writes the
formatted text. Where it fails or writes nothing, the text stays as it was. A call that cannot be
made at all is another matter: it stops the run.
-/

namespace RestContract.Formatter

/-- A call of a formatter: its command line as words, what it reads, and how many seconds it may
    take. -/
structure Request where
  argv : List String
  input : String
  timeout : Double

/-- How a call can fail. -/
inductive Failure where
  /-- The system does not start the program. -/
  | notStarted
  /-- The program ends with an exit code other than zero. -/
  | badExit
  /-- The program does not end in time. -/
  | timedOut
  /-- The call itself goes wrong: a word or the text cannot be handed over, or nobody can wait as
      long as is asked for. -/
  | fault (f : Fault)
  deriving DecidableEq, Repr

/-- What a failure is laid to. -/
inductive Cause where
  | system
  | program
  | call (f : Fault)
  deriving DecidableEq, Repr

def Failure.cause : Failure → Cause
  | .notStarted => .system
  | .badExit | .timedOut => .program
  | .fault f => .call f

/-- What became of a call. -/
inductive Outcome where
  | written (text : String)
  | failed (reason : String) (failure : Failure := .notStarted)
  deriving DecidableEq, Repr

/-- The words that tell a formatter what it reads. -/
def inputWords : List String := ["--stdin-filepath", "contract.ts"]

/-- The call of a formatter given by its command line. -/
def request (command source : String) (timeout : Double) : Except Error Request :=
  match Text.shellWords? command with
  | some words => .ok { argv := words ++ inputWords, input := source, timeout }
  | none => .error (.fault .badText)

/-- The text after a call of a formatter. Only failures of the system and of the program are passed
    over. -/
def accept (command source : String) (outcome : Outcome) : Traced String :=
  match outcome with
  | .failed reason failure =>
    match failure.cause with
    | .system | .program => do
      Traced.note .formatter ("Formatter " ++ Text.quoted command ++
        " failed, keeping unformatted output: " ++ reason)
      return source
    | .call f => Traced.fail (.fault f)
  | .written text =>
    if Text.isBlankText text then do
      Traced.note .formatter ("Formatter " ++ Text.quoted command ++
        " produced no output, keeping unformatted output")
      return source
    else return text

end RestContract.Formatter
