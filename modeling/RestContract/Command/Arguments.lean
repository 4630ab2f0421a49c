import RestContract.Settings

/-!
# Arguments

The arguments of the command line: where the document comes from, where the module goes, and options
in between in any order. A long option takes its value after an equals sign or from the next
argument; short options can be written together, and what follows one that takes a value is its
value. After two dashes nothing is an option.
-/

namespace RestContract.Command

/-- The options without a value. -/
inductive Switch where
  | format
  | noFormat
  | noColour
  | quiet
  | verbose
  | version
  | help
  deriving DecidableEq, Repr

/-- The options with a value. -/
inductive Setting where
  | output
  | formatter
  deriving DecidableEq, Repr

/-- An option. -/
inductive Opt where
  | switch (s : Switch)
  | setting (s : Setting)
  deriving DecidableEq, Repr

/-- The options by their long names. -/
def longOptions : List (String × Opt) :=
  [("--output", .setting .output), ("--format", .switch .format),
   ("--no-format", .switch .noFormat), ("--prettier", .setting .formatter),
   ("--no-color", .switch .noColour), ("--quiet", .switch .quiet),
   ("--verbose", .switch .verbose), ("--version", .switch .version), ("--help", .switch .help)]

/-- The options by their short names. -/
def shortOptions : List (Char × Opt) :=
  [('o', .setting .output), ('q', .switch .quiet), ('v', .switch .verbose)]

/-- An argument that has been understood. -/
inductive Argument where
  | switch (s : Switch)
  | setting (s : Setting) (value : String)
  | positional (s : String)
  deriving DecidableEq, Repr

/-- What is wrong with the arguments. -/
inductive UsageError where
  | unknownOption (name : String)
  | missingValue (name : String)
  | unwantedValue (name : String)
  | missingInput
  | missingOutput
  | extraArgument (s : String)
  deriving DecidableEq, Repr

def UsageError.message : UsageError → String
  | .unknownOption name => "No such option: " ++ name
  | .missingValue name => "Option '" ++ name ++ "' requires an argument."
  | .unwantedValue name => "Option '" ++ name ++ "' does not take a value."
  | .missingInput => "Missing argument 'INPUT'."
  | .missingOutput => "Missing option '--output' / '-o'."
  | .extraArgument s => "Got unexpected extra argument (" ++ s ++ ")"

/-- The arguments that a run of short options stands for. The last one can take its value from the
    next argument, which is `none` if there is none; whether it does is the second part. -/
def readShort (next : Option String) : List Char → Except UsageError (List Argument × Bool)
  | [] => .ok ([], false)
  | c :: rest =>
    let name := String.ofList ['-', c]
    match shortOptions.lookup c with
    | none => .error (.unknownOption name)
    | some (.switch s) => do
      let (others, taken) ← readShort next rest
      return (.switch s :: others, taken)
    | some (.setting s) =>
      match rest, next with
      | _ :: _, _ => .ok ([.setting s (String.ofList rest)], false)
      | [], some value => .ok ([.setting s value], true)
      | [], none => .error (.missingValue name)

/-- A text before its first equals sign, and the text behind it if there is one. -/
def splitEquals (text : List Char) : List Char × Option (List Char) :=
  match text.span (· != '=') with
  | (name, _ :: value) => (name, some value)
  | (name, []) => (name, none)

/-- The argument that a long option stands for. Whether it takes its value from the next argument is
    the second part. -/
def readLong (name : String) (value next : Option String) (opt : Opt) :
    Except UsageError (List Argument × Bool) :=
  match opt, value, next with
  | .switch s, none, _ => .ok ([.switch s], false)
  | .switch _, some _, _ => .error (.unwantedValue name)
  | .setting s, some value, _ => .ok ([.setting s value], false)
  | .setting s, none, some value => .ok ([.setting s value], true)
  | .setting _, none, none => .error (.missingValue name)

/-- The arguments that an option or a run of options stands for. -/
def readOption (text : List Char) (next : Option String) :
    Except UsageError (List Argument × Bool) :=
  let (name, value) := splitEquals text
  let name := String.ofList name
  match longOptions.lookup name, text with
  | some opt, _ => readLong name (value.map String.ofList) next opt
  | none, '-' :: '-' :: _ => .error (.unknownOption name)
  | none, text => readShort next (text.drop 1)

/-- Whether an argument stands for options: it starts with a dash and goes on. -/
def isOption : List Char → Bool
  | '-' :: _ :: _ => true
  | _ => false

/-- All arguments in their order. -/
def readAll : List String → Except UsageError (List Argument)
  | [] => .ok []
  | first :: rest =>
    if first = "--" then .ok (rest.map .positional)
    else if isOption first.toList then
      match readOption first.toList rest.head?, rest with
      | .error e, _ => .error e
      | .ok (read, true), _ :: others => do return read ++ (← readAll others)
      | .ok (read, _), rest => do return read ++ (← readAll rest)
    else do return .positional first :: (← readAll rest)

/-- What a run is asked to do. -/
structure Options where
  input : String
  output : String
  flags : Settings.Flags
  noColour : Bool
  quiet : Bool
  verbose : Bool

/-- What the arguments ask for. -/
inductive Invocation where
  | help
  | version
  | generate (options : Options)

/-- The last value of an option. -/
def lastValue (setting : Setting) (arguments : List Argument) : Option String :=
  (arguments.filterMap fun
    | .setting s value => if s = setting then some value else none
    | _ => none).getLast?

/-- Whether formatting is switched on or off; the last word counts. -/
def formatFlag (arguments : List Argument) : Option Bool :=
  (arguments.filterMap fun
    | .switch .format => some true
    | .switch .noFormat => some false
    | _ => none).getLast?

/-- The request for something else than a run, if there is one; the first one counts. -/
def early? (arguments : List Argument) : Option Invocation :=
  arguments.findSome? fun
    | .switch .help => some .help
    | .switch .version => some .version
    | _ => none

def positionals (arguments : List Argument) : List String :=
  arguments.filterMap fun
    | .positional s => some s
    | _ => none

/-- What is asked of a run. -/
def optionsOf (arguments : List Argument) : Except UsageError Options :=
  match positionals arguments, lastValue .output arguments with
  | [], _ => .error .missingInput
  | _, none => .error .missingOutput
  | _ :: extra :: _, some _ => .error (.extraArgument extra)
  | [input], some output =>
    .ok {
      input, output
      flags := { format := formatFlag arguments, formatter := lastValue .formatter arguments }
      noColour := arguments.contains (.switch .noColour)
      quiet := arguments.contains (.switch .quiet)
      verbose := arguments.contains (.switch .verbose) }

/-- What the arguments ask for. -/
def Invocation.ofArguments (args : List String) : Except UsageError Invocation := do
  let arguments ← readAll args
  match early? arguments with
  | some invocation => return invocation
  | none => return .generate (← optionsOf arguments)

end RestContract.Command
