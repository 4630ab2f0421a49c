import RestContract.Command.Run

/-!
# The command line

Runs the command in the surroundings of a process. No program can be called from here and nothing
can be fetched, so a formatter counts as missing and an address as unreachable.
-/

namespace RestContract.Command

/-- What a file holds; a directory is no file. -/
def contentsOf (path : String) : IO Document.Contents := do
  try
    let bytes ← IO.FS.readBinFile path
    return .bytes (bytes.toList.map UInt8.toNat)
  catch
    | .noFileOrDirectory .. | .inappropriateType .. => return .missing
    | e => return .unreadable (toString e)

/-- The rest of a stream of bytes after some that have been read. -/
partial def restOf (stream : IO.FS.Stream) (bytes : ByteArray) : IO ByteArray := do
  let more ← stream.read 65536
  if more.isEmpty then return bytes else restOf stream (bytes ++ more)

/-- What the standard input holds. -/
def inputContents : IO Document.Contents := do
  try
    let bytes ← restOf (← IO.getStdin) ByteArray.empty
    return .bytes (bytes.toList.map UInt8.toNat)
  catch e => return .unreadable (toString e)

/-- Writes a file, or says why it cannot be written. -/
def writeTo (path text : String) : IO (Option String) := do
  try
    IO.FS.writeFile path text
    return none
  catch e => return some (toString e)

/-- Writes a text at once. -/
def writeNow (stream : IO.FS.Stream) (text : String) : IO Unit := do
  stream.putStr text
  stream.flush

/-- The variables of the environment that a run asks for. -/
def readEnvironment : IO Settings.Environment := do
  let names := [Settings.formatVariable, Settings.formatterVariable, Console.colourVariable,
    Console.terminalVariable]
  let values ← names.mapM fun name => return (name, ← IO.getEnv name)
  return fun name => (values.lookup name).join

/-- The surroundings of a process. -/
def process : Surroundings IO where
  directory := return toString (← IO.currentDir)
  environment := readEnvironment
  standardInput := inputContents
  file := contentsOf
  fetch _ := return .unreachable "nothing can be fetched from here"
  format _ := return .failed "no program can be called from here"
  writeFile := writeTo
  writeOutput text := do writeNow (← IO.getStdout) text
  writeError text := do writeNow (← IO.getStderr) text
  showNote note := do
    writeNow (← IO.getStderr) ("DEBUG    " ++ note.origin.name ++ ": " ++ note.message ++ "\n")

/-- Ends the process with a text for its reader and an exit code. -/
def endWith (text : String) (code : Int) : IO UInt32 := do
  writeNow (← IO.getStderr) text
  return UInt32.ofNat code.toNat

/-- Runs the command for the arguments of the process. -/
def runProcess (args : List String) : IO UInt32 := do
  try
    match ← run process args with
    | .ok code => return UInt32.ofNat code.toNat
    | .error f => endWith ("Error: " ++ (Error.fault f).message ++ "\n") (Error.fault f).exitCode
  catch
    | .interrupted .. => endWith cancelText cancelCode
    | e => throw e

end RestContract.Command

def main (args : List String) : IO UInt32 := RestContract.Command.runProcess args
