import ChartCompiler.CommandLine.Answer

/-!
The command: compiles tabular data and a column schema into a chart document.
-/

namespace ChartCompiler.CommandLine

/-- How the command is called. -/
def usage : String :=
  "usage: --schema FILE [--data FILE] [--format json|csv] [--config CONFIG] " ++
    "[--theme light|dark] [--width N] [--height N] [--mobile] [--title TEXT] " ++
    "[--selection JSON] [--eligible] [--pretty]"

/-- The text of a file, if it can be read. -/
def fileText? (path : String) : IO (Option String) := do
  try
    return some (← IO.FS.readFile path)
  catch _ => return none

/-- The bytes up to the end of a stream. -/
partial def readToEnd (stream : IO.FS.Stream) (done : ByteArray) : IO ByteArray := do
  let bytes ← stream.read 65536
  if bytes.isEmpty then return done else readToEnd stream (done ++ bytes)

/-- The text of standard input, if it can be read. -/
def inputText? : IO (Option String) := do
  try
    return String.fromUTF8? (← readToEnd (← IO.getStdin) .empty)
  catch _ => return none

/-- The text of the data, which nobody needs when the kinds are listed. -/
def dataText? (arguments : Arguments) : IO (Option String) := do
  if arguments.eligible then return none
  match arguments.data with
  | some path => fileText? path
  | none => inputText?

end ChartCompiler.CommandLine

open ChartCompiler.CommandLine in
/-- Runs the command: 0 after an answer, 1 after a failure and 2 for arguments
that make no sense. -/
def main (args : List String) : IO UInt32 := do
  match Arguments.read? args with
  | none =>
    (← IO.getStderr).putStrLn usage
    return 2
  | some arguments =>
    let schema ← fileText? arguments.schema
    let data ← if schema.isSome then dataText? arguments else pure none
    match arguments.answer schema data with
    | .ok text =>
      (← IO.getStdout).putStr text
      return 0
    | .error error =>
      (← IO.getStderr).putStrLn ("Error: " ++ error.message)
      return 1
