import CardHealth.CommandLine
import Std.Time.DateTime.Timestamp

/-!
# The program

Reads the environment, the variable file of the working directory and the arguments, prints what
`CommandLine.run` makes of them, and ends with its status.  Listening at the announced address is
the work of the web server that runs the application.
-/

namespace CardHealth.Main

open Config

/-- The variable that one entry of a system's list of variables sets. -/
def variableOf (entry : Bytes) : String × String :=
  let text (b : Bytes) : String := String.ofList (Text.decodeUtf8Lossy b)
  let isNameByte (b : UInt8) : Bool := b != 0x3D
  (text (entry.takeWhile isNameByte), text ((entry.dropWhile isNameByte).drop 1))

/-- The variables of a system's list of variables, in which a zero byte ends each entry. -/
def variablesOf (block : Bytes) : List (String × String) :=
  ((block.splitOnP (· == 0)).filter fun entry => !entry.isEmpty).map variableOf

/-- The text about settings that cannot be had, a line for each refused value. -/
def loadErrorText : Settings.LoadError → String
  | .file e => e.message ++ "\n"
  | .refused refusal =>
    String.join <| refusal.faults.map fun f =>
      refusal.record ++ "." ++ f.field.getD "" ++ ": " ++ f.fault.message ++ "\n"

/-- The content of a file, empty if it cannot be read. -/
def contentOf (name : String) : IO Bytes := do
  try
    return (← IO.FS.readBinFile name).toList
  catch _ => return []

/-- Prints what a run of the program has to say, and gives its status. -/
def conclude (run : CommandLine.Run) : IO UInt32 := do
  let now ← Std.Time.Timestamp.now
  for entry in run.entries do
    let created := now.toMillisecondsSinceUnixEpoch.val
    IO.eprintln (Log.line created entry.logger entry.level entry.message)
  match run.outcome with
  | .helpShown => IO.print CommandLine.help
  | .wrongUsage e => IO.eprint e.report
  | .unknownLevel e => IO.eprintln e.message
  | .launched _ => pure ()
  return (run.outcome.exitCode?.getD 1).toUInt32

end CardHealth.Main

open CardHealth in
def main (arguments : List String) : IO UInt32 := do
  let environment := Main.variablesOf (← Main.contentOf "/proc/self/environ")
  let file ← Main.contentOf ".env"
  match Config.Settings.read [] environment file with
  | .error e =>
    IO.eprint (Main.loadErrorText e)
    return 1
  | .ok settings => Main.conclude (CommandLine.run settings Log.Root.initial arguments)
