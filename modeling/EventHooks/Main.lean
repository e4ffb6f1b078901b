import EventHooks.CommandLine
import EventHooks.Computer

/-!
# The program

Reads the environment, the stored settings and the standard input, runs, and writes what the run
has left behind.
-/
namespace EventHooks

/-- The variables that the program looks at. -/
def readEnvironment : IO Environment := do
  let values ← ["HOME", "PATH", "SHELL"].mapM fun name => do
    return (← IO.getEnv name).map (name, ·)
  return values.filterMap id

/-- The text of the file of settings, if there is one. -/
def readStored (path : String) : IO (Option Bytes) := do
  try
    return some (← IO.FS.readBinFile path).toList
  catch _ => return none

/-- The file of settings that the arguments ask for. -/
def settingsFile (arguments : List String) (environment : Environment) : Option Path :=
  match Options.read arguments with
  | .ok options => StoredSettings.fileFor (Given.filled? options.configDir) environment
  | .error _ => none

/-- Writes bytes to a stream. -/
def writeBytes (stream : IO.FS.Stream) (bytes : Bytes) : IO Unit := do
  stream.write ⟨bytes.toArray⟩
  stream.flush

/-- Reads a stream to its end. -/
partial def readAll (stream : IO.FS.Stream) (text : String) : IO String := do
  let line ← stream.getLine
  if line.isEmpty then return text else readAll stream (text ++ line)

/-- Puts the file of settings back if the run has changed it. -/
def restore (path : Path) (before : Option Bytes) (host : Host Computer) : IO Unit := do
  match host.files.readFile path.toText with
  | .ok after =>
    if before != some after then
      IO.FS.createDirAll path.parent.toText
      IO.FS.writeBinFile path.toText ⟨after.toArray⟩
  | .error _ => pure ()

/-- Runs the program. -/
def runProgram (arguments : List String) : IO UInt32 := do
  let environment ← readEnvironment
  let file? := settingsFile arguments environment
  let before ← match file? with
    | some path => readStored path.toText
    | none => pure none
  let files := match file?, before with
    | some path, some contents => Computer.files.plant path.toText (.file contents false)
    | _, _ => Computer.files
  let input ← readAll (← IO.getStdin) ""
  let host : Host Computer := { environment := environment, files := files, system := {} }
  let finish := CommandLine.run arguments host input
  if let some path := file? then restore path before finish.host
  writeBytes (← IO.getStdout) finish.host.output
  let errors ← IO.getStderr
  errors.putStr finish.errors
  for record in finish.host.records do
    errors.putStrLn record.shown
  match finish.ending with
  | .exit status => return status.toUInt32
  | .broken breakdown =>
    errors.putStrLn breakdown.message
    return 1

end EventHooks

/-- The program. -/
def main (arguments : List String) : IO UInt32 :=
  EventHooks.runProgram arguments
