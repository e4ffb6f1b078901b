import EventHooks.Shell.Builtin.Input
import EventHooks.Shell.Builtin.Search
import EventHooks.Shell.Builtin.Signal
import EventHooks.Shell.Condition
import EventHooks.Shell.Format

/-!
# Builtin commands

The commands that a shell runs itself, except those that run other commands.
-/
namespace EventHooks.Shell

/-- Writes words. Only an extended shell keeps escapes as they are. -/
def echoCommand (arguments : List String) : Run Nat := do
  match (← get).dialect with
  | .plain => output (Format.echo arguments)
  | .extended => output (Format.echoWithOptions arguments)

/-- Writes arguments by a format. -/
def printfCommand (arguments : List String) : Run Nat := do
  let (_, arguments) ← optionsOf "" arguments
  match arguments with
  | [] => abort "usage: printf format [arg ...]"
  | format :: words =>
    let dialect := (← get).dialect
    let escapes := if dialect = .plain then Format.Escapes.plain else .extended
    let outcome := Format.printf escapes format words
    for complaint in outcome.complaints do
      complain (if dialect = .plain then complaint.message else complaint.extendedMessage)
    let status ← output outcome.text
    return if outcome.refused then (if dialect = .plain then 2 else 1)
      else if outcome.complaints.isEmpty then status else 1

/-- Decides a condition. -/
def testCommand (isBracket : Bool) (arguments : List String) : Run Nat := do
  let words? := if isBracket then
      if arguments.getLast? = some "]" then some arguments.dropLast else none
    else some arguments
  match words? with
  | none => abort "missing ]"
  | some words =>
    let around ← look fun process world =>
      ({ files := world.filesOf process, stampOf := world.stampOf } : Condition.Surroundings)
    match Condition.evaluate around (words.length + 4) words with
    | .ok holds => return if holds then 0 else 1
    | .error fault => abort fault.message

/-- Leaves loops, or goes on with them. -/
def leaveLoops (goesOn : Bool) (arguments : List String) : Run Nat := do
  let levels ← numberArgument arguments 1
  if levels = 0 then abort ("Illegal number: " ++ arguments.headD "")
  let loops := (← get).loops
  if loops = 0 then return 0
  else if goesOn then throw (.next (min levels loops))
  else throw (.leave (min levels loops))

/-- Runs a builtin command that runs no others. -/
def plainBuiltin (name : String) (arguments : List String) : Run Nat := do
  match name with
  | "true" | ":" => return 0
  | "false" => return 1
  | "echo" => echoCommand arguments
  | "printf" => printfCommand arguments
  | "test" => testCommand false arguments
  | "[" => testCommand true arguments
  | "read" => readCommand arguments
  | "getopts" => getoptsCommand arguments
  | "cd" | "chdir" => cdCommand arguments
  | "pwd" => pwdCommand arguments
  | "umask" => umaskCommand arguments
  | "ulimit" => ulimitCommand arguments
  | "times" => timesCommand
  | "kill" => killCommand arguments
  | "trap" => trapCommand arguments
  | "wait" => waitCommand arguments
  | "jobs" => jobsCommand arguments
  | "fg" | "bg" => moveJobCommand arguments
  | "hash" => hashCommand arguments
  | "type" => typeCommand arguments
  | "alias" => aliasCommand arguments
  | "unalias" => unaliasCommand arguments
  | "export" =>
    declareCommand name (·.exported) (fun item => { item with exported := true }) arguments
  | "readonly" =>
    declareCommand name (·.fixed) (fun item => { item with fixed := true }) arguments
  | "local" => localCommand arguments
  | "unset" => unsetCommand arguments
  | "set" => setCommand arguments
  | "shift" => shiftCommand arguments
  | "exit" =>
    let session ← get
    throw (.exit (← numberArgument arguments (session.outerStatus.getD session.status)))
  | "return" => throw (.returned (← numberArgument arguments (← get).status))
  | "break" => leaveLoops false arguments
  | "continue" => leaveLoops true arguments
  | _ => return 0

end EventHooks.Shell
