import EventHooks.LogRecord
import EventHooks.System.OperatingSystem

/-!
# The host

The host is what the program runs in: its environment, the files, the operating system, what it has
written to its standard output, and the log. Records below the threshold are dropped when they are
made.
-/
namespace EventHooks

/-- What the program runs in. -/
structure Host (σ : Type) where
  environment : Environment
  files : FileStore
  system : σ
  output : Bytes := []
  records : List LogRecord := []
  threshold : LogLevel := .debug

namespace Host

variable {σ : Type}

/-- Makes a log record. -/
def log (host : Host σ) (level : LogLevel) (source : LogSource) (message : String) : Host σ :=
  if level.passes host.threshold then
    { host with records := host.records ++ [⟨level, source, message⟩] }
  else host

/-- Writes to the standard output. -/
def write (host : Host σ) (bytes : Bytes) : Host σ :=
  { host with output := host.output ++ bytes }

/-- Sets a variable, or unsets it if no value is given. The system knows no variable without a
name. -/
def setVariable (host : Host σ) (name : String) (value? : Option String) :
    Except RequestError (Host σ) :=
  match value? with
  | none => .ok { host with environment := host.environment.erase name }
  | some value =>
    if hasNull name || hasNull value then .error (.refused .nullCharacter)
    else if name.toList.contains '=' then .error (.refused .illegalName)
    else if name.isEmpty then .error (.system (.ofErrno .invalidArgument none))
    else .ok { host with environment := host.environment.set name value }

/-! ## Programs -/

variable [OperatingSystem σ]

/-- Launches a program on the host's files. -/
def launch (host : Host σ) (invocation : Invocation) (input : StandardInput) :
    Except RequestError ProcessId × Host σ :=
  match invocation.refusal? with
  | some refusal => (.error (.refused refusal), host)
  | none =>
    let (result, files, system) :=
      OperatingSystem.launch invocation input host.files host.system
    (result.mapError .system, { host with files := files, system := system })

/-- Closes the input of a process. -/
def closeInput (host : Host σ) (process : ProcessId) : Host σ :=
  { host with system := OperatingSystem.closeInput process host.system }

/-- Waits until the first one of some processes has ended. -/
def collect (host : Host σ) (process : ProcessId) (others : List ProcessId) :
    (ProcessId × Completion) × Host σ :=
  let (result, files, system) :=
    OperatingSystem.collect process others host.files host.system
  (result, { host with files := files, system := system })

/-- Kills a process, unless it has ended, and answers its status. -/
def kill (host : Host σ) (process : ProcessId) : Int × Host σ :=
  let (status, system) := OperatingSystem.kill process host.system
  (status, { host with system := system })

/-- Lets microseconds pass. -/
def elapse (host : Host σ) (duration : Nat) : Host σ :=
  let (files, system) := OperatingSystem.elapse duration host.files host.system
  { host with files := files, system := system }

end Host

end EventHooks
