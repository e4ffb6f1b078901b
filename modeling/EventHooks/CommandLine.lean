import EventHooks.Event.Stream
import EventHooks.Hook.Dispatcher
import EventHooks.Options
import EventHooks.Settings.Storage
import EventHooks.Text.UpperCase

/-!
# The command line

A run reads its options, loads the settings, and then either runs a single command or runs the hook
command for every event on the standard input. Options override stored settings. The exit status
tells whether anything has failed: two for a run that cannot begin, one for a failure on the way.
-/
namespace EventHooks

/-- Why a run breaks off without an exit status. -/
inductive Breakdown
  /-- A number of an event is too large. -/
  | overflow (fault : LineFault)
  /-- A command or a path holds a null character. -/
  | refused (refusal : Refusal)
  /-- The path of the settings cannot be checked. -/
  | unreadable (error : OsError)
  /-- There is no home directory. -/
  | homeless
  /-- The command to be run is no text. -/
  | commandNotText

/-- The words for a breakdown. -/
def Breakdown.message : Breakdown → String
  | .overflow fault => fault.message
  | .refused refusal => refusal.message
  | .unreadable error => error.message
  | .homeless => StoredSettings.homeMessage
  | .commandNotText => "expected str, bytes or os.PathLike object, not list"

/-- How a run ends. -/
inductive Ending
  | exit (status : Nat)
  | broken (breakdown : Breakdown)

/-- A run that has ended: the host after it, what was written to the error output besides the log,
and the launches of hooks. -/
structure Finish (σ : Type) where
  ending : Ending
  host : Host σ
  errors : String := ""
  launches : List (Nat × Invocation) := []

namespace CommandLine

variable {σ : Type}

/-! ## Running the hook command for every event -/

/-- The state of a run over a stream: the dispatcher, how many lines were invalid, and the fault
that ended the reading early. -/
structure EventRun (σ : Type) where
  dispatcher : Dispatcher σ
  invalid : Nat := 0
  stop : Option LineFault := none

/-- Takes in a line. The hook of an event is launched before the next line is read. -/
def EventRun.next [OperatingSystem σ] (run : EventRun σ) (line : String) : EventRun σ :=
  match run.stop with
  | some _ => run
  | none =>
    match Stream.readLine line with
    | .ok event =>
      { run with dispatcher := (run.dispatcher.dispatch event).launchAll }
    | .error fault =>
      if fault.isInvalid then
        let host := run.dispatcher.host.log .error .commandLine (Stream.invalidMessage line fault)
        { run with
          dispatcher := { run.dispatcher with host := host }, invalid := run.invalid + 1 }
      else { run with stop := some fault }

/-- The words for a run without a command. -/
def noCommandMessage : String := "No command configured, pass --onevent"

/-- The words for a run with failures. -/
def failuresMessage (failures invalid : Nat) : String :=
  s!"{failures} hook invocation(s) failed, {invalid} invalid event(s)"

/-- The exit status of a run over a stream, with the log record that goes with it. -/
def EventRun.conclude (run : EventRun σ) (host : Host σ) : Nat × Host σ :=
  if run.dispatcher.failures = 0 ∧ run.invalid = 0 then (0, host)
  else
    (1, host.log .warning .commandLine (failuresMessage run.dispatcher.failures run.invalid))

variable [OperatingSystem σ]

/-- Runs the hook command for every event of a stream, and waits for the hooks. A run that stops
early kills the commands that still run. -/
def runEvents (settings : Settings) (host : Host σ) (input : String) : Finish σ :=
  match Given.filled? settings.onevent with
  | none => { ending := .exit 2, host := host.log .error .commandLine noCommandMessage }
  | some command =>
    let start : EventRun σ :=
      { dispatcher := .start (settings.effectiveShell host.environment) command .memory host }
    let run := (Stream.contents input).foldl EventRun.next start
    match run.stop with
    | some fault =>
      { ending := .broken (.overflow fault)
        host := run.dispatcher.abandon.host
        launches := run.dispatcher.launches }
    | none =>
      let (crash?, dispatcher) := run.dispatcher.drain
      let host := dispatcher.host.write dispatcher.sink.contents
      match crash? with
      | some refusal =>
        { ending := .broken (.refused refusal), host := host, launches := dispatcher.launches }
      | none =>
        let (status, host) := { run with dispatcher := dispatcher }.conclude host
        { ending := .exit status, host := host, launches := dispatcher.launches }

/-! ## Running a single command -/

/-- Runs a single command and writes what it has printed. -/
def runSingle (settings : Settings) (host : Host σ) (command : Given String) :
    Finish σ :=
  let shell := settings.effectiveShell host.environment
  match command with
  | .nothing =>
    { ending := .broken .commandNotText
      host := host.log .info .process s!"Running [] using {Text.quoted shell}" }
  | .value command =>
    match host.run shell command with
    | (.error (.refused refusal), host) => { ending := .broken (.refused refusal), host := host }
    | (.error (.failed failure), host) =>
      { ending := .exit 1, host := host.log .error .commandLine failure.message }
    | (.ok text, host) => { ending := .exit 0, host := host.write (Utf8.encode text) }

/-! ## The whole run -/

/-- The words that refuse a stored level. -/
def invalidLevelMessage (level : String) : String :=
  s!"Invalid log_level {Text.quoted level} in settings, expected one of " ++
    ", ".intercalate (LogLevel.all.map (·.name))

/-- The stored level, read without regard to case; a text that is no level is an error. -/
def storedLevel (settings : Settings) : Except String (Option LogLevel) :=
  match settings.logLevel.bind Given.value? with
  | none => .ok none
  | some text =>
    match LogLevel.ofName? (Text.upperCase text) with
    | some level => .ok (some level)
    | none => .error text

/-- The changes that the options make to the settings. -/
def changes (options : Options) : List (String × Option (Given String)) :=
  [(Setting.shell.name, options.shell), (Setting.onevent.name, options.onevent)]

/-- Does what the options ask for. -/
def perform (options : Options) (settings : Settings) (host : Host σ)
    (input : String) : Finish σ :=
  match options.run with
  | some command => runSingle settings host command
  | none => runEvents settings host input

/-- The level that the options give. -/
def givenLevel (options : Options) : LogLevel :=
  ((options.logLevel.bind Given.value?).getD .info)

/-- Goes on with loaded settings. -/
def continueWith (options : Options) (stored : StoredSettings) (host : Host σ)
    (input : String) : Finish σ :=
  match storedLevel stored.values with
  | .error text =>
    { ending := .exit 2, host := host.log .error .commandLine (invalidLevelMessage text) }
  | .ok level? =>
    let host := match options.logLevel, level? with
      | none, some level => { host with threshold := level }
      | _, _ => host
    let (settings, result) := stored.values.update (changes options)
    let stored := { stored with values := settings }
    let hasChanged := match result with
      | .ok hasChanged => hasChanged
      | .error _ => false
    let (refusal?, stored, host) :=
      if hasChanged && options.save then stored.save host else (none, stored, host)
    match refusal? with
    | some refusal => { ending := .broken (.refused refusal), host := host }
    | none => perform options stored.values host input

/-- Runs with options. -/
def runWith (options : Options) (host : Host σ) (input : String) : Finish σ :=
  let host := { host with threshold := givenLevel options }
  match StoredSettings.fileFor (Given.filled? options.configDir) host.environment with
  | none => { ending := .broken .homeless, host := host }
  | some file =>
    match ({ file? := some file } : StoredSettings).load host with
    | (.error error, _, host) => { ending := .broken (.unreadable error), host := host }
    | (.ok (), stored, host) => continueWith options stored host input

/-- Runs with arguments and the text of the standard input. -/
def run (arguments : List String) (host : Host σ) (input : String) : Finish σ :=
  match Options.read arguments with
  | .error stop =>
    { ending := .exit stop.status
      host := host.write (Utf8.encode stop.output)
      errors := stop.errors }
  | .ok options => runWith options host input

end CommandLine

end EventHooks
