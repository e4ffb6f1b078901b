import EventHooks.Event.Variables
import EventHooks.Hook.Runner
import EventHooks.Hook.Sink

/-!
# Children

A child is a command that runs on its own until it is waited on. The first wait takes the process
away from the child, so that every later one finds none. A wait closes the input of the command,
collects what the command has written, and relays the output of a command that succeeded to a sink.
One that is cancelled while the command runs kills it; one that is cancelled during the relay lets
the write end.
-/
namespace EventHooks

/-- A command that was started, with its process until it is waited on. -/
structure Child where
  shell : String
  command : String
  process? : Option ProcessId
  deriving DecidableEq, Repr

/-- Whether the child has a process. -/
def Child.hasProcess (child : Child) : Bool :=
  child.process?.isSome

/-- The words that announce a command with variables of its own. -/
def startingMessage (shell command : String) (added : Environment) : String :=
  s!"{runningMessage shell command} with environment variables {added.shown}"

section Starting

variable {σ : Type} [OperatingSystem σ]

/-- Starts a command with variables on top of the host's. -/
def Host.spawn (host : Host σ) (shell command : String) (added : Environment) :
    Except RunError Child × Host σ :=
  let host := host.log .info .process (startingMessage shell command added)
  let environment := host.environment.overlay added
  match host.launch (shellInvocation shell command environment) .held with
  | (.error error, host) => (.error (error.toRunError shell command), host)
  | (.ok process, host) => (.ok ⟨shell, command, some process⟩, host)

/-- Starts a command with the variables of an event, whose integers can be written. -/
def Host.spawnOnEvent (host : Host σ) (shell command : String) (event : Event) :
    Except RunError Child × Host σ :=
  host.spawn shell command event.environment

end Starting

/-! ## Waits -/

/-- How a wait ends. A cancelled wait leaves the exit status of the process behind, less than zero
for the signal that killed it. -/
inductive WaitOutcome
  | relayed
  | failed (failure : Failure)
  | alreadyWaited
  | cancelled (status : Int)
  deriving DecidableEq, Repr

/-- Where a wait stands: the command runs, its output is being written, or the wait is over. A
relay that is cancelled still ends. -/
inductive WaitPhase
  | collecting (process : ProcessId)
  | relaying (output : Bytes) (isCancelled : Bool)
  | over (outcome : WaitOutcome)
  deriving DecidableEq, Repr

/-- A wait on a child, with the sink that it relays to. -/
structure Wait where
  shell : String
  command : String
  phase : WaitPhase
  sink : Sink

/-- The words for a status other than zero. -/
def exitMessage (command : String) (status : Int) : String :=
  s!"{Text.quoted command} exited with status {IntegerText.render status}"

/-- The words that refuse a second wait. -/
def Child.waitedMessage (child : Child) : String :=
  s!"Child for {Text.quoted child.command} was already waited on"

/-- Starts a wait on a child. -/
def Child.beginWait (child : Child) (sink : Sink) : Wait × Child :=
  match child.process? with
  | some process =>
    (⟨child.shell, child.command, .collecting process, sink⟩, { child with process? := none })
  | none => (⟨child.shell, child.command, .over .alreadyWaited, sink⟩, child)

namespace Wait

/-- The process whose end is waited for. -/
def process? (wait : Wait) : Option ProcessId :=
  match wait.phase with
  | .collecting process => some process
  | _ => none

/-- The command has exited. -/
def exit {σ : Type} (wait : Wait) (completion : Completion) (host : Host σ) : Wait × Host σ :=
  match wait.phase with
  | .collecting _ =>
    let host := if completion.status = 0 then host
      else host.log .debug .process (exitMessage wait.command completion.status)
    match completion.verdict wait.shell wait.command with
    | .ok output => ({ wait with phase := .relaying output false }, host)
    | .error failure => ({ wait with phase := .over (.failed failure) }, host)
  | _ => (wait, host)

/-- The write of the relay ends. -/
def relay (wait : Wait) : Wait :=
  match wait.phase with
  | .relaying output isCancelled =>
    let (error?, sink) := wait.sink.write output
    let outcome : WaitOutcome :=
      if isCancelled then .cancelled 0
      else
        match error? with
        | some error => .failed (.spawn wait.shell wait.command error)
        | none => .relayed
    { wait with phase := .over outcome, sink := sink }
  | _ => wait

/-- The wait is cancelled. A command that still runs is killed, which leaves a status. -/
def cancel (wait : Wait) (status : Int) : Wait :=
  match wait.phase with
  | .collecting _ => { wait with phase := .over (.cancelled status) }
  | .relaying output _ => { wait with phase := .relaying output true }
  | .over _ => wait

/-- How the wait has ended, if it has. -/
def outcome? (wait : Wait) : Option WaitOutcome :=
  match wait.phase with
  | .over outcome => some outcome
  | _ => none

end Wait

/-! ## Many children -/

/-- Children and the waits on them. Each wait has a sink of its own. -/
structure Nursery (σ : Type) where
  host : Host σ
  children : List Child := []
  waits : List Wait := []

namespace Nursery

variable {σ : Type}

/-- Takes in a child, if it could be started. -/
def adopt (nursery : Nursery σ) : Except RunError Child × Host σ → Except RunError Child × Nursery σ
  | (.ok child, host) =>
    (.ok child, { nursery with host := host, children := nursery.children ++ [child] })
  | (.error error, host) => (.error error, { nursery with host := host })

/-- Changes a wait. -/
def onWait (nursery : Nursery σ) (index : Nat) (change : Wait → Host σ → Wait × Host σ) :
    Nursery σ :=
  match nursery.waits[index]? with
  | some wait =>
    let (wait, host) := change wait nursery.host
    { nursery with host := host, waits := nursery.waits.set index wait }
  | none => nursery

/-- The command of a wait has exited. -/
def exit (nursery : Nursery σ) (index : Nat) (completion : Completion) : Nursery σ :=
  nursery.onWait index fun wait host => wait.exit completion host

/-- The write of a wait's relay ends. -/
def relay (nursery : Nursery σ) (index : Nat) : Nursery σ :=
  nursery.onWait index fun wait host => (wait.relay, host)

/-- The places of the waits that a process holds up, with their processes. -/
def collecting (nursery : Nursery σ) (indices : List Nat) : List (Nat × ProcessId) :=
  indices.filterMap fun index =>
    ((nursery.waits[index]?).bind (·.process?)).map (index, ·)

variable [OperatingSystem σ]

/-- Starts a command with variables on top of the host's. -/
def spawn (nursery : Nursery σ) (shell command : String) (added : Environment) :
    Except RunError Child × Nursery σ :=
  nursery.adopt (nursery.host.spawn shell command added)

/-- Starts a command with the variables of an event. -/
def spawnOnEvent (nursery : Nursery σ) (shell command : String) (event : Event) :
    Except RunError Child × Nursery σ :=
  nursery.adopt (nursery.host.spawnOnEvent shell command event)

/-- Starts a wait on a child, which closes the input of its command. -/
def beginWait (nursery : Nursery σ) (index : Nat) (sink : Sink) : Nursery σ :=
  match nursery.children[index]? with
  | some child =>
    let (wait, rest) := child.beginWait sink
    { nursery with
      host := child.process?.elim nursery.host nursery.host.closeInput
      children := nursery.children.set index rest
      waits := nursery.waits ++ [wait] }
  | none => nursery

/-- Waits until the command of one of some waits has exited. -/
def exitNext (nursery : Nursery σ) (indices : List Nat) : Nursery σ :=
  match nursery.collecting indices with
  | [] => nursery
  | (first, process) :: others =>
    let ((ended, completion), host) := nursery.host.collect process (others.map (·.2))
    let index := ((others.find? (·.2 == ended)).map (·.1)).getD first
    { nursery with host := host }.exit index completion

/-- Lets the commands of some waits exit, and their relays end. -/
def settle (nursery : Nursery σ) (indices : List Nat) : Nursery σ :=
  indices.foldl relay (indices.foldl (fun nursery _ => nursery.exitNext indices) nursery)

/-- Cancels a wait. -/
def cancel (nursery : Nursery σ) (index : Nat) : Nursery σ :=
  nursery.onWait index fun wait host =>
    match wait.process? with
    | some process =>
      let (status, host) := host.kill process
      (wait.cancel status, host)
    | none => (wait.cancel 0, host)

/-- Lets microseconds pass. -/
def elapse (nursery : Nursery σ) (duration : Nat) : Nursery σ :=
  { nursery with host := nursery.host.elapse duration }

end Nursery

end EventHooks
