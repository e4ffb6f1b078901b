import EventHooks.Hook.Child

/-!
# Dispatching events to the hook command

A dispatcher runs the hook command once for every event that it is given. The hooks run side by
side: each is queued, launched, exits and relays its output, and those steps may come in any order
among the hooks. A hook that fails is logged and counted and does not touch the others. One that is
never given to the system is neither: it crashes, and whoever waits for it learns why.
-/
namespace EventHooks

/-- How a hook ends. -/
inductive HookResult
  | succeeded
  | failed (failure : Failure)
  | crashed (refusal : Refusal)
  deriving DecidableEq, Repr

/-- Where a hook stands. -/
inductive HookPhase
  | queued
  | running (process : ProcessId)
  | relaying (output : Bytes)
  | finished (result : HookResult)
  deriving DecidableEq, Repr

/-- The hook of an event. -/
structure Hook where
  event : Event
  phase : HookPhase
  deriving DecidableEq, Repr

/-- Whether a hook has ended. -/
def Hook.isFinished (hook : Hook) : Bool :=
  match hook.phase with
  | .finished _ => true
  | _ => false

/-- A dispatcher: its hooks in the order of their events, the places of those that have not ended,
how many have failed, and every launch with the place of its hook. -/
structure Dispatcher (σ : Type) where
  shell : String
  command : String
  sink : Sink
  host : Host σ
  hooks : List Hook := []
  pending : List Nat := []
  failures : Nat := 0
  launches : List (Nat × Invocation) := []

/-- One step of a dispatcher or of one of its hooks. A launch comes with its result, and the exit of
a command with what it leaves behind. -/
inductive DispatchStep
  | dispatch (event : Event)
  | launch (index : Nat) (result : Except RequestError ProcessId)
  | exit (index : Nat) (completion : Completion)
  | relay (index : Nat)

/-- Where a wait for all hooks stands: it waits for the hooks at some places, or it is over, and a
hook that has crashed says why. -/
inductive Drain
  | awaiting (indices : List Nat)
  | over (refusal? : Option Refusal)
  deriving DecidableEq, Repr

/-- The name of a hook. -/
def Hook.name (hook : Hook) : String :=
  s!"hook-{hook.event.variant.name}"

/-- The words that report a failed hook. -/
def hookMessage (event : Event) (failure : Failure) : String :=
  s!"Hook for {event.variant.name} failed: {failure.message}"

namespace Dispatcher

variable {σ : Type}

/-- A dispatcher without hooks. -/
def start (shell command : String) (sink : Sink) (host : Host σ) : Dispatcher σ :=
  { shell := shell, command := command, sink := sink, host := host }

/-- Queues the hook of an event. -/
def dispatch (dispatcher : Dispatcher σ) (event : Event) : Dispatcher σ :=
  { dispatcher with
    hooks := dispatcher.hooks ++ [⟨event, .queued⟩]
    pending := dispatcher.pending ++ [dispatcher.hooks.length] }

/-- Moves a hook to a phase. -/
def move (dispatcher : Dispatcher σ) (index : Nat) (hook : Hook) (phase : HookPhase) :
    Dispatcher σ :=
  { dispatcher with hooks := dispatcher.hooks.set index { hook with phase := phase } }

/-- Ends a hook. -/
def finish (dispatcher : Dispatcher σ) (index : Nat) (hook : Hook) (result : HookResult) :
    Dispatcher σ :=
  { dispatcher.move index hook (.finished result) with pending := dispatcher.pending.erase index }

/-- Ends a hook with a failure, which is logged and counted. -/
def fail (dispatcher : Dispatcher σ) (index : Nat) (hook : Hook) (failure : Failure) :
    Dispatcher σ :=
  { dispatcher.finish index hook (.failed failure) with
    failures := dispatcher.failures + 1
    host := dispatcher.host.log .error .dispatcher (hookMessage hook.event failure) }

/-- The invocation for an event. The integers of an event that was decoded can be written. -/
def invocation (dispatcher : Dispatcher σ) (event : Event) : Invocation :=
  shellInvocation dispatcher.shell dispatcher.command
    (dispatcher.host.environment.overlay event.environment)

/-- Notes the launch of a hook. -/
def noteLaunch (dispatcher : Dispatcher σ) (index : Nat) (hook : Hook) : Dispatcher σ :=
  { dispatcher with
    launches := dispatcher.launches ++ [(index, dispatcher.invocation hook.event)]
    host := dispatcher.host.log .info .process
      (startingMessage dispatcher.shell dispatcher.command hook.event.environment) }

/-- Launches a queued hook, with the result of the launch. -/
def launched (dispatcher : Dispatcher σ) (index : Nat) (result : Except RequestError ProcessId) :
    Dispatcher σ :=
  match dispatcher.hooks[index]? with
  | some hook =>
    match hook.phase with
    | .queued =>
      let dispatcher := dispatcher.noteLaunch index hook
      match result with
      | .ok process => dispatcher.move index hook (.running process)
      | .error (.system error) =>
        dispatcher.fail index hook (.spawn dispatcher.shell dispatcher.command error)
      | .error (.refused refusal) => dispatcher.finish index hook (.crashed refusal)
    | _ => dispatcher
  | none => dispatcher

/-- The command of a hook has exited. -/
def exited (dispatcher : Dispatcher σ) (index : Nat) (completion : Completion) :
    Dispatcher σ :=
  match dispatcher.hooks[index]? with
  | some hook =>
    match hook.phase with
    | .running _ =>
      let dispatcher := if completion.status = 0 then dispatcher
        else { dispatcher with
          host := dispatcher.host.log .debug .process
            (exitMessage dispatcher.command completion.status) }
      match completion.verdict dispatcher.shell dispatcher.command with
      | .ok output => dispatcher.move index hook (.relaying output)
      | .error failure => dispatcher.fail index hook failure
    | _ => dispatcher
  | none => dispatcher

/-- The relay of a hook's output ends. -/
def relayed (dispatcher : Dispatcher σ) (index : Nat) : Dispatcher σ :=
  match dispatcher.hooks[index]? with
  | some hook =>
    match hook.phase with
    | .relaying output =>
      let (error?, sink) := dispatcher.sink.write output
      let dispatcher := { dispatcher with sink := sink }
      match error? with
      | some error =>
        dispatcher.fail index hook (.spawn dispatcher.shell dispatcher.command error)
      | none => dispatcher.finish index hook .succeeded
    | _ => dispatcher
  | none => dispatcher

/-- Takes a step. -/
def step (dispatcher : Dispatcher σ) : DispatchStep → Dispatcher σ
  | .dispatch event => dispatcher.dispatch event
  | .launch index result => dispatcher.launched index result
  | .exit index completion => dispatcher.exited index completion
  | .relay index => dispatcher.relayed index

/-- Why a hook has crashed, if it has. -/
def crash? (dispatcher : Dispatcher σ) (index : Nat) : Option Refusal :=
  match dispatcher.hooks[index]? with
  | some ⟨_, .finished (.crashed refusal)⟩ => some refusal
  | _ => none

/-- Whether a hook has come to its end. -/
def hasFinished (dispatcher : Dispatcher σ) (index : Nat) : Bool :=
  (dispatcher.hooks[index]?).all (·.isFinished)

/-- Looks whether there are hooks to wait for. -/
def look (dispatcher : Dispatcher σ) : Drain :=
  if dispatcher.pending.isEmpty then .over none else .awaiting dispatcher.pending

/-- Goes on with a drain: a hook that has crashed ends it, and when all hooks that it waits for have
come to their end, it looks again. -/
def resume (dispatcher : Dispatcher σ) (drain : Drain) : Drain :=
  match drain with
  | .awaiting indices =>
    match indices.findSome? dispatcher.crash? with
    | some refusal => .over (some refusal)
    | none => if indices.all dispatcher.hasFinished then dispatcher.look else drain
  | .over _ => drain

/-- The places of the hooks that run, with their processes. -/
def running (dispatcher : Dispatcher σ) : List (Nat × ProcessId) :=
  dispatcher.hooks.zipIdx.filterMap fun (hook, index) =>
    match hook.phase with
    | .running process => some (index, process)
    | _ => none

/-! ## Waiting for hooks -/

variable [OperatingSystem σ]

/-- Launches a queued hook. Its input is closed at once. -/
def launch (dispatcher : Dispatcher σ) (index : Nat) : Dispatcher σ :=
  match dispatcher.hooks[index]? with
  | some hook =>
    match hook.phase with
    | .queued =>
      let (result, host) := dispatcher.host.launch (dispatcher.invocation hook.event) .held
      let host := match result with
        | .ok process => host.closeInput process
        | .error _ => host
      { dispatcher with host := host }.launched index result
    | _ => dispatcher
  | none => dispatcher

/-- Launches every queued hook, in the order of the events. -/
def launchAll (dispatcher : Dispatcher σ) : Dispatcher σ :=
  (List.range dispatcher.hooks.length).foldl launch dispatcher

/-- Waits until the command of one of the hooks has exited, and lets its relay end. -/
def settleNext (dispatcher : Dispatcher σ) : Dispatcher σ :=
  match dispatcher.running with
  | [] => dispatcher
  | (first, process) :: others =>
    let ((ended, completion), host) := dispatcher.host.collect process (others.map (·.2))
    let index := ((others.find? (·.2 == ended)).map (·.1)).getD first
    ({ dispatcher with host := host }.exited index completion).relayed index

/-- Lets hooks come to their end, one after the other, until something holds. -/
def settleUntil (holds : Dispatcher σ → Bool) (dispatcher : Dispatcher σ) : Dispatcher σ :=
  dispatcher.hooks.foldl (fun dispatcher _ =>
    if holds dispatcher then dispatcher else dispatcher.settleNext) dispatcher

/-- Waits for a hook. A hook that has crashed says why. -/
def await (dispatcher : Dispatcher σ) (index : Nat) : Option Refusal × Dispatcher σ :=
  let dispatcher := dispatcher.launchAll.settleUntil (·.hasFinished index)
  (dispatcher.crash? index, dispatcher)

/-- Waits for all hooks that have not ended. The first that crashes ends the wait and leaves the
others running. -/
def drain (dispatcher : Dispatcher σ) : Option Refusal × Dispatcher σ :=
  let begun := dispatcher.look
  let dispatcher := dispatcher.launchAll
  match dispatcher.resume begun with
  | .over refusal? => (refusal?, dispatcher)
  | .awaiting indices =>
    (none, dispatcher.settleUntil fun dispatcher => indices.all dispatcher.hasFinished)

/-- Kills the commands of the hooks that run. -/
def abandon (dispatcher : Dispatcher σ) : Dispatcher σ :=
  { dispatcher with
    host := dispatcher.running.foldl (fun host entry => (host.kill entry.2).2) dispatcher.host }

end Dispatcher

end EventHooks
