import EventHooks.Proofs.Scheduling

/-!
# Launches of hooks

The program launches the hook of an event before it reads on. So what it launches, and in which
order, is known from the shell, the command, the environment and the events, whatever the system
answers (`launches_runEvents`).
-/
namespace EventHooks

/-- The launches for some events, in order, each with the place of its hook. -/
def hookLaunches (shell command : String) (environment : Environment) (events : List Event) :
    List (Nat × Invocation) :=
  events.zipIdx.map fun (event, index) =>
    (index, shellInvocation shell command (environment.overlay event.environment))

theorem hookLaunches_concat (shell command : String) (environment : Environment)
    (events : List Event) (event : Event) :
    hookLaunches shell command environment (events ++ [event]) =
      hookLaunches shell command environment events ++ [(events.length,
        shellInvocation shell command (environment.overlay event.environment))] := by
  simp [hookLaunches, List.zipIdx_append]

namespace Dispatcher

variable {σ : Type} {shell command : String} {environment : Environment} {events : List Event}

/-- The hooks of a dispatcher are those of some events, and all of them have been launched, in
order. -/
structure InOrder (shell command : String) (environment : Environment) (events : List Event)
    (dispatcher : Dispatcher σ) : Prop where
  launches : dispatcher.launches = hookLaunches shell command environment events
  events : dispatcher.hooks.map (·.event) = events
  started : ∀ hook ∈ dispatcher.hooks, hook.phase ≠ .queued
  shell : dispatcher.shell = shell
  command : dispatcher.command = command
  environment : dispatcher.host.environment = environment

theorem inOrder_start (shell command : String) (sink : Sink) (host : Host σ) :
    InOrder shell command host.environment [] (start shell command sink host) :=
  ⟨rfl, rfl, by simp [start], rfl, rfl, rfl⟩

section Steps

variable {before after : Dispatcher σ}

theorem InOrder.quiet (inOrder : InOrder shell command environment events before)
    (quiet : Quiet before after) : InOrder shell command environment events after where
  events := by rw [quiet.hooks, inOrder.events]
  started := quiet.hooks ▸ inOrder.started
  launches := by rw [quiet.launches, inOrder.launches]
  shell := by rw [quiet.shell, inOrder.shell]
  command := by rw [quiet.command, inOrder.command]
  environment := by rw [quiet.environment, inOrder.environment]

/-- A hook that was launched before moves on without another launch. -/
theorem InOrder.advance {index : Nat} {event : Event} {phase next : HookPhase}
    (inOrder : InOrder shell command environment events before)
    (advance : Advance before index event phase next after) :
    InOrder shell command environment events after where
  events := by rw [events_advance advance, inOrder.events]
  started hook member := by
    rw [advance.hooks] at member
    rcases List.mem_or_eq_of_mem_set member with earlier | rfl
    · exact inOrder.started hook earlier
    · exact advance.started
  launches := by
    have launched : phase ≠ .queued := inOrder.started _ (List.mem_of_getElem? advance.found)
    rw [advance.launches, if_neg launched, List.append_nil, inOrder.launches]
  shell := by rw [advance.shell, inOrder.shell]
  command := by rw [advance.command, inOrder.command]
  environment := by rw [advance.environment, inOrder.environment]

theorem InOrder.relayed (inOrder : InOrder shell command environment events before)
    (index : Nat) : InOrder shell command environment events (before.relayed index) := by
  rcases relayed_cases before index with same | ⟨event, output, found⟩
  · rw [same]
    exact inOrder
  · exact inOrder.advance (relayed_of_relaying found)

/-- The last hook, still queued, is launched behind all others. -/
theorem InOrder.launched {event : Event} {next : HookPhase}
    (inOrder : InOrder shell command environment events before)
    (advance : Advance (before.dispatch event) before.hooks.length event .queued next after) :
    InOrder shell command environment (events ++ [event]) after where
  events := by
    rw [events_advance advance, Dispatcher.dispatch, List.map_append, inOrder.events]
    rfl
  started hook member := by
    have hooks : after.hooks = before.hooks ++ [⟨event, next⟩] := by
      rw [advance.hooks, Dispatcher.dispatch, List.set_append_right _ _ le_rfl, Nat.sub_self]
      rfl
    rw [hooks, List.mem_append, List.mem_singleton] at member
    rcases member with earlier | rfl
    · exact inOrder.started hook earlier
    · exact advance.started
  launches := by
    have place : before.hooks.length = events.length := by
      rw [← inOrder.events, List.length_map]
    have own : (before.dispatch event).invocation event =
        shellInvocation shell command (environment.overlay event.environment) := by
      rw [← inOrder.shell, ← inOrder.command, ← inOrder.environment]
      rfl
    rw [advance.launches, if_pos rfl, own, place, hookLaunches_concat, ← inOrder.launches]
    rfl
  shell := by rw [advance.shell, ← inOrder.shell]; rfl
  command := by rw [advance.command, ← inOrder.command]; rfl
  environment := by rw [advance.environment, ← inOrder.environment]; rfl

end Steps

section Systems

variable [OperatingSystem σ] {dispatcher : Dispatcher σ}

/-- Where no hook is queued, there is nothing to launch. -/
theorem foldl_launch_of_started {indices : List Nat}
    (started : ∀ index ∈ indices, ∀ event, dispatcher.hooks[index]? ≠ some ⟨event, .queued⟩) :
    indices.foldl launch dispatcher = dispatcher := by
  induction indices with
  | nil => rfl
  | cons index rest ih =>
    have same : dispatcher.launch index = dispatcher := by
      rcases dispatcher.launch_cases index with ⟨same, -⟩ | ⟨event, _, _, _, found, -⟩
      · exact same
      · exact absurd found (started index List.mem_cons_self event)
    rw [List.foldl_cons, same, ih fun other member =>
      started other (List.mem_cons_of_mem _ member)]

theorem InOrder.launchAll (inOrder : InOrder shell command environment events dispatcher) :
    dispatcher.launchAll = dispatcher :=
  foldl_launch_of_started fun _ _ _ found =>
    inOrder.started _ (List.mem_of_getElem? found) rfl

/-- The hook of a further event is the only one to be launched. -/
theorem InOrder.dispatch (inOrder : InOrder shell command environment events dispatcher)
    (event : Event) :
    InOrder shell command environment (events ++ [event])
      (dispatcher.dispatch event).launchAll := by
  have length : (dispatcher.dispatch event).hooks.length = dispatcher.hooks.length + 1 := by
    simp [Dispatcher.dispatch]
  have own : (dispatcher.dispatch event).hooks[dispatcher.hooks.length]? =
      some ⟨event, .queued⟩ := by
    simp [Dispatcher.dispatch]
  have earlier : (List.range dispatcher.hooks.length).foldl Dispatcher.launch
      (dispatcher.dispatch event) = dispatcher.dispatch event := by
    refine foldl_launch_of_started fun index inside other found => ?_
    rw [Dispatcher.dispatch, List.getElem?_append_left (List.mem_range.1 inside)] at found
    exact inOrder.started _ (List.mem_of_getElem? found) rfl
  rw [Dispatcher.launchAll, length, List.range_succ, List.foldl_append, earlier, List.foldl_cons,
    List.foldl_nil]
  rcases (dispatcher.dispatch event).launch_cases dispatcher.hooks.length with
    ⟨-, none⟩ | ⟨other, files, system, result, found, -, same⟩
  · exact absurd own (none event)
  · obtain rfl : event = other := (Hook.mk.inj (Option.some.inj (own.symm.trans found))).1
    rw [same]
    have advance := launched_of_queued
      (show ((dispatcher.beside files system).dispatch event).hooks[_]? = _ from own) result
    exact (inOrder.quiet (dispatcher.quiet_beside files system)).launched advance

theorem InOrder.settleNext (inOrder : InOrder shell command environment events dispatcher) :
    InOrder shell command environment events dispatcher.settleNext := by
  rcases dispatcher.settleNext_cases with
    ⟨-, same⟩ | ⟨index, event, process, files, system, completion, found, -, same⟩
  · rw [same]
    exact inOrder
  · have exits := exited_of_running
      (show (dispatcher.beside files system).hooks[index]? = _ from found) completion
    rw [same]
    exact ((inOrder.quiet (dispatcher.quiet_beside files system)).advance exits).relayed index

theorem InOrder.drain (inOrder : InOrder shell command environment events dispatcher) :
    InOrder shell command environment events dispatcher.drain.2 := by
  unfold Dispatcher.drain
  rw [inOrder.launchAll]
  dsimp only
  split
  · exact inOrder
  · exact settleUntil_keeps (fun _ inOrder => inOrder.settleNext) inOrder _

end Systems

end Dispatcher

/-! ## Runs over streams -/

section Runs

open CommandLine Text

variable {σ : Type} [OperatingSystem σ] {shell command : String} {environment : Environment}
  {raws : List String} {items : List StreamItem} {stop : Option LineFault}

/-- Reading a stream launches the hooks of its events. -/
theorem inOrder_of_taken (taken : Taken raws items stop) (run : EventRun σ)
    (goesOn : run.stop = none)
    (inOrder : run.dispatcher.InOrder shell command environment []) :
    ((contentsOf raws).foldl EventRun.next run).dispatcher.InOrder shell command environment
      (items.filterMap StreamItem.event?) := by
  have kept := dispatcher_of_taken (fun _ _ event inOrder => inOrder.dispatch event)
    (fun _ dispatcher message inOrder => inOrder.quiet
      (dispatcher.quiet_log .error (show LogSource.commandLine ≠ .dispatcher by decide) message))
    taken run goesOn [] inOrder
  rwa [List.nil_append] at kept

/-- A run over a stream launches one hook for each of its events, in order, if there is a command;
what the system answers changes nothing about it. -/
theorem launches_runEvents {input : String} (taken : Taken (lines input) items stop)
    (settings : Settings) (host : Host σ) :
    (runEvents settings host input).launches =
      match Given.filled? settings.onevent with
      | none => []
      | some command => hookLaunches (settings.effectiveShell host.environment) command
          host.environment (items.filterMap StreamItem.event?) := by
  unfold runEvents
  cases Given.filled? settings.onevent with
  | none => rfl
  | some command =>
    have inOrder := inOrder_of_taken taken
      ⟨.start (settings.effectiveShell host.environment) command .memory host, 0, none⟩ rfl
      (Dispatcher.inOrder_start _ _ _ host)
    have read : contentsOf (lines input) = Stream.contents input := rfl
    rw [read] at inOrder
    dsimp only
    generalize (Stream.contents input).foldl EventRun.next (⟨_, 0, none⟩ : EventRun σ) = run
      at inOrder ⊢
    cases run.stop with
    | some fault => exact inOrder.launches
    | none =>
      cases run.dispatcher.drain.1 with
      | none | some _ => exact inOrder.drain.launches

end Runs

end EventHooks
