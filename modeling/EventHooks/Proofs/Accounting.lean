import EventHooks.Proofs.EventVariables
import EventHooks.Proofs.WatchedSystems
import Mathlib.Data.List.Perm.Basic
import Mathlib.Logic.Relation

/-!
# Accounting for hooks

A dispatcher and the drains on it take their steps in any order. Whatever the order, the pending
places are those of the hooks that have not ended, the failures are the hooks that were reported,
and every hook that has left the queue was launched once, for its own event. A drain that returns
normally leaves nothing pending (`hooks_accounted`). Where a system makes the launches, it is asked
for exactly those (`watched_launches_accounted`).
-/
namespace EventHooks

/-- Whether the command of a hook, or its launch or relay, has failed. -/
def Hook.hasFailed (hook : Hook) : Bool :=
  match hook.phase with
  | .finished (.failed _) => true
  | _ => false

/-- The invocations for a hook: none while it is queued, then one for its event. -/
def Hook.launches (shell command : String) (environment : Environment) (hook : Hook) :
    List Invocation :=
  if hook.phase = .queued then []
  else [shellInvocation shell command (environment.overlay hook.event.environment)]

theorem Hook.report?_isSome (hook : Hook) : hook.report?.isSome = hook.hasFailed := by
  obtain ⟨event, phase⟩ := hook
  unfold report? hasFailed
  rcases phase with _ | _ | _ | (_ | _ | _) <;> rfl

theorem Hook.report?_of_unfinished {hook : Hook} (unfinished : hook.isFinished = false) :
    hook.report? = none := by
  obtain ⟨event, phase⟩ := hook
  cases phase with
  | finished result => simp [Hook.isFinished] at unfinished
  | queued | running _ | relaying _ => rfl

/-! ## Places of hooks -/

/-- The places of the hooks that have not ended, in order. -/
def unfinished (hooks : List Hook) : List Nat :=
  (List.range hooks.length).filter fun index => (hooks[index]?).any (!·.isFinished)

theorem mem_unfinished {hooks : List Hook} {index : Nat} :
    index ∈ unfinished hooks ↔ ∃ hook, hooks[index]? = some hook ∧ hook.isFinished = false := by
  unfold unfinished
  rw [List.mem_filter, List.mem_range]
  constructor
  · rintro ⟨-, holds⟩
    simpa [Option.any_eq_true] using holds
  · rintro ⟨hook, found, unfinished⟩
    refine ⟨(List.getElem?_eq_some_iff.1 found).1, ?_⟩
    rw [found, Option.any_some, unfinished]
    rfl

theorem nodup_unfinished (hooks : List Hook) : (unfinished hooks).Nodup :=
  List.nodup_range.filter _

theorem unfinished_eq_nil_iff {hooks : List Hook} :
    unfinished hooks = [] ↔ ∀ hook ∈ hooks, hook.isFinished := by
  rw [List.eq_nil_iff_forall_not_mem]
  constructor
  · intro none hook member
    obtain ⟨index, found⟩ := List.mem_iff_getElem?.1 member
    by_contra unended
    exact none index (mem_unfinished.2 ⟨hook, found, by simpa using unended⟩)
  · intro ended index member
    obtain ⟨hook, found, unended⟩ := mem_unfinished.1 member
    rw [ended hook (List.mem_of_getElem? found)] at unended
    cases unended

theorem unfinished_append (hooks : List Hook) (hook : Hook) :
    unfinished (hooks ++ [hook]) =
      unfinished hooks ++ if hook.isFinished then [] else [hooks.length] := by
  unfold unfinished
  rw [List.length_append, List.length_singleton, List.range_succ, List.filter_append]
  congr 1
  · refine List.filter_congr fun index member => ?_
    rw [List.getElem?_append_left (List.mem_range.1 member)]
  · cases finished : hook.isFinished <;> simp [finished]

/-- As many places as hooks that have not ended. -/
theorem length_unfinished (hooks : List Hook) :
    (unfinished hooks).length = hooks.countP (!·.isFinished) := by
  induction hooks using List.reverseRecOn with
  | nil => rfl
  | append_singleton hooks hook ih =>
    rw [unfinished_append, List.length_append, ih, List.countP_append]
    cases finished : hook.isFinished <;> simp [finished]

section Replaced

variable {hooks : List Hook} {index : Nat} {old new : Hook}

/-- A hook that moves on leaves its place only when it ends. -/
theorem unfinished_set (found : hooks[index]? = some old) (unended : old.isFinished = false) :
    unfinished (hooks.set index new) =
      if new.isFinished then (unfinished hooks).erase index else unfinished hooks := by
  have bound : index < hooks.length := (List.getElem?_eq_some_iff.1 found).1
  have atPlace (place : Nat) : ((hooks.set index new)[place]?).any (!·.isFinished) =
      if place = index then !new.isFinished else (hooks[place]?).any (!·.isFinished) := by
    by_cases own : place = index
    · rw [own, List.getElem?_set_self bound, if_pos rfl, Option.any_some]
    · rw [List.getElem?_set_ne (Ne.symm own), if_neg own]
  split_ifs with ended
  · rw [(nodup_unfinished hooks).erase_eq_filter]
    unfold unfinished
    rw [List.filter_filter, List.length_set]
    refine List.filter_congr fun place _ => ?_
    rw [atPlace]
    by_cases own : place = index <;> simp [own, ended]
  · unfold unfinished
    rw [List.length_set]
    refine List.filter_congr fun place _ => ?_
    rw [atPlace]
    by_cases own : place = index
    · simp [own, found, unended, ended]
    · rw [if_neg own]

/-- What a replaced element adds to a list of what the elements give, if it gave nothing before. -/
theorem filterMap_set_perm {α β : Type} {read : α → Option β} {list : List α} {index : Nat}
    {old : α} (found : list[index]? = some old) (silent : read old = none) (new : α) :
    ((list.set index new).filterMap read).Perm (list.filterMap read ++ (read new).toList) := by
  induction list generalizing index with
  | nil => simp at found
  | cons first rest ih =>
    cases index with
    | zero =>
      obtain rfl : first = old := by simpa using found
      rw [List.set_cons_zero, List.filterMap_cons_none silent]
      cases given : read new with
      | none => simp [List.filterMap_cons_none given]
      | some result =>
        rw [List.filterMap_cons_some given]
        exact (List.perm_append_singleton result _).symm
    | succ index =>
      have found : rest[index]? = some old := by simpa using found
      have rest := ih found
      rw [List.set_cons_succ, List.filterMap_cons, List.filterMap_cons]
      cases read first with
      | none => exact rest
      | some result => exact rest.cons result

end Replaced

/-! ## An event loop -/

/-- A dispatcher and the drains on it, which go on when the event loop lets them. -/
structure EventLoop (σ : Type) where
  dispatcher : Dispatcher σ
  drains : List Drain := []

/-- One step of an event loop: of the dispatcher or one of its hooks, of something else that has
    nothing to do with them, or of a drain. -/
inductive EventLoop.Step {σ : Type} : EventLoop σ → EventLoop σ → Prop
  | hook (loop : EventLoop σ) (step : DispatchStep) :
    Step loop { loop with dispatcher := loop.dispatcher.step step }
  | elsewhere {loop : EventLoop σ} {dispatcher : Dispatcher σ}
    (quiet : loop.dispatcher.Quiet dispatcher) : Step loop { loop with dispatcher := dispatcher }
  | drain (loop : EventLoop σ) :
    Step loop { loop with drains := loop.drains ++ [loop.dispatcher.look] }
  | resume {loop : EventLoop σ} {index : Nat} {drain : Drain}
    (found : loop.drains[index]? = some drain) :
    Step loop { loop with drains := loop.drains.set index (loop.dispatcher.resume drain) }

namespace Dispatcher

variable {σ : Type} {shell command : String} {host : Host σ} {before after : Dispatcher σ}

/-- The launches of the hook at a place. -/
def launchesAt (dispatcher : Dispatcher σ) (index : Nat) : List Invocation :=
  (dispatcher.launches.filter (·.1 = index)).map (·.2)

/-- What the books of a dispatcher say that was started on a host. -/
structure Accounted (shell command : String) (host : Host σ) (dispatcher : Dispatcher σ) :
    Prop where
  pending : dispatcher.pending = unfinished dispatcher.hooks
  failures : dispatcher.failures = dispatcher.hooks.countP Hook.hasFailed
  reports : (dispatcher.host.spoken .dispatcher).Perm
    (host.spoken .dispatcher ++ dispatcher.hooks.filterMap Hook.report?)
  launches : ∀ index, dispatcher.launchesAt index =
    ((dispatcher.hooks[index]?).map (·.launches shell command host.environment)).getD []
  shell : dispatcher.shell = shell
  command : dispatcher.command = command
  environment : dispatcher.host.environment = host.environment

theorem hasFinished_iff {dispatcher : Dispatcher σ} {index : Nat} :
    dispatcher.hasFinished index = true ↔ index ∉ unfinished dispatcher.hooks := by
  rw [mem_unfinished, hasFinished]
  cases dispatcher.hooks[index]? with
  | none => simp
  | some hook => simp

/-- When all hooks have ended, so have those that anything waits for. -/
theorem all_hasFinished {dispatcher : Dispatcher σ} (none : unfinished dispatcher.hooks = [])
    (indices : List Nat) : indices.all dispatcher.hasFinished = true := by
  refine List.all_eq_true.2 fun index _ => hasFinished_iff.2 ?_
  rw [none]
  exact List.not_mem_nil

theorem Accounted.pending_eq_nil_iff {dispatcher : Dispatcher σ}
    (books : Accounted shell command host dispatcher) :
    dispatcher.pending = [] ↔ ∀ hook ∈ dispatcher.hooks, hook.isFinished := by
  rw [books.pending, unfinished_eq_nil_iff]

theorem accounted_start (shell command : String) (sink : Sink) (host : Host σ) :
    Accounted shell command host (start shell command sink host) := by
  refine ⟨rfl, rfl, ?_, fun index => ?_, rfl, rfl, rfl⟩
  · simp [start]
  · simp [start, launchesAt]

theorem Accounted.quiet (books : Accounted shell command host before)
    (quiet : Quiet before after) : Accounted shell command host after := by
  constructor
  · rw [quiet.pending, quiet.hooks, books.pending]
  · rw [quiet.failures, quiet.hooks, books.failures]
  · rw [quiet.reports, quiet.hooks]
    exact books.reports
  · intro index
    rw [launchesAt, quiet.launches, quiet.hooks]
    exact books.launches index
  · rw [quiet.shell, books.shell]
  · rw [quiet.command, books.command]
  · rw [quiet.environment, books.environment]

theorem Accounted.dispatch (books : Accounted shell command host before) (event : Event) :
    Accounted shell command host (before.dispatch event) := by
  refine ⟨?_, ?_, ?_, fun index => ?_, books.shell, books.command, books.environment⟩
  · simp only [Dispatcher.dispatch, unfinished_append, books.pending, Hook.isFinished,
      Bool.false_eq_true, if_false]
  · simp [Dispatcher.dispatch, books.failures, Hook.hasFailed]
  · have same : (before.dispatch event).hooks.filterMap Hook.report? =
        before.hooks.filterMap Hook.report? := by
      simp [Dispatcher.dispatch, Hook.report?]
    rw [same]
    exact books.reports
  · have same : (before.dispatch event).launchesAt index = before.launchesAt index := rfl
    rw [same, books.launches]
    -- The new hook is queued, so its place counts for as little as no place.
    rcases Nat.lt_trichotomy index before.hooks.length with inside | own | outside
    · simp [Dispatcher.dispatch, List.getElem?_append_left inside]
    · simp [Dispatcher.dispatch, own, Hook.launches]
    · rw [List.getElem?_eq_none (by omega), List.getElem?_eq_none]
      simp only [Dispatcher.dispatch, List.length_append, List.length_singleton]
      omega

theorem Accounted.advance {index : Nat} {event : Event} {phase next : HookPhase}
    (books : Accounted shell command host before)
    (advance : Advance before index event phase next after) :
    Accounted shell command host after := by
  have bound : index < before.hooks.length := (List.getElem?_eq_some_iff.1 advance.found).1
  have silent := Hook.report?_of_unfinished advance.unfinished
  have perm := filterMap_set_perm advance.found silent ⟨event, next⟩
  constructor
  · rw [advance.pending, advance.hooks, unfinished_set advance.found advance.unfinished,
      books.pending]
  · rw [advance.failures, advance.hooks, books.failures]
    have count := perm.length_eq
    simp only [List.length_append, List.length_filterMap_eq_countP, Hook.report?_isSome] at count
    exact count.symm
  · rw [advance.reports, advance.hooks]
    refine (books.reports.append_right _).trans ?_
    rw [List.append_assoc]
    exact perm.symm.append_left _
  · intro place
    rw [launchesAt, advance.launches, List.filter_append, List.map_append]
    change before.launchesAt place ++ _ = _
    rw [books.launches, advance.hooks]
    by_cases own : place = index
    · rw [own, List.getElem?_set_self bound, advance.found]
      by_cases queued : phase = .queued
      · simp [queued, Hook.launches, advance.started, invocation, books.shell, books.command,
          books.environment]
      · simp [queued, Hook.launches, advance.started]
    · rw [List.getElem?_set_ne (Ne.symm own)]
      split_ifs with queued
      · simp [Ne.symm own]
      · simp
  · rw [advance.shell, books.shell]
  · rw [advance.command, books.command]
  · rw [advance.environment, books.environment]

theorem Accounted.step (books : Accounted shell command host before) (step : DispatchStep) :
    Accounted shell command host (before.step step) := by
  rcases step_cases before step with same | ⟨event, same⟩ | ⟨index, event, phase, next, advance⟩
  · rw [same]
    exact books
  · rw [same]
    exact books.dispatch event
  · exact books.advance advance

end Dispatcher

/-! ## Every state of an event loop -/

/-- The command under the shell; every variable of the event has its value for the event, every
    other one its value from the environment. -/
structure Invocation.IsFor (shell command : String) (environment : Environment) (event : Event)
    (invocation : Invocation) : Prop where
  program : invocation.program = shell
  arguments : invocation.arguments = ["-c", command]
  values : ∀ name, invocation.environment.get? name =
    (event.environment.get? name).or (environment.get? name)

theorem isFor_shellInvocation (shell command : String) (environment : Environment)
    (event : Event) : (shellInvocation shell command
      (environment.overlay event.environment)).IsFor shell command environment event :=
  ⟨rfl, rfl, Environment.get?_overlay environment (nodup_environment event)⟩

/-- The books of a dispatcher balance with its hooks: what is pending has not ended, each hook that
    has failed was counted once and reported once by its own record, and each hook was launched
    once, for its own event, unless it is still queued. -/
structure Dispatcher.Balanced {σ : Type} (shell command : String) (host : Host σ)
    (dispatcher : Dispatcher σ) : Prop where
  distinct : dispatcher.pending.Nodup
  pending : ∀ index, index ∈ dispatcher.pending ↔
    ∃ hook, dispatcher.hooks[index]? = some hook ∧ hook.isFinished = false
  count : dispatcher.pending.length = dispatcher.hooks.countP (!·.isFinished)
  failures : dispatcher.failures = dispatcher.hooks.countP Hook.hasFailed
  reports : (dispatcher.host.spoken .dispatcher).Perm
    (host.spoken .dispatcher ++ dispatcher.hooks.filterMap Hook.report?)
  records : (dispatcher.host.spoken .dispatcher).length =
    (host.spoken .dispatcher).length + dispatcher.failures
  queued : ∀ index event, dispatcher.hooks[index]? = some ⟨event, .queued⟩ →
    dispatcher.launchesAt index = []
  launched : ∀ index event phase, dispatcher.hooks[index]? = some ⟨event, phase⟩ →
    phase ≠ .queued → ∃ invocation, dispatcher.launchesAt index = [invocation] ∧
      invocation.IsFor shell command host.environment event
  known : ∀ entry ∈ dispatcher.launches, entry.1 < dispatcher.hooks.length

section Loops

variable {σ : Type} {shell command : String} {sink : Sink} {host : Host σ}
  {loop next : EventLoop σ}

theorem Dispatcher.Accounted.balanced {dispatcher : Dispatcher σ}
    (books : dispatcher.Accounted shell command host) :
    dispatcher.Balanced shell command host where
  distinct := books.pending ▸ nodup_unfinished _
  pending index := by rw [books.pending, mem_unfinished]
  count := by rw [books.pending, length_unfinished]
  failures := books.failures
  reports := books.reports
  records := by
    rw [books.reports.length_eq, List.length_append, List.length_filterMap_eq_countP,
      books.failures]
    simp only [Hook.report?_isSome]
  queued index event found := by
    rw [books.launches, found]
    rfl
  launched index event phase found started := by
    refine ⟨_, ?_, isFor_shellInvocation shell command host.environment event⟩
    rw [books.launches, found]
    simp [Hook.launches, started]
  known entry member := by
    by_contra outside
    have none := List.getElem?_eq_none (Nat.not_lt.1 outside)
    have empty := books.launches entry.1
    rw [none, launchesAt] at empty
    have launched : entry ∈ dispatcher.launches.filter (·.1 = entry.1) := by simp [member]
    rw [List.map_eq_nil_iff.1 empty] at launched
    cases launched

theorem EventLoop.accounted_step (books : loop.dispatcher.Accounted shell command host)
    (step : EventLoop.Step loop next) : next.dispatcher.Accounted shell command host := by
  cases step with
  | hook step => exact books.step step
  | elsewhere quiet => exact books.quiet quiet
  | drain => exact books
  | resume found => exact books

theorem EventLoop.accounted_run
    (reached : Relation.ReflTransGen EventLoop.Step ⟨.start shell command sink host, []⟩ loop) :
    loop.dispatcher.Accounted shell command host := by
  induction reached with
  | refl => exact Dispatcher.accounted_start shell command sink host
  | tail _ step ih => exact EventLoop.accounted_step ih step

theorem Dispatcher.look_eq_over_none {dispatcher : Dispatcher σ} {refusal? : Option Refusal}
    (returned : dispatcher.look = .over refusal?) : refusal? = none ∧ dispatcher.pending = [] := by
  unfold look at returned
  split_ifs at returned with empty
  cases returned
  exact ⟨rfl, List.isEmpty_iff.1 empty⟩

/-- A drain that returns normally has looked and found nothing pending. -/
theorem Dispatcher.resume_eq_over_none {dispatcher : Dispatcher σ} {drain : Drain}
    (returned : dispatcher.resume drain = .over none) (waits : drain ≠ .over none) :
    dispatcher.pending = [] := by
  match drain with
  | .over refusal? => exact absurd returned waits
  | .awaiting indices =>
    simp only [resume] at returned
    split at returned
    · cases returned
    · split_ifs at returned
      exact (look_eq_over_none returned).2

theorem EventLoop.pending_of_return (step : EventLoop.Step loop next) {index : Nat}
    (returned : next.drains[index]? = some (.over none))
    (waited : loop.drains[index]? ≠ some (.over none)) : next.dispatcher.pending = [] := by
  cases step with
  | hook step => exact absurd returned waited
  | elsewhere quiet => exact absurd returned waited
  | drain =>
    rcases Nat.lt_trichotomy index loop.drains.length with inside | rfl | outside
    · rw [List.getElem?_append_left inside] at returned
      exact absurd returned waited
    · rw [List.getElem?_concat_length] at returned
      exact (Dispatcher.look_eq_over_none (Option.some.inj returned)).2
    · rw [List.getElem?_eq_none (by simp; omega)] at returned
      cases returned
  | @resume place drain found =>
    by_cases own : index = place
    · rw [own, List.getElem?_set_self (List.getElem?_eq_some_iff.1 found).1] at returned
      refine Dispatcher.resume_eq_over_none (Option.some.inj returned) fun ended => ?_
      rw [own, found, ended] at waited
      exact waited rfl
    · rw [List.getElem?_set_ne (Ne.symm own)] at returned
      exact absurd returned waited

/-- In every state that an event loop reaches from a dispatcher without hooks, whatever the order of
    dispatches, launches, exits, relays and drains, the books balance; and whenever a drain returns
    normally, nothing is pending. -/
theorem hooks_accounted
    (reached : Relation.ReflTransGen EventLoop.Step ⟨.start shell command sink host, []⟩ loop) :
    loop.dispatcher.Balanced shell command host ∧
      ∀ next, EventLoop.Step loop next → ∀ index : Nat, next.drains[index]? = some (.over none) →
        loop.drains[index]? ≠ some (.over none) → next.dispatcher.pending = [] :=
  ⟨(EventLoop.accounted_run reached).balanced,
    fun _ step _ returned waited => EventLoop.pending_of_return step returned waited⟩

end Loops

/-- A host with no variables, no files and no log. -/
def Host.bare : Host Unit := { environment := [], files := ⟨[], []⟩, system := () }

/-- A drain waits for one hook, whose launch fails. -/
def EventLoop.failedLaunch : EventLoop Unit :=
  ⟨((Dispatcher.start "/bin/sh" "true" .memory Host.bare).dispatch (.volumeChanged 5)).launched 0
    (.error (.system (.ofErrno .noEntry none))), [.awaiting [0]]⟩

/-- The failed launch is counted once, and the drain that waited for it returns normally. -/
theorem failed_launch_accounted :
    EventLoop.failedLaunch.dispatcher.Balanced "/bin/sh" "true" Host.bare ∧
      EventLoop.failedLaunch.dispatcher.failures = 1 ∧
      EventLoop.failedLaunch.dispatcher.resume (.awaiting [0]) = .over none ∧
      EventLoop.failedLaunch.dispatcher.pending = [] := by
  have dispatched := EventLoop.Step.hook ⟨.start "/bin/sh" "true" .memory Host.bare, []⟩
    (.dispatch (.volumeChanged 5))
  have drained := EventLoop.Step.drain
    ⟨(Dispatcher.start "/bin/sh" "true" .memory Host.bare).dispatch (.volumeChanged 5), []⟩
  have launched := EventLoop.Step.hook
    ⟨(Dispatcher.start "/bin/sh" "true" .memory Host.bare).dispatch (.volumeChanged 5),
      [.awaiting [0]]⟩ (.launch 0 (.error (.system (.ofErrno .noEntry none))))
  have reached : Relation.ReflTransGen EventLoop.Step
      ⟨.start "/bin/sh" "true" .memory Host.bare, []⟩ EventLoop.failedLaunch :=
    ((Relation.ReflTransGen.single dispatched).tail drained).tail launched
  obtain ⟨balanced, returns⟩ := hooks_accounted reached
  have waits : EventLoop.failedLaunch.drains[0]? = some (.awaiting [0]) := rfl
  have resumed := EventLoop.Step.resume waits
  have nothing := returns _ resumed 0 rfl (by simp [EventLoop.failedLaunch])
  exact ⟨balanced, rfl, rfl, nothing⟩

/-! ## Launches by a system -/

/-- One step of an event loop in which a system that is watched makes the launches. What else there
    is in the loop asks it for none. -/
inductive EventLoop.WatchedStep {σ : Type} [OperatingSystem σ] :
    EventLoop (Watched σ) → EventLoop (Watched σ) → Prop
  | launch (loop : EventLoop (Watched σ)) (index : Nat) :
    WatchedStep loop { loop with dispatcher := loop.dispatcher.launch index }
  | hook (loop : EventLoop (Watched σ)) {step : DispatchStep}
    (other : ∀ index result, step ≠ .launch index result) :
    WatchedStep loop { loop with dispatcher := loop.dispatcher.step step }
  | elsewhere {loop : EventLoop (Watched σ)} {dispatcher : Dispatcher (Watched σ)}
    (quiet : loop.dispatcher.Quiet dispatcher)
    (unasked : dispatcher.host.system.answers = loop.dispatcher.host.system.answers) :
    WatchedStep loop { loop with dispatcher := dispatcher }
  | drain (loop : EventLoop (Watched σ)) :
    WatchedStep loop { loop with drains := loop.drains ++ [loop.dispatcher.look] }
  | resume {loop : EventLoop (Watched σ)} {index : Nat} {drain : Drain}
    (found : loop.drains[index]? = some drain) :
    WatchedStep loop { loop with drains := loop.drains.set index (loop.dispatcher.resume drain) }

section Watching

open Relation

variable {σ : Type} [OperatingSystem σ] {shell command : String} {sink : Sink}
  {host : Host (Watched σ)} {loop next : EventLoop (Watched σ)}

/-- The launch of a hook by a system is a step of the loop, with the answer of the system. -/
theorem EventLoop.WatchedStep.steps (watched : EventLoop.WatchedStep loop next) :
    ReflTransGen EventLoop.Step loop next := by
  cases watched with
  | launch index =>
    rcases loop.dispatcher.launch_cases index with
      ⟨same, -⟩ | ⟨event, files, system, result, -, -, same⟩
    · rw [same]
    · rw [same]
      have beside := EventLoop.Step.elsewhere (loop.dispatcher.quiet_beside files system)
      exact (ReflTransGen.single beside).tail (.hook _ (.launch index result))
  | hook other => exact .single (.hook loop _)
  | elsewhere quiet _ => exact .single (.elsewhere quiet)
  | drain => exact .single (.drain loop)
  | resume found => exact .single (.resume found)

theorem EventLoop.WatchedStep.noted {base : List (Invocation × Except OsError ProcessId)}
    (watched : EventLoop.WatchedStep loop next) (noted : loop.dispatcher.Noted base) :
    next.dispatcher.Noted base := by
  cases watched with
  | launch index => exact noted.launch index
  | hook other => exact noted.step other
  | elsewhere quiet unasked => exact noted.unasked unasked quiet.launches
  | drain | resume _ => exact noted

theorem EventLoop.noted_run
    (reached : ReflTransGen EventLoop.WatchedStep ⟨.start shell command sink host, []⟩ loop) :
    loop.dispatcher.Noted host.system.answers := by
  induction reached with
  | refl => exact Dispatcher.noted_start shell command sink host
  | tail _ watched ih => exact watched.noted ih

/-- Whatever the order of all steps, the books balance, and the system was asked for exactly the
    launches in them, once each and in order, less those that were refused. -/
theorem watched_launches_accounted
    (reached : ReflTransGen EventLoop.WatchedStep ⟨.start shell command sink host, []⟩ loop) :
    loop.dispatcher.Balanced shell command host ∧ loop.dispatcher.Noted host.system.answers := by
  have steps : ReflTransGen EventLoop.Step ⟨.start shell command sink host, []⟩ loop :=
    reached.lift' id fun _ _ watched => watched.steps
  exact ⟨(EventLoop.accounted_run steps).balanced, EventLoop.noted_run reached⟩

end Watching

end EventHooks
