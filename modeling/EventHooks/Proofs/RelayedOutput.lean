import EventHooks.Proofs.Isolation

/-!
# Relayed output

What a command comes to may depend on its environment, and so on its event, but on nothing else.
Then the order in which the hooks start, exit and relay only decides in which order their outputs
come: when a drain returns, the sink has got the outputs of exactly the hooks that succeeded, each
once and whole, and every order ends with the same failures, records and outputs
(`outputs_exactly_once`).
-/
namespace EventHooks

/-! ## What a command comes to -/

/-- What a command comes to in an environment: it cannot be launched, or it exits. -/
abbrev Behavior := Environment → Except OsError Completion

namespace Behavior

/-- A launch goes as the behavior says: nothing but an error of the system keeps a command from
being launched. -/
def Launches (behavior : Behavior) (environment : Environment) :
    Except RequestError ProcessId → Prop
  | .ok _ => ∃ completion, behavior environment = .ok completion
  | .error (.system error) => behavior environment = .error error
  | .error (.refused _) => False

variable (behavior : Behavior) (environment : Environment)

/-- The output of the hook of an event, if its command exits with status zero. -/
def output? (event : Event) : Option Bytes :=
  match behavior (environment.overlay event.environment) with
  | .ok completion => if completion.status = 0 then some completion.output else none
  | .error _ => none

/-- The failure of the hook of an event, if its command cannot be launched or exits with another
status than zero. -/
def failure? (shell command : String) (event : Event) : Option Failure :=
  match behavior (environment.overlay event.environment) with
  | .ok completion =>
    match completion.verdict shell command with
    | .ok _ => none
    | .error failure => some failure
  | .error error => some (.spawn shell command error)

/-- The outputs of the hooks that succeed, each with the place of its hook. -/
def outputs (events : List Event) : List (Nat × Bytes) :=
  events.zipIdx.filterMap fun (event, index) => (behavior.output? environment event).map (index, ·)

/-- The records that report the hooks that fail. -/
def reports (shell command : String) (events : List Event) : List LogRecord :=
  events.filterMap fun event =>
    (behavior.failure? environment shell command event).map fun failure =>
      ⟨.error, .dispatcher, hookMessage event failure⟩

end Behavior

/-! ## Schedules -/

/-- The schedules of an event loop in which commands behave in a certain way, with what their hooks
have relayed, in order. Other parts of the program leave the sink alone. -/
inductive EventLoop.Schedule {σ : Type} (behavior : Behavior) (start : EventLoop σ) :
    List (Nat × Bytes) → EventLoop σ → Prop
  | nil : Schedule behavior start [] start
  | dispatch {relays : List (Nat × Bytes)} {loop : EventLoop σ}
    (schedule : Schedule behavior start relays loop) (event : Event) :
    Schedule behavior start relays
      { loop with dispatcher := loop.dispatcher.step (.dispatch event) }
  | launch {relays : List (Nat × Bytes)} {loop : EventLoop σ} {event : Event}
    (schedule : Schedule behavior start relays loop) (index : Nat)
    (result : Except RequestError ProcessId)
    (found : loop.dispatcher.hooks[index]? = some ⟨event, .queued⟩)
    (launches : behavior.Launches (loop.dispatcher.invocation event).environment result) :
    Schedule behavior start relays
      { loop with dispatcher := loop.dispatcher.step (.launch index result) }
  | exit {relays : List (Nat × Bytes)} {loop : EventLoop σ} {event : Event}
    {process : ProcessId} {completion : Completion} (schedule : Schedule behavior start relays loop)
    (index : Nat) (found : loop.dispatcher.hooks[index]? = some ⟨event, .running process⟩)
    (exits : behavior (loop.dispatcher.invocation event).environment = .ok completion) :
    Schedule behavior start relays
      { loop with dispatcher := loop.dispatcher.step (.exit index completion) }
  | relay {relays : List (Nat × Bytes)} {loop : EventLoop σ} {event : Event} {output : Bytes}
    (schedule : Schedule behavior start relays loop) (index : Nat)
    (found : loop.dispatcher.hooks[index]? = some ⟨event, .relaying output⟩) :
    Schedule behavior start (relays ++ [(index, output)])
      { loop with dispatcher := loop.dispatcher.step (.relay index) }
  | elsewhere {relays : List (Nat × Bytes)} {loop : EventLoop σ} {dispatcher : Dispatcher σ}
    (schedule : Schedule behavior start relays loop) (quiet : loop.dispatcher.Quiet dispatcher)
    (sink : dispatcher.sink = loop.dispatcher.sink) :
    Schedule behavior start relays { loop with dispatcher := dispatcher }
  | drain {relays : List (Nat × Bytes)} {loop : EventLoop σ}
    (schedule : Schedule behavior start relays loop) :
    Schedule behavior start relays { loop with drains := loop.drains ++ [loop.dispatcher.look] }
  | resume {relays : List (Nat × Bytes)} {loop : EventLoop σ} {index : Nat} {drain : Drain}
    (schedule : Schedule behavior start relays loop) (found : loop.drains[index]? = some drain) :
    Schedule behavior start relays
      { loop with drains := loop.drains.set index (loop.dispatcher.resume drain) }

/-- A drain returns: one that starts now finds nothing to wait for, or one that waits finds that it
is over. -/
inductive EventLoop.Returns {σ : Type} (loop : EventLoop σ) : Prop
  | atOnce (nothing : loop.dispatcher.look = .over none)
  | waited (index : Nat) (indices : List Nat)
    (waits : loop.drains[index]? = some (.awaiting indices))
    (ends : loop.dispatcher.resume (.awaiting indices) = .over none)

section Schedules

variable {σ : Type} {behavior : Behavior} {start loop : EventLoop σ} {relays : List (Nat × Bytes)}

/-- A schedule is one of the runs of an event loop. -/
theorem EventLoop.Schedule.steps (schedule : Schedule behavior start relays loop) :
    Relation.ReflTransGen EventLoop.Step start loop := by
  induction schedule with
  | nil => exact .refl
  | dispatch _ event ih => exact ih.tail (.hook _ _)
  | launch _ _ _ _ _ ih => exact ih.tail (.hook _ _)
  | exit _ _ _ _ ih => exact ih.tail (.hook _ _)
  | relay _ _ _ ih => exact ih.tail (.hook _ _)
  | elsewhere _ quiet _ ih => exact ih.tail (.elsewhere quiet)
  | drain _ ih => exact ih.tail (.drain _)
  | resume _ found ih => exact ih.tail (.resume found)

theorem EventLoop.Returns.pending (returns : loop.Returns) : loop.dispatcher.pending = [] := by
  cases returns with
  | atOnce nothing => exact (Dispatcher.look_eq_over_none nothing).2
  | waited index indices waits ends => exact Dispatcher.resume_eq_over_none ends (by simp)

end Schedules

/-! ## What hooks have relayed -/

section Relays

variable (behavior : Behavior) (environment : Environment) (shell command : String)

/-- A hook stands where the behavior of its command can take it. -/
def Hook.Follows (hook : Hook) : Prop :=
  match hook.phase with
  | .queued | .running _ => True
  | .relaying output => behavior.output? environment hook.event = some output
  | .finished .succeeded =>
    ∃ output, behavior.output? environment hook.event = some output
  | .finished (.failed failure) =>
    behavior.failure? environment shell command hook.event = some failure
  | .finished (.crashed _) => False

/-- What the hook at a place has relayed. -/
def Hook.relayed? (place : Hook × Nat) : Option (Nat × Bytes) :=
  if place.1.phase = .finished .succeeded then
    (behavior.output? environment place.1.event).map (place.2, ·)
  else none

/-- What some hooks have relayed, each with its place. -/
def relayedBy (hooks : List Hook) : List (Nat × Bytes) :=
  hooks.zipIdx.filterMap (Hook.relayed? behavior environment)

variable {behavior environment shell command}

/-- A hook that relays has not failed. -/
theorem Behavior.failure?_of_output? {event : Event} {output : Bytes}
    (relays : behavior.output? environment event = some output) :
    behavior.failure? environment shell command event = none := by
  unfold Behavior.output? at relays
  unfold Behavior.failure?
  split at relays
  · rename_i completion _
    split at relays
    · rename_i success
      simp only [Completion.verdict, success, if_true]
    · cases relays
  · cases relays

theorem Behavior.output?_of_failure? {event : Event} {failure : Failure}
    (fails : behavior.failure? environment shell command event = some failure) :
    behavior.output? environment event = none := by
  cases relays : behavior.output? environment event with
  | none => rfl
  | some output => simp [failure?_of_output? relays] at fails

theorem relayedBy_append (hooks : List Hook) (event : Event) :
    relayedBy behavior environment (hooks ++ [⟨event, .queued⟩]) =
      relayedBy behavior environment hooks := by
  simp [relayedBy, List.zipIdx_append, Hook.relayed?]

theorem zipIdx_set {α : Type} (list : List α) (index : Nat) (new : α) :
    (list.set index new).zipIdx = list.zipIdx.set index (new, index) := by
  refine List.ext_getElem? fun place => ?_
  by_cases own : index = place
  · subst own
    by_cases inside : index < list.length
    · simp [inside]
    · simp [List.set_eq_of_length_le, Nat.not_lt.1 inside]
  · simp [List.getElem?_set_ne own, List.getElem?_zipIdx]

theorem relayedBy_set {hooks : List Hook} {index : Nat} {event : Event} {phase : HookPhase}
    (found : hooks[index]? = some ⟨event, phase⟩) (unended : Hook.isFinished ⟨event, phase⟩ = false)
    (next : HookPhase) :
    (relayedBy behavior environment (hooks.set index ⟨event, next⟩)).Perm
      (relayedBy behavior environment hooks ++
        (Hook.relayed? behavior environment (⟨event, next⟩, index)).toList) := by
  have atPlace : hooks.zipIdx[index]? = some (⟨event, phase⟩, index) := by
    simp [List.getElem?_zipIdx, found]
  have silent : Hook.relayed? behavior environment (⟨event, phase⟩, index) = none := by
    unfold Hook.relayed?
    rw [if_neg]
    rintro rfl
    cases unended
  rw [relayedBy, zipIdx_set]
  exact filterMap_set_perm atPlace silent _

/-- Hooks that have all ended where their commands can take them have relayed what the behavior
says. -/
theorem relayedBy_of_finished {hooks : List Hook}
    (follows : ∀ hook ∈ hooks, hook.Follows behavior environment shell command)
    (finished : ∀ hook ∈ hooks, hook.isFinished) :
    relayedBy behavior environment hooks = behavior.outputs environment (hooks.map (·.event)) := by
  rw [relayedBy, Behavior.outputs, List.zipIdx_map, List.filterMap_map]
  refine List.filterMap_congr fun place member => ?_
  obtain ⟨⟨event, phase⟩, index⟩ := place
  have isHook := List.fst_mem_of_mem_zipIdx member
  have follow := follows _ isHook
  have ended := finished _ isHook
  cases phase with
  | queued | running _ | relaying _ => cases ended
  | finished result =>
    cases result with
    | succeeded => rfl
    | failed failure => simp [Hook.relayed?, Behavior.output?_of_failure? follow]
    | crashed refusal => exact follow.elim

theorem reports_of_finished {hooks : List Hook}
    (follows : ∀ hook ∈ hooks, hook.Follows behavior environment shell command)
    (finished : ∀ hook ∈ hooks, hook.isFinished) :
    hooks.filterMap Hook.report? =
      behavior.reports environment shell command (hooks.map (·.event)) := by
  rw [Behavior.reports, List.filterMap_map]
  refine List.filterMap_congr fun hook member => ?_
  obtain ⟨event, phase⟩ := hook
  have follow := follows _ member
  have ended := finished _ member
  cases phase with
  | queued | running _ | relaying _ => cases ended
  | finished result =>
    cases result with
    | succeeded =>
      obtain ⟨output, relays⟩ := follow
      simp [Hook.report?, Behavior.failure?_of_output? relays]
    | failed failure => simp [Hook.report?, show _ = some failure from follow]
    | crashed refusal => exact follow.elim

end Relays

/-! ## The sink -/

namespace Dispatcher

variable {σ : Type} (dispatcher : Dispatcher σ) (index : Nat)

theorem sink_launched (result : Except RequestError ProcessId) :
    (dispatcher.launched index result).sink = dispatcher.sink := by
  unfold launched
  split
  · split
    · rcases result with (error | refusal) | process <;> rfl
    · rfl
  · rfl

theorem sink_exited (completion : Completion) :
    (dispatcher.exited index completion).sink = dispatcher.sink := by
  unfold exited
  split
  · split
    · dsimp only
      split_ifs <;> split <;> rfl
    · rfl
  · rfl

/-- A relay writes what the hook has to relay. -/
theorem sink_relayed {dispatcher : Dispatcher σ} {index : Nat} {event : Event} {output : Bytes}
    (found : dispatcher.hooks[index]? = some ⟨event, .relaying output⟩) :
    (dispatcher.relayed index).sink = (dispatcher.sink.write output).2 := by
  simp only [relayed, found]
  cases (dispatcher.sink.write output).1 <;> rfl

/-- What the books of a dispatcher say in whose hooks commands behave in a certain way: each hook
stands where its command can take it, and the sink has got just what the hooks have relayed. -/
structure Delivers (behavior : Behavior) (shell command : String) (sink : Sink) (host : Host σ)
    (relays : List (Nat × Bytes)) (dispatcher : Dispatcher σ) : Prop where
  books : dispatcher.Accounted shell command host
  follows : ∀ hook ∈ dispatcher.hooks, hook.Follows behavior host.environment shell command
  relayed : relays.Perm (relayedBy behavior host.environment dispatcher.hooks)
  contents : dispatcher.sink.contents = sink.contents ++ (relays.map (·.2)).flatten
  accepts : ∀ bytes, dispatcher.sink.refusal? bytes = none

section Deliveries

variable {behavior : Behavior} {shell command : String} {sink : Sink} {host : Host σ}
  {relays : List (Nat × Bytes)} {before after : Dispatcher σ} {index : Nat} {event : Event}
  {phase next : HookPhase}

theorem delivers_start (accepts : ∀ bytes, sink.refusal? bytes = none) :
    Delivers behavior shell command sink host [] (start shell command sink host) where
  books := accounted_start shell command sink host
  follows := by simp [start]
  relayed := .refl _
  contents := by simp [start]
  accepts := accepts

theorem Delivers.quiet (delivers : Delivers behavior shell command sink host relays before)
    (quiet : Quiet before after) (same : after.sink = before.sink) :
    Delivers behavior shell command sink host relays after where
  books := delivers.books.quiet quiet
  follows := quiet.hooks ▸ delivers.follows
  relayed := quiet.hooks ▸ delivers.relayed
  contents := same ▸ delivers.contents
  accepts := same ▸ delivers.accepts

theorem Delivers.dispatch (delivers : Delivers behavior shell command sink host relays before)
    (event : Event) :
    Delivers behavior shell command sink host relays (before.dispatch event) where
  books := delivers.books.dispatch event
  follows hook member := by
    rcases List.mem_append.1 member with old | new
    · exact delivers.follows hook old
    · rw [List.mem_singleton.1 new]
      trivial
  relayed := by
    rw [Dispatcher.dispatch, relayedBy_append]
    exact delivers.relayed
  contents := delivers.contents
  accepts := delivers.accepts

/-- A hook that moves on to where its command can take it keeps the books right, if the sink gets
what is relayed. -/
theorem Delivers.advance (delivers : Delivers behavior shell command sink host relays before)
    (advance : Advance before index event phase next after)
    (follows : Hook.Follows behavior host.environment shell command ⟨event, next⟩)
    (takes : after.sink = { before.sink with
      contents := before.sink.contents ++
        ((Hook.relayed? behavior host.environment (⟨event, next⟩, index)).map (·.2)).getD [] }) :
    Delivers behavior shell command sink host
      (relays ++ (Hook.relayed? behavior host.environment (⟨event, next⟩, index)).toList)
      after where
  books := delivers.books.advance advance
  follows hook member := by
    rw [advance.hooks] at member
    rcases List.mem_or_eq_of_mem_set member with old | rfl
    · exact delivers.follows hook old
    · exact follows
  relayed := by
    rw [advance.hooks]
    exact (delivers.relayed.append_right _).trans
      (relayedBy_set advance.found advance.unfinished next).symm
  contents := by
    rw [takes, delivers.contents]
    cases Hook.relayed? behavior host.environment (⟨event, next⟩, index) <;> simp
  accepts := by
    rw [takes]
    exact delivers.accepts

/-- A hook that moves on without success relays nothing. -/
theorem Delivers.advance_silently
    (delivers : Delivers behavior shell command sink host relays before)
    (advance : Advance before index event phase next after)
    (follows : Hook.Follows behavior host.environment shell command ⟨event, next⟩)
    (silent : next ≠ .finished .succeeded) (same : after.sink = before.sink) :
    Delivers behavior shell command sink host relays after := by
  have nothing : Hook.relayed? behavior host.environment (⟨event, next⟩, index) = none := by
    rw [Hook.relayed?, if_neg silent]
  have delivered := delivers.advance advance follows (by simp [nothing, same])
  rwa [nothing, Option.toList_none, List.append_nil] at delivered

/-- The environment of a hook is the host's with the variables of its event on top. -/
theorem Delivers.environment (delivers : Delivers behavior shell command sink host relays before)
    (event : Event) :
    (before.invocation event).environment = host.environment.overlay event.environment := by
  rw [← delivers.books.environment]
  rfl

theorem Delivers.launch (delivers : Delivers behavior shell command sink host relays before)
    {result : Except RequestError ProcessId}
    (found : before.hooks[index]? = some ⟨event, .queued⟩)
    (launches : behavior.Launches (before.invocation event).environment result) :
    Delivers behavior shell command sink host relays (before.launched index result) := by
  rw [delivers.environment] at launches
  have advance := launched_of_queued found result
  have same := before.sink_launched index result
  rw [delivers.books.shell, delivers.books.command] at advance
  rcases result with (error | refusal) | process
  · have fails : Hook.Follows behavior host.environment shell command
        ⟨event, .finished (.failed (.spawn shell command error))⟩ := by
      simp only [Hook.Follows, Behavior.failure?, show _ = Except.error error from launches]
    exact delivers.advance_silently advance fails (by simp [HookPhase.afterLaunch]) same
  · exact launches.elim
  · exact delivers.advance_silently advance trivial (by simp [HookPhase.afterLaunch]) same

theorem Delivers.exit (delivers : Delivers behavior shell command sink host relays before)
    {process : ProcessId} {completion : Completion}
    (found : before.hooks[index]? = some ⟨event, .running process⟩)
    (exits : behavior (before.invocation event).environment = .ok completion) :
    Delivers behavior shell command sink host relays (before.exited index completion) := by
  rw [delivers.environment] at exits
  have advance := exited_of_running found completion
  have same := before.sink_exited index completion
  rw [delivers.books.shell, delivers.books.command, HookPhase.afterExit] at advance
  cases verdict : completion.verdict shell command with
  | ok output =>
    obtain ⟨success, rfl⟩ := Completion.verdict_eq_ok_iff.1 verdict
    have succeeds : Hook.Follows behavior host.environment shell command
        ⟨event, .relaying completion.output⟩ := by
      simp only [Hook.Follows, Behavior.output?, exits, success, if_true]
    rw [verdict] at advance
    exact delivers.advance_silently advance succeeds (by simp) same
  | error failure =>
    have fails : Hook.Follows behavior host.environment shell command
        ⟨event, .finished (.failed failure)⟩ := by
      simp only [Hook.Follows, Behavior.failure?, exits, verdict]
    rw [verdict] at advance
    exact delivers.advance_silently advance fails (by simp) same

theorem Delivers.relay (delivers : Delivers behavior shell command sink host relays before)
    {output : Bytes} (found : before.hooks[index]? = some ⟨event, .relaying output⟩) :
    Delivers behavior shell command sink host (relays ++ [(index, output)])
      (before.relayed index) := by
  have relays : behavior.output? host.environment event = some output :=
    delivers.follows _ (List.mem_of_getElem? found)
  have advance := relayed_of_relaying found
  rw [HookPhase.afterRelay, delivers.accepts] at advance
  have written := sink_relayed found
  rw [Sink.write, delivers.accepts] at written
  have succeeds : Hook.Follows behavior host.environment shell command
      ⟨event, .finished .succeeded⟩ := ⟨output, relays⟩
  simpa [Hook.relayed?, relays] using
    delivers.advance advance succeeds (by simp [Hook.relayed?, relays, written])

theorem delivers_schedule {loop : EventLoop σ} (accepts : ∀ bytes, sink.refusal? bytes = none)
    (schedule : EventLoop.Schedule behavior ⟨start shell command sink host, []⟩ relays loop) :
    Delivers behavior shell command sink host relays loop.dispatcher := by
  induction schedule with
  | nil => exact delivers_start accepts
  | dispatch _ event ih => exact ih.dispatch event
  | launch _ _ _ found launches ih => exact ih.launch found launches
  | exit _ _ found exits ih => exact ih.exit found exits
  | relay _ _ found ih => exact ih.relay found
  | elsewhere _ quiet same ih => exact ih.quiet quiet same
  | drain _ ih => exact ih
  | resume _ _ ih => exact ih

end Deliveries

end Dispatcher

/-! ## Every order -/

section Orders

variable {σ : Type} {behavior : Behavior} {shell command : String} {sink : Sink} {host : Host σ}
  {relays : List (Nat × Bytes)} {loop : EventLoop σ}

/-- No hook crashes, so no drain has anything to raise. -/
theorem EventLoop.Schedule.normal (accepts : ∀ bytes, sink.refusal? bytes = none)
    (schedule : Schedule behavior ⟨.start shell command sink host, []⟩ relays loop)
    (refusal : Refusal) : .over (some refusal) ∉ loop.drains := by
  induction schedule with
  | nil => exact List.not_mem_nil
  | dispatch _ _ ih => exact ih
  | launch _ _ _ _ _ ih => exact ih
  | exit _ _ _ _ ih => exact ih
  | relay _ _ _ ih => exact ih
  | elsewhere _ _ _ ih => exact ih
  | @drain _ loop _ ih =>
    rw [List.mem_append, List.mem_singleton, not_or]
    refine ⟨ih, fun raised => ?_⟩
    have normal := (Dispatcher.look_eq_over_none raised.symm).1
    cases normal
  | @resume _ loop index drain schedule found ih =>
    intro member
    rcases List.mem_or_eq_of_mem_set member with old | raised
    · exact ih old
    · match drain with
      | .over refusal? => exact ih (raised ▸ List.mem_of_getElem? found)
      | .awaiting indices =>
        simp only [Dispatcher.resume] at raised
        split at raised
        · rename_i crash
          obtain ⟨place, -, crashed⟩ := List.exists_of_findSome?_eq_some crash
          obtain ⟨event, isHook⟩ := crash?_eq_some crashed
          exact (Dispatcher.delivers_schedule accepts schedule).follows _
            (List.mem_of_getElem? isHook)
        · split_ifs at raised
          have normal := (Dispatcher.look_eq_over_none raised.symm).1
          cases normal

/-- What a drain that returns leaves behind. The sink has got, in the order of the relays, what was
relayed, which is the output of every hook that succeeds and nothing else, each once; every hook
that fails is counted once and reported once. -/
structure EventLoop.Delivered (behavior : Behavior) (shell command : String) (sink : Sink)
    (host : Host σ) (relays : List (Nat × Bytes)) (loop : EventLoop σ) : Prop where
  normal : ∀ refusal, .over (some refusal) ∉ loop.drains
  contents : loop.dispatcher.sink.contents = sink.contents ++ (relays.map (·.2)).flatten
  relayed : relays.Perm
    (behavior.outputs host.environment (loop.dispatcher.hooks.map (·.event)))
  failures : loop.dispatcher.failures = (behavior.reports host.environment shell command
    (loop.dispatcher.hooks.map (·.event))).length
  reports : (loop.dispatcher.host.spoken .dispatcher).Perm (host.spoken .dispatcher ++
    behavior.reports host.environment shell command (loop.dispatcher.hooks.map (·.event)))

theorem EventLoop.Schedule.delivered (accepts : ∀ bytes, sink.refusal? bytes = none)
    (schedule : Schedule behavior ⟨.start shell command sink host, []⟩ relays loop)
    (returns : loop.Returns) : loop.Delivered behavior shell command sink host relays := by
  have delivers := Dispatcher.delivers_schedule accepts schedule
  have finished := delivers.books.pending_eq_nil_iff.1 returns.pending
  have reports := reports_of_finished delivers.follows finished
  refine ⟨schedule.normal accepts, delivers.contents, ?_, ?_, ?_⟩
  · rw [← relayedBy_of_finished delivers.follows finished]
    exact delivers.relayed
  · rw [← reports, delivers.books.failures, List.length_filterMap_eq_countP]
    simp only [Hook.report?_isSome]
  · rw [← reports]
    exact delivers.books.reports

/-- The outputs in an order of events are those in any other, but for the places. -/
theorem Behavior.outputs_perm {environment : Environment} {events others : List Event}
    (same : events.Perm others) :
    ((behavior.outputs environment events).map (·.2)).Perm
      ((behavior.outputs environment others).map (·.2)) := by
  have bare (events : List Event) : (behavior.outputs environment events).map (·.2) =
      events.filterMap (behavior.output? environment) := by
    conv_rhs => rw [← List.zipIdx_map_fst 0 events, List.filterMap_map]
    rw [Behavior.outputs, List.map_filterMap]
    simp [Function.comp_def]
  rw [bare, bare]
  exact same.filterMap _

/-- In whatever order hooks start, exit and relay, when a drain returns the sink has got the outputs
of exactly the hooks that succeed, each once and whole, in the order of the relays; and any other
order for the same events ends with as many failures, the same records and the same outputs. -/
theorem outputs_exactly_once (accepts : ∀ bytes, sink.refusal? bytes = none)
    (schedule : EventLoop.Schedule behavior ⟨.start shell command sink host, []⟩ relays loop)
    (returns : loop.Returns) :
    loop.Delivered behavior shell command sink host relays ∧
      ∀ (others : List (Nat × Bytes)) (other : EventLoop σ),
        EventLoop.Schedule behavior ⟨.start shell command sink host, []⟩ others other →
          other.Returns → (other.dispatcher.hooks.map (·.event)).Perm
            (loop.dispatcher.hooks.map (·.event)) →
              other.dispatcher.failures = loop.dispatcher.failures ∧
              (other.dispatcher.host.spoken .dispatcher).Perm
                (loop.dispatcher.host.spoken .dispatcher) ∧
              (others.map (·.2)).Perm (relays.map (·.2)) := by
  have delivered := schedule.delivered accepts returns
  refine ⟨delivered, fun others other otherSchedule otherReturns events => ?_⟩
  have otherDelivered := otherSchedule.delivered accepts otherReturns
  have reports : (behavior.reports host.environment shell command
      (other.dispatcher.hooks.map (·.event))).Perm
        (behavior.reports host.environment shell command
          (loop.dispatcher.hooks.map (·.event))) := events.filterMap _
  refine ⟨?_, ?_, ?_⟩
  · rw [otherDelivered.failures, delivered.failures, reports.length_eq]
  · exact otherDelivered.reports.trans
      ((reports.append_left _).trans delivered.reports.symm)
  · exact (otherDelivered.relayed.map _).trans
      ((Behavior.outputs_perm events).trans (delivered.relayed.map _).symm)

end Orders

/-- A command that writes the volume, and fails at volume seven. -/
def Behavior.byVolume : Behavior := fun environment =>
  match environment.get? "VOLUME" with
  | some "5" => .ok ⟨0, [0x35], []⟩
  | some "6" => .ok ⟨0, [0x36], []⟩
  | some "7" => .ok ⟨3, [0x37], [0x21]⟩
  | _ => .error (.ofErrno .noEntry none)

/-- Three hooks come to their end in two orders. -/
theorem two_orders_deliver :
    ∃ first second : EventLoop Unit,
      first.Delivered .byVolume "/bin/sh" "true" .memory Host.bare [(0, [0x35]), (1, [0x36])] ∧
      first.dispatcher.sink.contents = [0x35, 0x36] ∧
      second.dispatcher.sink.contents = [0x36, 0x35] ∧
      second.dispatcher.failures = first.dispatcher.failures := by
  have begun : EventLoop.Schedule .byVolume ⟨.start "/bin/sh" "true" .memory Host.bare, []⟩ []
      ⟨.start "/bin/sh" "true" .memory Host.bare, []⟩ := .nil
  have dispatched :=
    ((begun.dispatch (.volumeChanged 5)).dispatch (.volumeChanged 6)).dispatch (.volumeChanged 7)
  have launched := ((dispatched.launch 0 (.ok 0) rfl ⟨_, rfl⟩).launch 1 (.ok 1) rfl ⟨_, rfl⟩).launch
    2 (.ok 2) rfl ⟨_, rfl⟩
  have exited := ((launched.exit 0 rfl rfl).exit 1 rfl rfl).exit 2 rfl rfl
  have first := (exited.relay 0 rfl).relay 1 rfl
  have second := (exited.relay 1 rfl).relay 0 rfl
  obtain ⟨delivered, same⟩ := outputs_exactly_once (fun _ => rfl) first (.atOnce rfl)
  obtain ⟨failures, -⟩ := same _ _ second (.atOnce rfl) (.refl _)
  exact ⟨_, _, delivered, rfl, rfl, failures⟩

end EventHooks
