import EventHooks.Hook.Child
import EventHooks.Proofs.Accounting
import EventHooks.Proofs.ExitStatus

/-!
# Inherited variables

A command that is started for an event has the variables that the event sets. It has every other
variable as the host has it at that time, also one that another event would set: nothing is unset,
so a variable of an earlier event that the host has is seen again (`hooks_inherit`).
-/
namespace EventHooks

open CommandLine Text

variable {σ : Type}

/-! ## What a command sees -/

theorem get?_environment_of_other (event : Event) {name : String} (other : name ∉ variableNames) :
    event.environment.get? name = none := by
  cases found : event.environment.get? name with
  | none => rfl
  | some value =>
    exact absurd (event.suits_environment _ (Environment.mem_of_get?_eq_some found)).1 other

/-- The command for an event has the host's values of all variables that the event does not set. So
a variable is as the event has it exactly if the event sets it or the host has none. -/
structure Invocation.Inherits (shell command : String) (environment : Environment) (event : Event)
    (invocation : Invocation) : Prop where
  isFor : invocation.IsFor shell command environment event
  others : ∀ name, name ∉ variableNames →
    invocation.environment.get? name = environment.get? name
  fresh : ∀ name, invocation.environment.get? name = event.environment.get? name ↔
    event.environment.get? name ≠ none ∨ environment.get? name = none

theorem Invocation.IsFor.inherits {shell command : String} {environment : Environment}
    {event : Event} {invocation : Invocation}
    (isFor : invocation.IsFor shell command environment event) :
    invocation.Inherits shell command environment event := by
  refine ⟨isFor, fun name other => ?_, fun name => ?_⟩
  · rw [isFor.values, get?_environment_of_other event other, Option.none_or]
  · rw [isFor.values]
    cases event.environment.get? name <;> simp

/-! ## Runs over events -/

namespace Dispatcher

variable [OperatingSystem σ] {base : List (Invocation × Except OsError ProcessId)}
  {dispatcher : Dispatcher (Watched σ)}

theorem Noted.dispatch (noted : Noted base dispatcher) (event : Event) :
    Noted base (dispatcher.dispatch event).launchAll := by
  have dispatched : Noted base (dispatcher.dispatch event) := noted
  exact launchAll_keeps (fun _ index noted => noted.launch index) dispatched

theorem Noted.settleNext (noted : Noted base dispatcher) : Noted base dispatcher.settleNext := by
  rcases dispatcher.settleNext_cases with
    ⟨-, same⟩ | ⟨index, event, process, files, watched, completion, found, collects, same⟩
  · rw [same]
    exact noted
  · have collected : Noted base (dispatcher.beside files watched) :=
      noted.unasked collects.answers_watched rfl
    have exited : Noted base ((dispatcher.beside files watched).step (.exit index completion)) :=
      collected.step (by simp)
    have relayed : Noted base (Dispatcher.step _ (.relay index)) := exited.step (by simp)
    rw [same]
    exact relayed

theorem answers_abandon (dispatcher : Dispatcher (Watched σ)) :
    dispatcher.abandon.host.system.answers = dispatcher.host.system.answers := by
  unfold Dispatcher.abandon
  dsimp only
  generalize dispatcher.running = entries
  generalize dispatcher.host = host
  induction entries generalizing host with
  | nil => rfl
  | cons entry rest ih => exact ih _

end Dispatcher

section Runs

variable [OperatingSystem σ]

/-- A run over events has asked the system for exactly its launches, once each and in order, less
those that were refused. -/
theorem asked_runEvents (settings : Settings) (host : Host (Watched σ)) (input : String) :
    ∃ answers, (runEvents settings host input).host.system.answers =
        host.system.answers ++ answers ∧
      answers.map (·.1) =
        ((runEvents settings host input).launches.map (·.2)).filter (·.refusal?.isNone) := by
  unfold runEvents
  cases Given.filled? settings.onevent with
  | none => exact ⟨[], by simp, rfl⟩
  | some command =>
    obtain ⟨items, stop, taken⟩ := exists_taken (lines input)
    have noted : Dispatcher.Noted host.system.answers ((Stream.contents input).foldl EventRun.next
        ⟨.start (settings.effectiveShell host.environment) command .memory host, 0,
          none⟩).dispatcher :=
      dispatcher_of_taken (motive := fun _ => Dispatcher.Noted host.system.answers)
        (fun _ _ event noted => noted.dispatch event)
        (fun _ _ _ noted => noted.unasked (by simp) rfl)
        taken _ rfl [] (Dispatcher.noted_start _ _ _ host)
    dsimp only
    generalize (Stream.contents input).foldl EventRun.next
      (⟨.start _ _ _ host, 0, none⟩ : EventRun (Watched σ)) = run at noted ⊢
    have drained := Dispatcher.drain_keeps (fun _ index noted => noted.launch index)
      (fun _ noted => noted.settleNext) noted
    cases run.stop with
    | some fault =>
      dsimp only
      rw [Dispatcher.answers_abandon]
      exact noted
    | none =>
      cases run.dispatcher.drain.1 with
      | some refusal => exact drained
      | none =>
        dsimp only
        rw [system_conclude]
        exact drained

/-- Whatever a run over events has started is among its launches. -/
theorem started_runEvents (settings : Settings) (host : Host (Watched σ)) (input : String) :
    ∀ entry ∈ (runEvents settings host input).host.system.started,
      entry ∈ host.system.started ∨
        ∃ launch ∈ (runEvents settings host input).launches, launch.2 = entry.2 := by
  obtain ⟨answers, isAnswers, asked⟩ := asked_runEvents settings host input
  intro entry isStarted
  rw [Watched.started, isAnswers, List.flatMap_append, List.mem_append] at isStarted
  refine isStarted.imp_right fun isOwn => ?_
  obtain ⟨⟨invocation, answer⟩, isAnswer, isEntry⟩ := List.mem_flatMap.1 isOwn
  have isAsked : invocation ∈ answers.map (·.1) := List.mem_map_of_mem isAnswer
  rw [asked, List.mem_filter] at isAsked
  obtain ⟨launch, isLaunch, same⟩ := List.mem_map.1 isAsked.1
  refine ⟨launch, isLaunch, same.trans ?_⟩
  cases answer with
  | error error => cases isEntry
  | ok process => rw [List.mem_singleton.1 isEntry]

theorem mem_hookLaunches {shell command : String} {environment : Environment}
    {events : List Event} {launch : Nat × Invocation}
    (isLaunch : launch ∈ hookLaunches shell command environment events) :
    ∃ event ∈ events, launch.2.IsFor shell command environment event := by
  obtain ⟨⟨event, index⟩, isEvent, rfl⟩ := List.mem_map.1 isLaunch
  exact ⟨event, List.fst_mem_of_mem_zipIdx isEvent, isFor_shellInvocation _ _ _ _⟩

/-- A command that is started for an event inherits what the event does not set from the host as it
is at that time, and so does every command that a run starts for an event of its stream. -/
theorem hooks_inherit (host : Host (Watched σ)) :
    (∀ (shell command : String) (event : Event),
      let spawned := host.spawnOnEvent shell command event
      spawned.2.environment = host.environment ∧
        match spawned.1 with
        | .ok child => ∃ process invocation, child = ⟨shell, command, some process⟩ ∧
            spawned.2.system.started = host.system.started ++ [(process, invocation)] ∧
            invocation.Inherits shell command host.environment event
        | .error _ => spawned.2.system.started = host.system.started) ∧
    ∀ (settings : Settings) (input : String),
      ∀ entry ∈ (runEvents settings host input).host.system.started,
        entry ∈ host.system.started ∨
          ∃ command, settings.onevent = some (.value command) ∧
            ∃ event ∈ (Stream.read input).items.filterMap StreamItem.event?,
              entry.2.Inherits (settings.effectiveShell host.environment) command
                host.environment event := by
  refine ⟨fun shell command event => ?_, fun settings input entry isStarted => ?_⟩
  · have own := isFor_shellInvocation shell command host.environment event
    obtain ⟨result, later, launched, environment, started⟩ :=
      (host.log .info .process (startingMessage shell command event.environment)).launch_watched
        (shellInvocation shell command (host.environment.overlay event.environment)) .held
    rw [Host.environment_log] at environment
    rw [Host.system_log] at started
    simp only [Host.spawnOnEvent, Host.spawn, Host.environment_log, launched]
    cases result with
    | error error => exact ⟨environment, by rw [started]; exact List.append_nil _⟩
    | ok process => exact ⟨environment, process, _, rfl, started, own.inherits⟩
  · obtain ⟨items, stop, taken⟩ := exists_taken (lines input)
    have launches := launches_runEvents taken settings host
    rcases started_runEvents settings host input entry isStarted with
      earlier | ⟨launch, isLaunch, same⟩
    · exact .inl earlier
    · rw [launches] at isLaunch
      cases given : Given.filled? settings.onevent with
      | none => simp [given] at isLaunch
      | some command =>
        simp only [given] at isLaunch
        obtain ⟨event, isEvent, isFor⟩ := mem_hookLaunches isLaunch
        rw [(taken_iff.1 taken).1] at isEvent
        rw [same] at isFor
        exact .inr ⟨command, Given.filled?_eq_some given, event, isEvent, isFor.inherits⟩

end Runs

/-! ## A host with a stale variable -/

/-- A host that has a track identifier of its own, on which every command succeeds. -/
def Host.stale : Host (Watched Scripted) where
  environment := [("HOME", "/root"), ("TRACK_ID", "stale")]
  files := ⟨[], []⟩
  system := ⟨⟨.ok ⟨0, [], []⟩⟩, []⟩

/-- The track identifier of an event hides the one of the host. -/
theorem own_track_id_is_seen :
    ∃ process invocation,
      (Host.stale.spawnOnEvent "/bin/sh" "true" (.preloading ⟨1⟩)).2.system.started =
        [(process, invocation)] ∧
      invocation.environment.get? "TRACK_ID" = some "0000000000000000000001" ∧
      invocation.environment.get? "HOME" = some "/root" := by
  have started : (Host.stale.spawnOnEvent "/bin/sh" "true" (.preloading ⟨1⟩)).1 =
    .ok ⟨"/bin/sh", "true", some 0⟩ := rfl
  obtain ⟨-, child⟩ := (hooks_inherit Host.stale).1 "/bin/sh" "true" (.preloading ⟨1⟩)
  rw [started] at child
  obtain ⟨process, invocation, -, asked, inherits⟩ := child
  refine ⟨process, invocation, asked, ?_, ?_⟩
  · rw [(inherits.fresh "TRACK_ID").2 (.inl (by decide +kernel))]
    decide +kernel
  · rw [inherits.others "HOME" (by decide)]
    rfl

/-- An event without a track leaves the one of the host to be seen. -/
theorem stale_track_id_is_seen :
    "TRACK_ID" ∈ variableNames ∧
      (Event.volumeChanged 7).environment.get? "TRACK_ID" = none ∧
      ∃ process invocation,
        (Host.stale.spawnOnEvent "/bin/sh" "true" (.volumeChanged 7)).2.system.started =
          [(process, invocation)] ∧
        invocation.environment.get? "TRACK_ID" = some "stale" := by
  refine ⟨by decide, by decide +kernel, 0, _, rfl, ?_⟩
  decide +kernel

end EventHooks
