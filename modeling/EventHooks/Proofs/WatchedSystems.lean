import EventHooks.Proofs.HookSteps

/-!
# Watched systems

A system that is watched remembers what it was asked to launch, and what it has answered. On such a
system, what a dispatcher notes as launched is what the system was asked for, once each and in
order, less what was refused before anyone asked (`Dispatcher.Noted.launch`).
-/
namespace EventHooks

variable {σ : Type}

/-- A system that remembers the launches that it was asked for, with its answers. -/
structure Watched (σ : Type) where
  system : σ
  answers : List (Invocation × Except OsError ProcessId) := []

/-- What was started when a launch was answered. -/
def startedBy {ε : Type} (invocation : Invocation) :
    Except ε ProcessId → List (ProcessId × Invocation)
  | .ok process => [(process, invocation)]
  | .error _ => []

/-- The processes that were started, each with what it was started for. -/
def Watched.started (watched : Watched σ) : List (ProcessId × Invocation) :=
  watched.answers.flatMap fun (invocation, answer) => startedBy invocation answer

@[simp]
theorem startedBy_mapError {ε ε' : Type} (invocation : Invocation) (change : ε → ε')
    (result : Except ε ProcessId) :
    startedBy invocation (result.mapError change) = startedBy invocation result := by
  cases result <;> rfl

instance [OperatingSystem σ] : OperatingSystem (Watched σ) where
  launch invocation input files watched :=
    let (result, files, system) :=
      OperatingSystem.launch invocation input files watched.system
    (result, files, ⟨system, watched.answers ++ [(invocation, result)]⟩)
  closeInput process watched :=
    { watched with system := OperatingSystem.closeInput process watched.system }
  collect process others files watched :=
    let (result, files, system) := OperatingSystem.collect process others files watched.system
    (result, files, { watched with system := system })
  kill process watched :=
    let (status, system) := OperatingSystem.kill process watched.system
    (status, { watched with system := system })
  elapse duration files watched :=
    let (files, system) := OperatingSystem.elapse duration files watched.system
    (files, { watched with system := system })

theorem Watched.answers_launch [OperatingSystem σ] (invocation : Invocation)
    (input : StandardInput) (files : FileStore) (watched : Watched σ) :
    (OperatingSystem.launch invocation input files watched).2.2.answers = watched.answers ++
      [(invocation, (OperatingSystem.launch invocation input files watched).1)] := rfl

theorem Watched.answers_collect [OperatingSystem σ] (process : ProcessId)
    (others : List ProcessId) (files : FileStore) (watched : Watched σ) :
    (OperatingSystem.collect process others files watched).2.2.answers = watched.answers := rfl

/-- A process is started if its launch succeeds. -/
theorem Host.launch_watched [OperatingSystem σ] (host : Host (Watched σ)) (invocation : Invocation)
    (input : StandardInput) : ∃ result later, host.launch invocation input = (result, later) ∧
      later.environment = host.environment ∧
      later.system.started = host.system.started ++ startedBy invocation result := by
  unfold Host.launch
  cases invocation.refusal? with
  | some refusal => exact ⟨_, host, rfl, rfl, (List.append_nil _).symm⟩
  | none =>
    refine ⟨_, _, rfl, rfl, ?_⟩
    rw [startedBy_mapError]
    simp [Watched.started]

namespace Dispatcher

variable {base : List (Invocation × Except OsError ProcessId)}
  {dispatcher before after : Dispatcher (Watched σ)} {event : Event} {files : FileStore}
  {watched : Watched σ}

/-- After some answers, the system was asked for exactly what is noted, once each and in order, less
what was refused. -/
def Noted (base : List (Invocation × Except OsError ProcessId))
    (dispatcher : Dispatcher (Watched σ)) : Prop :=
  ∃ answers, dispatcher.host.system.answers = base ++ answers ∧
    answers.map (·.1) = (dispatcher.launches.map (·.2)).filter (·.refusal?.isNone)

theorem noted_start (shell command : String) (sink : Sink) (host : Host (Watched σ)) :
    Noted host.system.answers (start shell command sink host) :=
  ⟨[], (List.append_nil _).symm, rfl⟩

/-- Where nothing is asked and nothing is noted, what is noted stays right. -/
theorem Noted.unasked (noted : Noted base before)
    (answers : after.host.system.answers = before.host.system.answers)
    (launches : after.launches = before.launches) : Noted base after := by
  unfold Noted
  rw [answers, launches]
  exact noted

theorem Noted.step (noted : Noted base dispatcher) {step : DispatchStep}
    (other : ∀ index result, step ≠ .launch index result) : Noted base (dispatcher.step step) :=
  noted.unasked (congrArg Watched.answers (dispatcher.system_step step))
    (dispatcher.launches_step other)

variable [OperatingSystem σ]

/-- The launch of a hook asks once, if it is not refused. -/
theorem Asks.answers_watched {result : Except RequestError ProcessId}
    (asks : dispatcher.Asks event files watched result) :
    ∃ own, watched.answers = dispatcher.host.system.answers ++ own ∧
      own.map (·.1) = [dispatcher.invocation event].filter (·.refusal?.isNone) := by
  cases asks with
  | refused refused => exact ⟨[], (List.append_nil _).symm, by simp [refused]⟩
  | @answered answer _ system plain answered =>
    refine ⟨[(dispatcher.invocation event, answer)], ?_, by simp [plain]⟩
    have remembers := Watched.answers_launch (dispatcher.invocation event) .held
      dispatcher.host.files dispatcher.host.system
    rw [answered] at remembers
    cases answer with
    | error error | ok process => exact remembers

/-- A wait for a process asks for no launch. -/
theorem Collects.answers_watched {process : ProcessId} {completion : Completion}
    (collects : dispatcher.Collects process files watched completion) :
    watched.answers = dispatcher.host.system.answers := by
  cases collects with
  | @collected first _ others _ _ _ _ answered _ =>
    have remembers := Watched.answers_collect first others dispatcher.host.files
      dispatcher.host.system
    rw [answered] at remembers
    exact remembers

/-- A launch notes exactly what it asks for. -/
theorem Noted.launch (noted : Noted base dispatcher) (index : Nat) :
    Noted base (dispatcher.launch index) := by
  rcases dispatcher.launch_cases index with
    ⟨same, -⟩ | ⟨event, files, watched, result, found, asks, same⟩
  · rw [same]
    exact noted
  obtain ⟨answers, isAnswers, asked⟩ := noted
  obtain ⟨own, isOwn, askedOwn⟩ := asks.answers_watched
  have advance := launched_of_queued
    (show (dispatcher.beside files watched).hooks[index]? = _ from found) result
  have launches : (dispatcher.launch index).launches =
      dispatcher.launches ++ [(index, dispatcher.invocation event)] := by
    rw [same]
    exact advance.launches
  refine ⟨answers ++ own, ?_, ?_⟩
  · rw [same, system_launched, ← List.append_assoc, ← isAnswers]
    exact isOwn
  · rw [launches, List.map_append, List.map_append, List.filter_append, asked, askedOwn]
    rfl

end Dispatcher

end EventHooks
