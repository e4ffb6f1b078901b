import EventHooks.Hook.Dispatcher

/-!
# Steps of hooks

What one step of a dispatcher changes. A step that is not a dispatch moves one hook that has not
ended to its next phase, with all that goes with it, or changes nothing.
-/
namespace EventHooks

variable {σ : Type}

/-- The record that reports a hook, which has failed. -/
def Hook.report? (hook : Hook) : Option LogRecord :=
  match hook.phase with
  | .finished (.failed failure) => some ⟨.error, .dispatcher, hookMessage hook.event failure⟩
  | _ => none

/-- The records in which a part of the program speaks, in order. -/
def Host.spoken (host : Host σ) (source : LogSource) : List LogRecord :=
  host.records.filter (·.source = source)

theorem Host.spoken_log_other (host : Host σ) (level : LogLevel) {source other : LogSource}
    (different : source ≠ other) (message : String) :
    (host.log level source message).spoken other = host.spoken other := by
  unfold Host.log Host.spoken
  split
  · simp [different]
  · rfl

/-- No threshold holds back an error. -/
theorem Host.spoken_log_error (host : Host σ) (source : LogSource) (message : String) :
    (host.log .error source message).spoken source =
      host.spoken source ++ [⟨.error, source, message⟩] := by
  have passes : LogLevel.passes .error host.threshold = true := by
    cases host.threshold <;> rfl
  simp [Host.log, Host.spoken, passes]

/-- A record changes nothing but the records. -/
theorem Host.exists_log (host : Host σ) (level : LogLevel) (source : LogSource)
    (message : String) :
    ∃ records, host.log level source message = { host with records := records } := by
  unfold log
  split
  · exact ⟨_, rfl⟩
  · exact ⟨host.records, rfl⟩

theorem Host.environment_log (host : Host σ) (level : LogLevel) (source : LogSource)
    (message : String) : (host.log level source message).environment = host.environment := by
  unfold Host.log
  split <;> rfl

@[simp]
theorem Host.system_log (host : Host σ) (level : LogLevel) (source : LogSource)
    (message : String) : (host.log level source message).system = host.system := by
  obtain ⟨records, logged⟩ := host.exists_log level source message
  rw [logged]

theorem Completion.verdict_eq_ok_iff {completion : Completion} {shell command : String}
    {output : Bytes} :
    completion.verdict shell command = .ok output ↔
      completion.status = 0 ∧ completion.output = output := by
  unfold Completion.verdict
  by_cases success : completion.status = 0
  · simp [success]
  · simp only [success, if_false, false_and, iff_false]
    split <;> simp

/-! ## The next phase of a hook -/

namespace HookPhase

/-- The phase after a launch. -/
def afterLaunch (shell command : String) : Except RequestError ProcessId → HookPhase
  | .ok process => .running process
  | .error (.system error) => .finished (.failed (.spawn shell command error))
  | .error (.refused refusal) => .finished (.crashed refusal)

/-- The phase after the exit of a command. -/
def afterExit (shell command : String) (completion : Completion) : HookPhase :=
  match completion.verdict shell command with
  | .ok output => .relaying output
  | .error failure => .finished (.failed failure)

/-- The phase after a relay. -/
def afterRelay (shell command : String) (sink : Sink) (output : Bytes) : HookPhase :=
  match sink.refusal? output with
  | some error => .finished (.failed (.spawn shell command error))
  | none => .finished .succeeded

end HookPhase

/-- What a launch can come to: it is refused for its texts, or else the system has its way. -/
structure Invocation.Answers (invocation : Invocation) (result : Except RequestError ProcessId) :
    Prop where
  refused : ∀ refusal, invocation.refusal? = some refusal → result = .error (.refused refusal)
  asked : invocation.refusal? = none →
    ∃ answer : Except OsError ProcessId, result = answer.mapError .system

namespace Dispatcher

/-- The hook at a place moves from one phase to another. A hook that ends leaves the pending ones;
    one that fails is counted and reported; one that was queued is launched for its own event. -/
structure Advance (before : Dispatcher σ) (index : Nat) (event : Event)
    (phase next : HookPhase) (after : Dispatcher σ) : Prop where
  found : before.hooks[index]? = some ⟨event, phase⟩
  unfinished : Hook.isFinished ⟨event, phase⟩ = false
  started : next ≠ .queued
  hooks : after.hooks = before.hooks.set index ⟨event, next⟩
  pending : after.pending =
    if Hook.isFinished ⟨event, next⟩ then before.pending.erase index else before.pending
  failures : after.failures = before.failures + (Hook.report? ⟨event, next⟩).toList.length
  reports : after.host.spoken .dispatcher =
    before.host.spoken .dispatcher ++ (Hook.report? ⟨event, next⟩).toList
  launches : after.launches = before.launches ++
    if phase = .queued then [(index, before.invocation event)] else []
  shell : after.shell = before.shell
  command : after.command = before.command
  environment : after.host.environment = before.host.environment

/-- Only the sink and the part of the host change that is not the dispatcher's. -/
structure Quiet (before after : Dispatcher σ) : Prop where
  hooks : after.hooks = before.hooks
  pending : after.pending = before.pending
  failures : after.failures = before.failures
  reports : after.host.spoken .dispatcher = before.host.spoken .dispatcher
  launches : after.launches = before.launches
  shell : after.shell = before.shell
  command : after.command = before.command
  environment : after.host.environment = before.host.environment

theorem Quiet.refl (dispatcher : Dispatcher σ) : Quiet dispatcher dispatcher :=
  ⟨rfl, rfl, rfl, rfl, rfl, rfl, rfl, rfl⟩

/-- The dispatcher does not hear the other parts of the program. -/
theorem quiet_log (dispatcher : Dispatcher σ) (level : LogLevel) {source : LogSource}
    (other : source ≠ .dispatcher) (message : String) :
    Quiet dispatcher { dispatcher with host := dispatcher.host.log level source message } :=
  ⟨rfl, rfl, rfl, Host.spoken_log_other _ _ other _, rfl, rfl, rfl, Host.environment_log _ _ _ _⟩

section Moves

variable {before noted : Dispatcher σ} {index : Nat} {event : Event} {phase : HookPhase}

/-- A hook that was launched before moves on without an end. -/
theorem advance_move (quiet : Quiet before noted)
    (found : before.hooks[index]? = some ⟨event, phase⟩) (launched : phase ≠ .queued)
    (unfinished : Hook.isFinished ⟨event, phase⟩ = false) (output : Bytes) :
    Advance before index event phase (.relaying output)
      (noted.move index ⟨event, phase⟩ (.relaying output)) := by
  obtain ⟨hooks, pending, failures, reports, launches, shell, command, environment⟩ := quiet
  refine ⟨found, unfinished, by simp, ?_, ?_, ?_, ?_, ?_, ?_, ?_, ?_⟩ <;>
    simp [move, Hook.isFinished, Hook.report?, *]

theorem advance_succeed (quiet : Quiet before noted)
    (found : before.hooks[index]? = some ⟨event, phase⟩) (launched : phase ≠ .queued)
    (unfinished : Hook.isFinished ⟨event, phase⟩ = false) :
    Advance before index event phase (.finished .succeeded)
      (noted.finish index ⟨event, phase⟩ .succeeded) := by
  obtain ⟨hooks, pending, failures, reports, launches, shell, command, environment⟩ := quiet
  refine ⟨found, unfinished, by simp, ?_, ?_, ?_, ?_, ?_, ?_, ?_, ?_⟩ <;>
    simp [finish, move, Hook.isFinished, Hook.report?, *]

theorem advance_fail (quiet : Quiet before noted)
    (found : before.hooks[index]? = some ⟨event, phase⟩) (launched : phase ≠ .queued)
    (unfinished : Hook.isFinished ⟨event, phase⟩ = false) (failure : Failure) :
    Advance before index event phase (.finished (.failed failure))
      (noted.fail index ⟨event, phase⟩ failure) := by
  obtain ⟨hooks, pending, failures, reports, launches, shell, command, environment⟩ := quiet
  refine ⟨found, unfinished, by simp, ?_, ?_, ?_, ?_, ?_, ?_, ?_, ?_⟩ <;>
    simp [fail, finish, move, Hook.isFinished, Hook.report?, Host.spoken_log_error,
      Host.environment_log, *]

end Moves

/-! ## One step -/

section Steps

variable {dispatcher : Dispatcher σ} {index : Nat} {event : Event}

theorem launched_of_queued (found : dispatcher.hooks[index]? = some ⟨event, .queued⟩)
    (result : Except RequestError ProcessId) :
    Advance dispatcher index event .queued
      (.afterLaunch dispatcher.shell dispatcher.command result)
      (dispatcher.launched index result) := by
  rcases result with (error | refusal) | process
  all_goals
    simp only [launched, found]
    refine ⟨found, rfl, by simp [HookPhase.afterLaunch], ?_, ?_, ?_, ?_, ?_, ?_, ?_, ?_⟩ <;>
      simp [noteLaunch, move, fail, finish, HookPhase.afterLaunch, Hook.isFinished, Hook.report?,
        Host.spoken_log_error, Host.spoken_log_other, Host.environment_log]

theorem exited_of_running {process : ProcessId}
    (found : dispatcher.hooks[index]? = some ⟨event, .running process⟩)
    (completion : Completion) :
    Advance dispatcher index event (.running process)
      (.afterExit dispatcher.shell dispatcher.command completion)
      (dispatcher.exited index completion) := by
  simp only [exited, found]
  -- The exit is logged first, which concerns no hook.
  have quiet : Quiet dispatcher (if completion.status = 0 then dispatcher
      else { dispatcher with
        host := dispatcher.host.log .debug .process
          (exitMessage dispatcher.command completion.status) }) := by
    split
    · exact .refl _
    · exact quiet_log _ _ (by decide) _
  rw [quiet.shell, quiet.command, HookPhase.afterExit]
  cases completion.verdict dispatcher.shell dispatcher.command with
  | ok output => exact advance_move quiet found (by simp) rfl output
  | error failure => exact advance_fail quiet found (by simp) rfl failure

theorem relayed_of_relaying {output : Bytes}
    (found : dispatcher.hooks[index]? = some ⟨event, .relaying output⟩) :
    Advance dispatcher index event (.relaying output)
      (.afterRelay dispatcher.shell dispatcher.command dispatcher.sink output)
      (dispatcher.relayed index) := by
  have quiet (sink : Sink) : Quiet dispatcher { dispatcher with sink := sink } :=
    ⟨rfl, rfl, rfl, rfl, rfl, rfl, rfl, rfl⟩
  simp only [relayed, found, Sink.write, HookPhase.afterRelay]
  cases dispatcher.sink.refusal? output with
  | some error => exact advance_fail (quiet _) found (by simp) rfl _
  | none => exact advance_succeed (quiet _) found (by simp) rfl

theorem launched_cases (dispatcher : Dispatcher σ) (index : Nat)
    (result : Except RequestError ProcessId) :
    dispatcher.launched index result = dispatcher ∨
      ∃ event, dispatcher.hooks[index]? = some ⟨event, .queued⟩ := by
  unfold launched
  split
  · rename_i hook found
    obtain ⟨event, phase⟩ := hook
    cases phase with
    | queued => exact .inr ⟨event, found⟩
    | running _ | relaying _ | finished _ => exact .inl rfl
  · exact .inl rfl

theorem exited_cases (dispatcher : Dispatcher σ) (index : Nat) (completion : Completion) :
    dispatcher.exited index completion = dispatcher ∨
      ∃ event process, dispatcher.hooks[index]? = some ⟨event, .running process⟩ := by
  unfold exited
  split
  · rename_i hook found
    obtain ⟨event, phase⟩ := hook
    cases phase with
    | running process => exact .inr ⟨event, process, found⟩
    | queued | relaying _ | finished _ => exact .inl rfl
  · exact .inl rfl

theorem relayed_cases (dispatcher : Dispatcher σ) (index : Nat) :
    dispatcher.relayed index = dispatcher ∨
      ∃ event output, dispatcher.hooks[index]? = some ⟨event, .relaying output⟩ := by
  unfold relayed
  split
  · rename_i hook found
    obtain ⟨event, phase⟩ := hook
    cases phase with
    | relaying output => exact .inr ⟨event, output, found⟩
    | queued | running _ | finished _ => exact .inl rfl
  · exact .inl rfl

/-- A step changes nothing, or dispatches an event, or moves one hook. -/
theorem step_cases (dispatcher : Dispatcher σ) (step : DispatchStep) :
    dispatcher.step step = dispatcher ∨
      (∃ event, dispatcher.step step = dispatcher.dispatch event) ∨
      ∃ index event phase next,
        Advance dispatcher index event phase next (dispatcher.step step) := by
  cases step with
  | dispatch event => exact .inr (.inl ⟨event, rfl⟩)
  | launch index result =>
    rcases launched_cases dispatcher index result with same | ⟨event, found⟩
    · exact .inl same
    · exact .inr (.inr ⟨index, event, _, _, launched_of_queued found result⟩)
  | exit index completion =>
    rcases exited_cases dispatcher index completion with same | ⟨event, process, found⟩
    · exact .inl same
    · exact .inr (.inr ⟨index, event, _, _, exited_of_running found completion⟩)
  | relay index =>
    rcases relayed_cases dispatcher index with same | ⟨event, output, found⟩
    · exact .inl same
    · exact .inr (.inr ⟨index, event, _, _, relayed_of_relaying found⟩)

end Steps

/-! ## What steps leave alone -/

theorem events_advance {before after : Dispatcher σ} {index : Nat} {event : Event}
    {phase next : HookPhase} (advance : before.Advance index event phase next after) :
    after.hooks.map (·.event) = before.hooks.map (·.event) := by
  rw [advance.hooks, List.map_set]
  have same : (before.hooks.map (·.event))[index]? = some event := by
    rw [List.getElem?_map, advance.found]
    rfl
  obtain ⟨bound, rfl⟩ := List.getElem?_eq_some_iff.1 same
  exact List.set_getElem_self bound

section Frames

variable (dispatcher : Dispatcher σ) (index : Nat) {source : LogSource}

theorem events_launched (result : Except RequestError ProcessId) :
    (dispatcher.launched index result).hooks.map (·.event) =
      dispatcher.hooks.map (·.event) := by
  rcases launched_cases dispatcher index result with same | ⟨event, found⟩
  · rw [same]
  · exact events_advance (launched_of_queued found result)

/-- A launch lets no other part of the program speak. -/
theorem spoken_launched (notProcess : .process ≠ source) (notDispatcher : .dispatcher ≠ source)
    (result : Except RequestError ProcessId) :
    (dispatcher.launched index result).host.spoken source = dispatcher.host.spoken source := by
  unfold launched
  split
  · split
    · rcases result with (error | refusal) | process <;>
        simp [fail, finish, move, noteLaunch, Host.spoken_log_other, notProcess, notDispatcher]
    · rfl
  · rfl

theorem system_launched (result : Except RequestError ProcessId) :
    (dispatcher.launched index result).host.system = dispatcher.host.system := by
  dsimp only [launched]
  split
  · split
    · rcases result with (error | refusal) | process <;> simp [noteLaunch, fail, finish, move]
    · rfl
  · rfl

theorem system_exited (completion : Completion) :
    (dispatcher.exited index completion).host.system = dispatcher.host.system := by
  dsimp only [exited]
  split
  · split
    · split <;> split <;> simp [fail, finish, move]
    · rfl
  · rfl

theorem system_relayed : (dispatcher.relayed index).host.system = dispatcher.host.system := by
  dsimp only [relayed]
  split
  · split
    · split <;> simp [fail, finish, move]
    · rfl
  · rfl

/-- A step leaves the system alone. What it has answered comes with the step. -/
theorem system_step (step : DispatchStep) :
    (dispatcher.step step).host.system = dispatcher.host.system := by
  cases step with
  | dispatch event => rfl
  | launch index result => exact dispatcher.system_launched index result
  | exit index completion => exact dispatcher.system_exited index completion
  | relay index => exact dispatcher.system_relayed index

/-- Only a launch is noted. -/
theorem launches_step {step : DispatchStep} (other : ∀ index result, step ≠ .launch index result) :
    (dispatcher.step step).launches = dispatcher.launches := by
  cases step with
  | dispatch event => rfl
  | launch index result => exact absurd rfl (other index result)
  | exit index completion =>
    rcases exited_cases dispatcher index completion with same | ⟨event, process, found⟩
    · exact congrArg launches same
    · have advance := exited_of_running found completion
      exact advance.launches.trans (List.append_nil _)
  | relay index =>
    rcases relayed_cases dispatcher index with same | ⟨event, output, found⟩
    · exact congrArg launches same
    · have advance := relayed_of_relaying found
      exact advance.launches.trans (List.append_nil _)

end Frames

/-! ## Launches by a system -/

/-- The dispatcher with other files and another system beside it. -/
def beside (dispatcher : Dispatcher σ) (files : FileStore) (system : σ) : Dispatcher σ :=
  { dispatcher with host := { dispatcher.host with files := files, system := system } }

theorem quiet_beside (dispatcher : Dispatcher σ) (files : FileStore) (system : σ) :
    Quiet dispatcher (dispatcher.beside files system) :=
  ⟨rfl, rfl, rfl, rfl, rfl, rfl, rfl, rfl⟩

section Launches

variable [OperatingSystem σ] (dispatcher : Dispatcher σ) (index : Nat)

/-- A system once the input of a process that it has launched is closed. -/
def closing (answer : Except OsError ProcessId) (system : σ) : σ :=
  match answer with
  | .ok process => OperatingSystem.closeInput process system
  | .error _ => system

/-- What becomes of the files and the system when the hook of an event is launched, and with which
result: a refused invocation is never asked for, any other one once. -/
inductive Asks (dispatcher : Dispatcher σ) (event : Event) :
    FileStore → σ → Except RequestError ProcessId → Prop
  | refused {refusal : Refusal}
    (refused : (dispatcher.invocation event).refusal? = some refusal) :
    Asks dispatcher event dispatcher.host.files dispatcher.host.system (.error (.refused refusal))
  | answered {answer : Except OsError ProcessId} {files : FileStore} {system : σ}
    (plain : (dispatcher.invocation event).refusal? = none)
    (answered : OperatingSystem.launch (dispatcher.invocation event) .held
      dispatcher.host.files dispatcher.host.system = (answer, files, system)) :
    Asks dispatcher event files (closing answer system) (answer.mapError .system)

/-- What becomes of the files and the system when the end of a process is waited for, and what the
process leaves behind: the system is asked for the first one to end of all that run. An answer for
none of them goes to the first. -/
inductive Collects (dispatcher : Dispatcher σ) (process : ProcessId) :
    FileStore → σ → Completion → Prop
  | collected {first ended : ProcessId} {others : List ProcessId} {completion : Completion}
    {files : FileStore} {system : σ}
    (running : dispatcher.running.map (·.2) = first :: others)
    (answered : OperatingSystem.collect first others dispatcher.host.files
      dispatcher.host.system = ((ended, completion), files, system))
    (own : process = if ended ∈ first :: others then ended else first) :
    Collects dispatcher process files system completion

variable {dispatcher} in
theorem Asks.answers {event : Event} {files : FileStore} {system : σ}
    {result : Except RequestError ProcessId} (asks : dispatcher.Asks event files system result) :
    (dispatcher.invocation event).Answers result := by
  cases asks with
  | refused refused => exact ⟨by simp [refused], by simp [refused]⟩
  | @answered answer _ _ plain _ => exact ⟨by simp [plain], fun _ => ⟨answer, rfl⟩⟩

/-- A launch either finds no queued hook or asks the system, which has its way with the files and
    with itself. -/
theorem launch_cases :
    (dispatcher.launch index = dispatcher ∧
      ∀ event, dispatcher.hooks[index]? ≠ some ⟨event, .queued⟩) ∨
    ∃ event files system result, dispatcher.hooks[index]? = some ⟨event, .queued⟩ ∧
        dispatcher.Asks event files system result ∧
        dispatcher.launch index = (dispatcher.beside files system).launched index result := by
  unfold launch
  split
  · rename_i hook found
    obtain ⟨event, phase⟩ := hook
    cases phase with
    | queued =>
      refine .inr ⟨event, ?_⟩
      cases refused : (dispatcher.invocation event).refusal? with
      | some refusal =>
        refine ⟨_, _, _, found, .refused refused, ?_⟩
        simp only [Host.launch, refused]
        rfl
      | none =>
        rcases answered : OperatingSystem.launch (dispatcher.invocation event) .held
          dispatcher.host.files dispatcher.host.system with ⟨answer, files, system⟩
        refine ⟨_, _, _, found, .answered refused answered, ?_⟩
        simp only [Host.launch, refused, answered]
        cases answer with
        | error error | ok process => rfl
    | running _ | relaying _ | finished _ => exact .inl ⟨rfl, by simp [found]⟩
  · rename_i absent
    exact .inl ⟨rfl, by simp [absent]⟩

theorem events_launch :
    (dispatcher.launch index).hooks.map (·.event) = dispatcher.hooks.map (·.event) := by
  rcases dispatcher.launch_cases index with
    ⟨same, -⟩ | ⟨event, files, system, result, -, -, same⟩
  · rw [same]
  · rw [same, events_launched]
    rfl

theorem spoken_launch {source : LogSource} (notProcess : .process ≠ source)
    (notDispatcher : .dispatcher ≠ source) :
    (dispatcher.launch index).host.spoken source = dispatcher.host.spoken source := by
  rcases dispatcher.launch_cases index with
    ⟨same, -⟩ | ⟨event, files, system, result, -, -, same⟩
  · rw [same]
  · rw [same, spoken_launched _ _ notProcess notDispatcher]
    rfl

end Launches

/-! ## What a whole wait keeps -/

section Waits

variable [OperatingSystem σ] {motive : Dispatcher σ → Prop} {dispatcher : Dispatcher σ}

theorem launchAll_keeps
    (launch : ∀ dispatcher index, motive dispatcher → motive (dispatcher.launch index))
    (holds : motive dispatcher) : motive dispatcher.launchAll := by
  unfold launchAll
  generalize List.range dispatcher.hooks.length = indices
  induction indices generalizing dispatcher with
  | nil => exact holds
  | cons index rest ih => exact ih (launch dispatcher index holds)

theorem settleUntil_keeps
    (settleNext : ∀ dispatcher, motive dispatcher → motive dispatcher.settleNext)
    (holds : motive dispatcher) (ends : Dispatcher σ → Bool) :
    motive (dispatcher.settleUntil ends) := by
  unfold settleUntil
  generalize dispatcher.hooks = turns
  induction turns generalizing dispatcher with
  | nil => exact holds
  | cons turn rest ih =>
    rw [List.foldl_cons]
    by_cases ended : ends dispatcher = true
    · rw [if_pos ended]
      exact ih holds
    · rw [if_neg ended]
      exact ih (settleNext dispatcher holds)

theorem events_launchAll (dispatcher : Dispatcher σ) :
    dispatcher.launchAll.hooks.map (·.event) = dispatcher.hooks.map (·.event) :=
  launchAll_keeps (motive := fun later =>
      later.hooks.map (·.event) = dispatcher.hooks.map (·.event))
    (fun later index same => (later.events_launch index).trans same) rfl

theorem spoken_launchAll (dispatcher : Dispatcher σ) {source : LogSource}
    (notProcess : .process ≠ source) (notDispatcher : .dispatcher ≠ source) :
    dispatcher.launchAll.host.spoken source = dispatcher.host.spoken source :=
  launchAll_keeps (motive := fun later =>
      later.host.spoken source = dispatcher.host.spoken source)
    (fun later index same =>
      (later.spoken_launch index notProcess notDispatcher).trans same) rfl

/-- What each launch and each end of a hook keeps, a drain keeps. -/
theorem drain_keeps
    (launch : ∀ dispatcher index, motive dispatcher → motive (dispatcher.launch index))
    (settleNext : ∀ dispatcher, motive dispatcher → motive dispatcher.settleNext)
    (holds : motive dispatcher) : motive dispatcher.drain.2 := by
  have launched := launchAll_keeps launch holds
  unfold drain
  dsimp only
  split
  · exact launched
  · exact settleUntil_keeps settleNext launched _

end Waits

end Dispatcher

end EventHooks
