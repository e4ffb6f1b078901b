import EventHooks.CommandLine
import EventHooks.Proofs.HookSteps
import Mathlib.Tactic.SplitIfs

/-!
# Alike hosts

Two hosts may differ in their log, in what was written, and in whatever a command does not look at.
Each operation of the program answers the same on both and leaves them alike, and so does a whole
run (`Host.Alike.perform`).
-/
namespace EventHooks

open CommandLine

variable {σ α : Type} {alike : FileStore × σ → FileStore × σ → Prop}

/-- Two answers of a system are the same, and what they leave is alike. -/
def SameAnswer (alike : FileStore × σ → FileStore × σ → Prop) (first second : α × FileStore × σ) :
    Prop :=
  first.1 = second.1 ∧ alike first.2 second.2

/-- A command under a shell does not tell alike files and systems apart: whatever is asked of them
for its sake, they answer the same and stay alike. -/
structure OperatingSystem.Indifferent [OperatingSystem σ]
    (alike : FileStore × σ → FileStore × σ → Prop) (shell command : String) : Prop where
  launch : ∀ {files others : FileStore} {system other : σ}, alike (files, system) (others, other) →
    ∀ environment input, SameAnswer alike
      (OperatingSystem.launch (shellInvocation shell command environment) input files system)
      (OperatingSystem.launch (shellInvocation shell command environment) input others other)
  closeInput : ∀ {files others : FileStore} {system other : σ},
    alike (files, system) (others, other) → ∀ process,
      alike (files, OperatingSystem.closeInput process system)
        (others, OperatingSystem.closeInput process other)
  collect : ∀ {files others : FileStore} {system other : σ},
    alike (files, system) (others, other) → ∀ process rest, SameAnswer alike
      (OperatingSystem.collect process rest files system)
      (OperatingSystem.collect process rest others other)
  kill : ∀ {files others : FileStore} {system other : σ}, alike (files, system) (others, other) →
    ∀ process, SameAnswer alike
      ((OperatingSystem.kill process system).1, files, (OperatingSystem.kill process system).2)
      ((OperatingSystem.kill process other).1, others, (OperatingSystem.kill process other).2)

/-! ## Hosts -/

namespace Host

/-- Hosts with the same environment, and alike files and systems. -/
structure Alike (alike : FileStore × σ → FileStore × σ → Prop) (first second : Host σ) : Prop where
  environment : first.environment = second.environment
  world : alike (first.files, first.system) (second.files, second.system)

variable {first second : Host σ}

theorem Alike.log (hosts : first.Alike alike second) (level : LogLevel) (source : LogSource)
    (message : String) :
    (first.log level source message).Alike alike (second.log level source message) := by
  obtain ⟨records, logged⟩ := first.exists_log level source message
  obtain ⟨others, otherLogged⟩ := second.exists_log level source message
  rw [logged, otherLogged]
  exact ⟨hosts.environment, hosts.world⟩

theorem Alike.write (hosts : first.Alike alike second) (bytes : Bytes) :
    (first.write bytes).Alike alike (second.write bytes) :=
  ⟨hosts.environment, hosts.world⟩

section Systems

variable [OperatingSystem σ] {shell command : String}
  (indifferent : OperatingSystem.Indifferent alike shell command)

include indifferent

theorem Alike.launch (hosts : first.Alike alike second) (environment : Environment)
    (input : StandardInput) :
    ∃ answer later other,
      first.launch (shellInvocation shell command environment) input = (answer, later) ∧
        second.launch (shellInvocation shell command environment) input = (answer, other) ∧
          later.Alike alike other := by
  unfold Host.launch
  cases (shellInvocation shell command environment).refusal? with
  | some refusal => exact ⟨_, _, _, rfl, rfl, hosts⟩
  | none =>
    obtain ⟨same, world⟩ := indifferent.launch hosts.world environment input
    exact ⟨_, _, _, rfl, Prod.ext (congrArg (Except.mapError RequestError.system) same.symm) rfl,
      hosts.environment, world⟩

theorem Alike.closeInput (hosts : first.Alike alike second) (process : ProcessId) :
    (first.closeInput process).Alike alike (second.closeInput process) :=
  ⟨hosts.environment, indifferent.closeInput hosts.world process⟩

theorem Alike.collect (hosts : first.Alike alike second) (process : ProcessId)
    (others : List ProcessId) :
    ∃ answer later other, first.collect process others = (answer, later) ∧
      second.collect process others = (answer, other) ∧ later.Alike alike other := by
  obtain ⟨same, world⟩ := indifferent.collect hosts.world process others
  exact ⟨_, _, _, rfl, Prod.ext same.symm rfl, hosts.environment, world⟩

theorem Alike.kill (hosts : first.Alike alike second) (process : ProcessId) :
    (first.kill process).2.Alike alike (second.kill process).2 :=
  ⟨hosts.environment, (indifferent.kill hosts.world process).2⟩

/-- Running a command answers the same on alike hosts. -/
theorem Alike.run (hosts : first.Alike alike second) :
    ∃ answer later other, first.run shell command = (answer, later) ∧
      second.run shell command = (answer, other) ∧ later.Alike alike other := by
  have logged := hosts.log .info .process (runningMessage shell command)
  obtain ⟨answer, later, other, launched, otherLaunched, laters⟩ := logged.launch indifferent
    (first.log .info .process (runningMessage shell command)).environment .empty
  rw [logged.environment] at otherLaunched
  simp only [Host.run, launched, otherLaunched]
  cases answer with
  | error error => exact ⟨_, _, _, rfl, rfl, laters⟩
  | ok process =>
    obtain ⟨answer, last, otherLast, collected, otherCollected, lasts⟩ :=
      laters.collect indifferent process []
    simp only [collected, otherCollected]
    exact ⟨_, _, _, rfl, rfl, lasts⟩

end Systems

end Host

/-! ## Dispatchers -/

namespace Dispatcher

/-- Dispatchers of a command under a shell that are the same but for alike hosts. -/
inductive Alike (alike : FileStore × σ → FileStore × σ → Prop) (shell command : String)
    (first : Dispatcher σ) : Dispatcher σ → Prop
  | beside {host : Host σ} (isShell : first.shell = shell) (isCommand : first.command = command)
    (hosts : first.host.Alike alike host) :
    Alike alike shell command first { first with host := host }

section Steps

variable {shell command : String} {first second : Dispatcher σ}
  (alikes : first.Alike alike shell command second)

include alikes

theorem Alike.hosts : first.host.Alike alike second.host := by
  obtain ⟨-, -, hosts⟩ := alikes
  exact hosts

theorem Alike.hooks : first.hooks = second.hooks := by
  obtain ⟨-, -, -⟩ := alikes
  rfl

theorem Alike.outcome : first.sink = second.sink ∧ first.launches = second.launches ∧
    first.failures = second.failures := by
  obtain ⟨-, -, -⟩ := alikes
  exact ⟨rfl, rfl, rfl⟩

theorem Alike.onHosts {host other : Host σ} (hosts : host.Alike alike other) :
    Alike alike shell command { first with host := host } { second with host := other } := by
  obtain ⟨isShell, isCommand, -⟩ := alikes
  exact .beside isShell isCommand hosts

theorem Alike.dispatch (event : Event) :
    (first.dispatch event).Alike alike shell command (second.dispatch event) := by
  obtain ⟨isShell, isCommand, hosts⟩ := alikes
  exact .beside isShell isCommand hosts

theorem Alike.move (index : Nat) (hook : Hook) (phase : HookPhase) :
    (first.move index hook phase).Alike alike shell command (second.move index hook phase) := by
  obtain ⟨isShell, isCommand, hosts⟩ := alikes
  exact .beside isShell isCommand hosts

theorem Alike.finish (index : Nat) (hook : Hook) (result : HookResult) :
    (first.finish index hook result).Alike alike shell command
      (second.finish index hook result) := by
  obtain ⟨isShell, isCommand, hosts⟩ := alikes
  exact .beside isShell isCommand hosts

theorem Alike.fail (index : Nat) (hook : Hook) (failure : Failure) :
    (first.fail index hook failure).Alike alike shell command
      (second.fail index hook failure) := by
  obtain ⟨isShell, isCommand, hosts⟩ := alikes
  exact .beside isShell isCommand (hosts.log .error .dispatcher _)

theorem Alike.noteLaunch (index : Nat) (hook : Hook) :
    (first.noteLaunch index hook).Alike alike shell command (second.noteLaunch index hook) := by
  obtain ⟨isShell, isCommand, hosts⟩ := alikes
  have same := hosts.environment
  simp only [Dispatcher.noteLaunch, Dispatcher.invocation, ← same]
  exact .beside isShell isCommand (hosts.log .info .process _)

theorem Alike.launched (index : Nat) (result : Except RequestError ProcessId) :
    (first.launched index result).Alike alike shell command (second.launched index result) := by
  have noted := alikes.noteLaunch index
  obtain ⟨isShell, isCommand, hosts⟩ := alikes
  dsimp only [Dispatcher.launched]
  split
  · rename_i hook _
    split
    · rcases result with (error | refusal) | process
      · exact (noted hook).fail index hook _
      · exact (noted hook).finish index hook _
      · exact (noted hook).move index hook _
    · exact .beside isShell isCommand hosts
  · exact .beside isShell isCommand hosts

theorem Alike.exited (index : Nat) (completion : Completion) :
    (first.exited index completion).Alike alike shell command
      (second.exited index completion) := by
  have logged := alikes.onHosts (alikes.hosts.log .debug .process
    (exitMessage first.command completion.status))
  obtain ⟨isShell, isCommand, hosts⟩ := id alikes
  dsimp only [Dispatcher.exited]
  split
  · rename_i hook _
    split
    · by_cases success : completion.status = 0
      · simp only [success, if_true]
        split
        · exact alikes.move index hook _
        · exact alikes.fail index hook _
      · simp only [success, if_false]
        split
        · exact logged.move index hook _
        · exact logged.fail index hook _
    · exact alikes
  · exact alikes

theorem Alike.relayed (index : Nat) :
    (first.relayed index).Alike alike shell command (second.relayed index) := by
  have written (sink : Sink) : Alike alike shell command { first with sink := sink }
      { second with sink := sink } := by
    obtain ⟨isShell, isCommand, hosts⟩ := alikes
    exact .beside isShell isCommand hosts
  obtain ⟨isShell, isCommand, hosts⟩ := id alikes
  dsimp only [Dispatcher.relayed]
  split
  · rename_i hook _
    split
    · split
      · exact (written _).fail index hook _
      · exact (written _).finish index hook _
    · exact alikes
  · exact alikes

theorem Alike.running : first.running = second.running := by
  rw [Dispatcher.running, Dispatcher.running, alikes.hooks]

theorem Alike.hasFinished : first.hasFinished = second.hasFinished := by
  funext index
  rw [Dispatcher.hasFinished, Dispatcher.hasFinished, alikes.hooks]

theorem Alike.look : first.look = second.look := by
  obtain ⟨-, -, -⟩ := alikes
  rfl

theorem Alike.resume (drain : Drain) : first.resume drain = second.resume drain := by
  have crashes : first.crash? = second.crash? := by
    funext index
    rw [Dispatcher.crash?, Dispatcher.crash?, alikes.hooks]
  unfold Dispatcher.resume
  rw [crashes, alikes.hasFinished, alikes.look]

end Steps

/-- A fold of operations leaves dispatchers alike if each of them does. -/
theorem Alike.foldl {shell command : String} {step otherStep : Dispatcher σ → α → Dispatcher σ}
    (keeps : ∀ first second item, Alike alike shell command first second →
      (step first item).Alike alike shell command (otherStep second item))
    {first second : Dispatcher σ} (alikes : first.Alike alike shell command second)
    (items : List α) :
    (items.foldl step first).Alike alike shell command (items.foldl otherStep second) := by
  induction items generalizing first second with
  | nil => exact alikes
  | cons item rest ih => exact ih (keeps first second item alikes)

section Systems

variable [OperatingSystem σ] {shell command : String} {first second : Dispatcher σ}
  (indifferent : OperatingSystem.Indifferent alike shell command)
  (alikes : first.Alike alike shell command second)

include indifferent alikes

theorem Alike.launch (index : Nat) :
    (first.launch index).Alike alike shell command (second.launch index) := by
  obtain ⟨rfl, rfl, hosts⟩ := id alikes
  dsimp only [Dispatcher.launch]
  split
  · rename_i hook _
    split
    · obtain ⟨answer, later, other, launched, otherLaunched, laters⟩ := hosts.launch
        indifferent (first.host.environment.overlay hook.event.environment) .held
      simp only [Dispatcher.invocation, ← hosts.environment, launched, otherLaunched]
      cases answer with
      | error error => exact (alikes.onHosts laters).launched index _
      | ok process =>
        exact (alikes.onHosts (laters.closeInput indifferent process)).launched index _
    · exact alikes
  · exact alikes

theorem Alike.launchAll : first.launchAll.Alike alike shell command second.launchAll := by
  unfold Dispatcher.launchAll
  rw [← alikes.hooks]
  exact .foldl (fun _ _ index alikes => alikes.launch indifferent index) alikes _

theorem Alike.settleNext : first.settleNext.Alike alike shell command second.settleNext := by
  unfold Dispatcher.settleNext
  rw [← alikes.running]
  split
  · exact alikes
  · rename_i index process others _
    obtain ⟨answer, later, other, collected, otherCollected, hosts⟩ :=
      alikes.hosts.collect indifferent process (others.map (·.2))
    simp only [collected, otherCollected]
    exact ((alikes.onHosts hosts).exited _ _).relayed _

/-- A wait until some hooks have ended ends alike. -/
theorem Alike.settleUntil (indices : List Nat) :
    (first.settleUntil fun dispatcher => indices.all dispatcher.hasFinished).Alike alike shell
      command (second.settleUntil fun dispatcher => indices.all dispatcher.hasFinished) := by
  unfold Dispatcher.settleUntil
  rw [← alikes.hooks]
  refine .foldl (fun first second _ alikes => ?_) alikes _
  simp only [alikes.hasFinished]
  split_ifs
  · exact alikes
  · exact alikes.settleNext indifferent

/-- A drain says the same and leaves dispatchers alike. -/
theorem Alike.drain : first.drain.1 = second.drain.1 ∧
    first.drain.2.Alike alike shell command second.drain.2 := by
  have launched := alikes.launchAll indifferent
  unfold Dispatcher.drain
  dsimp only
  rw [← alikes.look, ← launched.resume]
  split
  · exact ⟨rfl, launched⟩
  · exact ⟨rfl, launched.settleUntil indifferent _⟩

theorem Alike.abandon : first.abandon.host.Alike alike second.abandon.host := by
  have hosts := alikes.hosts
  unfold Dispatcher.abandon
  rw [← alikes.running]
  dsimp only
  generalize first.running = entries
  generalize first.host = host at hosts ⊢
  generalize second.host = other at hosts ⊢
  induction entries generalizing host other with
  | nil => exact hosts
  | cons entry rest ih => exact ih _ _ (hosts.kill indifferent entry.2)

end Systems

end Dispatcher

/-! ## Runs -/

/-- Runs over streams that have come equally far. -/
structure CommandLine.EventRun.Alike (alike : FileStore × σ → FileStore × σ → Prop)
    (shell command : String) (first second : EventRun σ) : Prop where
  dispatchers : first.dispatcher.Alike alike shell command second.dispatcher
  invalid : first.invalid = second.invalid
  stop : first.stop = second.stop

/-- Runs that have ended in the same way and with the same launches, on alike hosts. -/
structure Finish.Alike (alike : FileStore × σ → FileStore × σ → Prop) (first second : Finish σ) :
    Prop where
  ending : first.ending = second.ending
  launches : first.launches = second.launches
  hosts : first.host.Alike alike second.host

/-- Runs that have counted as many failures tell the same of them. -/
theorem CommandLine.EventRun.Alike.conclude {shell command : String} {first second : EventRun σ}
    (runs : first.Alike alike shell command second) {host other : Host σ}
    (hosts : host.Alike alike other) :
    (first.conclude host).1 = (second.conclude other).1 ∧
      (first.conclude host).2.Alike alike (second.conclude other).2 := by
  obtain ⟨-, -, failures⟩ := runs.dispatchers.outcome
  unfold EventRun.conclude
  rw [← failures, ← runs.invalid]
  split_ifs
  · exact ⟨rfl, hosts⟩
  · exact ⟨rfl, hosts.log _ _ _⟩

section Runs

variable [OperatingSystem σ]

theorem CommandLine.EventRun.Alike.next {shell command : String} {first second : EventRun σ}
    (indifferent : OperatingSystem.Indifferent alike shell command)
    (runs : first.Alike alike shell command second) (line : String) :
    (first.next line).Alike alike shell command (second.next line) := by
  obtain ⟨dispatchers, invalid, stop⟩ := runs
  unfold EventRun.next
  rw [← stop]
  split
  · exact ⟨dispatchers, invalid, stop⟩
  · split
    · exact ⟨(dispatchers.dispatch _).launchAll indifferent, invalid, rfl⟩
    · split_ifs
      · exact ⟨dispatchers.onHosts (dispatchers.hosts.log _ _ _), congrArg (· + 1) invalid, rfl⟩
      · exact ⟨dispatchers, invalid, rfl⟩

theorem CommandLine.EventRun.Alike.foldl {shell command : String} {first second : EventRun σ}
    (indifferent : OperatingSystem.Indifferent alike shell command)
    (runs : first.Alike alike shell command second) (texts : List String) :
    (texts.foldl EventRun.next first).Alike alike shell command
      (texts.foldl EventRun.next second) := by
  induction texts generalizing first second with
  | nil => exact runs
  | cons line rest ih => exact ih (runs.next indifferent line)

variable {first second : Host σ} {settings : Settings}

theorem Host.Alike.runEvents (hosts : first.Alike alike second)
    (indifferent : ∀ command, Given.filled? settings.onevent = some command →
      OperatingSystem.Indifferent alike (settings.effectiveShell first.environment) command)
    (input : String) :
    (CommandLine.runEvents settings first input).Alike alike
      (CommandLine.runEvents settings second input) := by
  unfold CommandLine.runEvents
  cases given : Given.filled? settings.onevent with
  | none => exact ⟨rfl, rfl, hosts.log _ _ _⟩
  | some command =>
    have indifferent := indifferent command given
    rw [← hosts.environment]
    have begun : EventRun.Alike alike (settings.effectiveShell first.environment) command
        ⟨.start (settings.effectiveShell first.environment) command .memory first, 0, none⟩
        ⟨.start (settings.effectiveShell first.environment) command .memory second, 0, none⟩ :=
      ⟨.beside rfl rfl hosts, rfl, rfl⟩
    have runs := begun.foldl indifferent (Stream.contents input)
    dsimp only
    generalize (Stream.contents input).foldl EventRun.next
      (⟨.start _ _ _ first, 0, none⟩ : EventRun σ) = run at runs ⊢
    generalize (Stream.contents input).foldl EventRun.next
      (⟨.start _ _ _ second, 0, none⟩ : EventRun σ) = otherRun at runs ⊢
    obtain ⟨crashes, drained⟩ := runs.dispatchers.drain indifferent
    obtain ⟨sinks, launches, -⟩ := drained.outcome
    have written := drained.hosts.write run.dispatcher.drain.2.sink.contents
    rw [← runs.stop, ← crashes, ← sinks]
    cases run.stop with
    | some fault =>
      exact ⟨rfl, runs.dispatchers.outcome.2.1, runs.dispatchers.abandon indifferent⟩
    | none =>
      cases run.dispatcher.drain.1 with
      | some refusal => exact ⟨rfl, launches, written⟩
      | none =>
        have ended : EventRun.Alike alike (settings.effectiveShell first.environment) command
            { run with dispatcher := run.dispatcher.drain.2 }
            { otherRun with dispatcher := otherRun.dispatcher.drain.2 } :=
          ⟨drained, runs.invalid, runs.stop⟩
        obtain ⟨status, hosts⟩ := ended.conclude written
        exact ⟨congrArg Ending.exit status, launches, hosts⟩

theorem Host.Alike.runSingle (hosts : first.Alike alike second) (given : Given String)
    (indifferent : ∀ command, given = .value command →
      OperatingSystem.Indifferent alike (settings.effectiveShell first.environment) command) :
    (CommandLine.runSingle settings first given).Alike alike
      (CommandLine.runSingle settings second given) := by
  unfold CommandLine.runSingle
  rw [← hosts.environment]
  cases given with
  | nothing => exact ⟨rfl, rfl, hosts.log _ _ _⟩
  | value command =>
    obtain ⟨answer, later, other, ran, otherRan, laters⟩ := hosts.run (indifferent command rfl)
    simp only [ran, otherRan]
    rcases answer with (failure | refusal) | text
    · exact ⟨rfl, rfl, laters.log _ _ _⟩
    · exact ⟨rfl, rfl, laters⟩
    · exact ⟨rfl, rfl, laters.write _⟩

/-- The command that the options have the program run, once or for every event. -/
def Options.command? (options : Options) (settings : Settings) : Option String :=
  match options.run with
  | some given => given.value?
  | none => Given.filled? settings.onevent

/-- A run with settings ends alike on alike hosts, if its command does not tell them apart. -/
theorem Host.Alike.perform {options : Options} (hosts : first.Alike alike second)
    (indifferent : ∀ command, options.command? settings = some command →
      OperatingSystem.Indifferent alike (settings.effectiveShell first.environment) command)
    (input : String) :
    (CommandLine.perform options settings first input).Alike alike
      (CommandLine.perform options settings second input) := by
  unfold CommandLine.perform
  unfold Options.command? at indifferent
  cases single : options.run with
  | some given =>
    refine hosts.runSingle given fun command isCommand => indifferent command ?_
    simp [single, isCommand, Given.value?]
  | none =>
    refine hosts.runEvents (fun command isCommand => indifferent command ?_) input
    simp [single, isCommand]

end Runs

/-! ## What a command keeps -/

/-- Whatever is asked of files and a system for the sake of a command under a shell, they keep a
property. -/
structure OperatingSystem.Keeps [OperatingSystem σ] (kept : FileStore × σ → Prop)
    (shell command : String) : Prop where
  launch : ∀ {files : FileStore} {system : σ}, kept (files, system) → ∀ environment input,
    kept (OperatingSystem.launch (shellInvocation shell command environment) input files system).2
  closeInput : ∀ {files : FileStore} {system : σ}, kept (files, system) → ∀ process,
    kept (files, OperatingSystem.closeInput process system)
  collect : ∀ {files : FileStore} {system : σ}, kept (files, system) → ∀ process others,
    kept (OperatingSystem.collect process others files system).2
  kill : ∀ {files : FileStore} {system : σ}, kept (files, system) → ∀ process,
    kept (files, (OperatingSystem.kill process system).2)

section Keeping

variable [OperatingSystem σ] {kept : FileStore × σ → Prop} {shell command : String}

/-- What a command keeps is kept of the same files and system on both sides. -/
theorem OperatingSystem.Keeps.indifferent (keeps : Keeps kept shell command) :
    Indifferent (fun first second => first = second ∧ kept first) shell command where
  launch := by
    rintro files _ system _ ⟨⟨⟩, holds⟩ environment input
    exact ⟨rfl, rfl, keeps.launch holds environment input⟩
  closeInput := by
    rintro files _ system _ ⟨⟨⟩, holds⟩ process
    exact ⟨rfl, keeps.closeInput holds process⟩
  collect := by
    rintro files _ system _ ⟨⟨⟩, holds⟩ process others
    exact ⟨rfl, rfl, keeps.collect holds process others⟩
  kill := by
    rintro files _ system _ ⟨⟨⟩, holds⟩ process
    exact ⟨rfl, rfl, keeps.kill holds process⟩

/-- A run with settings keeps what its command keeps. -/
theorem kept_perform {options : Options} {settings : Settings} {host : Host σ}
    (keeps : ∀ command, options.command? settings = some command →
      OperatingSystem.Keeps kept (settings.effectiveShell host.environment) command)
    (holds : kept (host.files, host.system)) (input : String) :
    kept ((perform options settings host input).host.files,
      (perform options settings host input).host.system) := by
  have hosts : host.Alike (fun first second => first = second ∧ kept first) host :=
    ⟨rfl, rfl, holds⟩
  exact (hosts.perform (fun command isCommand => (keeps command isCommand).indifferent)
    input).hosts.world.2

end Keeping

end EventHooks
