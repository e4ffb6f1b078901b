import EventHooks.Proofs.EventVariables
import EventHooks.Proofs.WaitOutcome

/-!
# Running a command and waiting for it

A command is run to its end at once, or it is started as a child that is waited on. Whatever comes
of the command, both ways report it alike; only the output of a command that succeeds is a text for
the one and bytes for the other (`runners_agree`).
-/
namespace EventHooks

/-! ## Outcomes -/

/-- What running a command answers that has ended. -/
structure Completion.Answered (shell command : String) (completion : Completion)
    (answer : Except RunError String) : Prop where
  failed : completion.status ≠ 0 →
    ∃ failure, completion.Reports shell command failure ∧ answer = .error (.failed failure)
  text : completion.status = 0 →
    ∀ text, answer = .ok text ↔ Utf8.encode text = completion.output
  bytes : completion.status = 0 →
    (answer = .error (.failed (.undecodable shell command)) ↔
      ∀ text, Utf8.encode text ≠ completion.output)

/-- How a wait has ended on a command that has ended, given what running it answers, and what the
sink holds then that was `sink` before. -/
inductive Completion.Relayed (completion : Completion) (answer : Except RunError String)
    (sink : Sink) : WaitOutcome → Sink → Prop
  | failed {failure : Failure} (status : completion.status ≠ 0)
    (same : answer = .error (.failed failure)) : Relayed completion answer sink (.failed failure) sink
  | relayed (status : completion.status = 0) : Relayed completion answer sink .relayed
    { sink with contents := sink.contents ++ completion.output }

section Outcomes

variable {shell command : String} {completion : Completion}

theorem Completion.answered (shell command : String) (completion : Completion) :
    completion.Answered shell command
      ((completion.text shell command).mapError .failed) := by
  unfold text
  by_cases success : completion.status = 0
  · have verdict : completion.verdict shell command = .ok completion.output :=
      verdict_eq_ok_iff.2 ⟨success, rfl⟩
    rw [verdict]
    refine ⟨fun failed => absurd success failed, fun _ text => ?_, fun _ => ?_⟩
    · rw [← Utf8.decode?_eq_some_iff]
      cases decoded : Utf8.decode? completion.output <;> simp [decoded, Except.mapError]
    · rw [← Utf8.decode?_eq_none_iff]
      cases decoded : Utf8.decode? completion.output <;> simp [decoded, Except.mapError]
  · obtain ⟨failure, reports, verdict⟩ := exists_reports shell command success
    rw [verdict]
    exact ⟨fun _ => ⟨failure, reports, rfl⟩, fun status => absurd status success,
      fun status => absurd status success⟩

/-- The failure of a command that has ended is not one of its launch. -/
theorem Completion.kind_ne_spawn {failure : Failure}
    (failed : completion.text shell command = .error failure) : failure.kind ≠ .spawn := by
  by_cases success : completion.status = 0
  · cases decoded : Utf8.decode? completion.output <;>
      simp only [text, verdict, success, decoded, if_true] at failed <;>
      cases failed
    simp [Failure.undecodable]
  · cases decoded : Utf8.decode? completion.errors <;>
      simp only [text, verdict, success, decoded, if_false] at failed <;>
      cases failed <;> simp [Failure.undecodable, Failure.unsuccessful]

/-- No failure has both a cause and error output, and every failure is one of its own parts. -/
theorem Failure.ofParts?_parts (failure : Failure) :
    (failure.cause? = none ∨ failure.errors? = none) ∧
      ofParts? failure.kind failure.shell failure.command failure.cause? failure.errors? =
        some failure := by
  obtain ⟨kind, shell, command, detail⟩ := failure
  cases detail <;> simp [cause?, errors?, ofParts?]

end Outcomes

/-! ## Launches -/

section Launches

variable {shell command : String} {base : Environment}

theorem Environment.Clean.overlay {added : Environment} (clean : base.Clean)
    (cleanAdded : added.Clean) : (base.overlay added).Clean := by
  intro entry member
  rcases Environment.mem_overlay member with own | other
  · exact clean entry own
  · exact cleanAdded entry other

/-- Nothing keeps a command with clean variables from the system. -/
theorem refusal?_of_clean (plainShell : hasNull shell = false)
    (plainCommand : hasNull command = false) (clean : base.Clean) :
    (shellInvocation shell command base).refusal? = none := by
  have plain : base.any (fun entry => hasNull entry.1 || hasNull entry.2) = false := by
    rw [List.any_eq_false]
    intro entry member
    simp [(clean entry member).2]
  rw [refusal?_of_legal plainShell plainCommand fun entry member => (clean entry member).1, plain]
  rfl

end Launches

section Hosts

variable {σ : Type} {shell command : String}

variable [OperatingSystem σ]

/-- What comes of a command that is run: an error of its launch, or how it ends. -/
def Host.outcome (host : Host σ) (shell command : String) : Except OsError Completion :=
  match OperatingSystem.launch (shellInvocation shell command host.environment) .empty
    host.files host.system with
  | (.error error, _, _) => .error error
  | (.ok process, files, system) => .ok (OperatingSystem.collect process [] files system).1.2

/-- What the launch of a child with some variables answers. -/
def Host.childLaunch (host : Host σ) (shell command : String) (added : Environment) :
    Except OsError ProcessId :=
  (OperatingSystem.launch (shellInvocation shell command (host.environment.overlay added)) .held
    host.files host.system).1

section Clean

variable {failure : Failure} (plainShell : hasNull shell = false)
  (plainCommand : hasNull command = false)
include plainShell plainCommand

/-- Running a command answers what comes of it. -/
theorem Host.fst_run (host : Host σ) (clean : host.environment.Clean) :
    (host.run shell command).1 =
      match host.outcome shell command with
      | .error error => .error (.failed (.spawn shell command error))
      | .ok completion => (completion.text shell command).mapError .failed := by
  obtain ⟨records, logged⟩ := host.exists_log .info .process (runningMessage shell command)
  have unrefused := refusal?_of_clean plainShell plainCommand clean
  simp only [run, outcome, logged, launch, unrefused]
  rcases OperatingSystem.launch (shellInvocation shell command host.environment) .empty
    host.files host.system with ⟨error | process, files, system⟩
  · rfl
  · rfl

/-- A run has a spawn failure exactly if the launch has the error. -/
theorem Host.run_spawn_failure_iff (host : Host σ) (clean : host.environment.Clean)
    (kind : failure.kind = .spawn) :
    (host.run shell command).1 = .error (.failed failure) ↔
      ∃ error, host.outcome shell command = .error error ∧
        failure = .spawn shell command error := by
  rw [host.fst_run plainShell plainCommand clean]
  cases outcome : host.outcome shell command with
  | error error => simp [eq_comm]
  | ok completion =>
    simp only [reduceCtorEq, false_and, exists_false, iff_false]
    intro failed
    cases answer : completion.text shell command with
    | ok text =>
      rw [answer] at failed
      cases failed
    | error other =>
      rw [answer] at failed
      cases failed
      exact Completion.kind_ne_spawn answer kind

/-- A child is started, or the launch has an error. -/
theorem Nursery.spawn_of_clean (nursery : Nursery σ) {added : Environment}
    (clean : (nursery.host.environment.overlay added).Clean) :
    ∃ host, nursery.spawn shell command added =
      match nursery.host.childLaunch shell command added with
      | .error error => (.error (.failed (.spawn shell command error)),
        { nursery with host := host })
      | .ok process => (.ok ⟨shell, command, some process⟩, { nursery with
          host := host, children := nursery.children ++ [⟨shell, command, some process⟩] }) := by
  obtain ⟨records, logged⟩ := nursery.host.exists_log .info .process
    (startingMessage shell command added)
  have unrefused := refusal?_of_clean plainShell plainCommand clean
  simp only [spawn, Host.spawn, Host.childLaunch, logged, Host.launch, unrefused]
  rcases OperatingSystem.launch
    (shellInvocation shell command (nursery.host.environment.overlay added)) .held
    nursery.host.files nursery.host.system with ⟨error | process, files, system⟩
  · exact ⟨_, rfl⟩
  · exact ⟨_, rfl⟩

/-- A spawn has a failure exactly if the launch has the error. -/
theorem Nursery.spawn_failure_iff (nursery : Nursery σ) {added : Environment}
    (clean : (nursery.host.environment.overlay added).Clean) :
    (nursery.spawn shell command added).1 = .error (.failed failure) ↔
      ∃ error, nursery.host.childLaunch shell command added = .error error ∧
        failure = .spawn shell command error := by
  obtain ⟨host, spawned⟩ := nursery.spawn_of_clean plainShell plainCommand clean
  rw [spawned]
  cases nursery.host.childLaunch shell command added <;> simp [eq_comm]

end Clean

end Hosts

/-! ## Waits -/

/-- Where an undisturbed wait stands, given what running its command answers: the command has not
ended, or it has succeeded and its output has not been written, or the wait is over. -/
inductive Wait.Follows (completion : Completion) (answer : Except RunError String) (sink : Sink)
    (moves : List WaitMove) (index : Nat) (wait : Wait) : Prop
  | running {process : ProcessId} (phase : wait.phase = .collecting process)
    (unended : ∀ process other, .exit index process other ∉ moves) (silent : index ∉ writers moves)
    (untouched : wait.sink = sink)
    (same : (completion.text wait.shell wait.command).mapError .failed = answer)
  | relaying (success : completion.status = 0)
    (phase : wait.phase = .relaying completion.output false) (silent : index ∉ writers moves)
    (untouched : wait.sink = sink)
  | ended {outcome : WaitOutcome} (phase : wait.phase = .over outcome)
    (relayed : completion.Relayed answer sink outcome wait.sink)

section Waits

variable {σ : Type} {shell command : String} {completion : Completion}
  {answer : Except RunError String} {sink : Sink} {moves : List WaitMove} {index : Nat}
  {wait : Wait}

/-- A wait that has ended on a command with success has relayed its output. -/
theorem Wait.EndsWith.relayed_of_success (ends : wait.EndsWith completion shell command sink)
    (success : completion.status = 0) (accepts : sink.refusal? completion.output = none) :
    wait.phase = .over .relayed ∧ completion.Relayed answer sink .relayed wait.sink := by
  obtain ⟨outcome, isOver, decides⟩ := ends.isOver
  obtain rfl := decides.relayed.2 ⟨success, accepts⟩
  refine ⟨isOver, ?_⟩
  rw [ends.grown isOver]
  exact .relayed success

/-- A wait that has ended has the failure that running its command has, or has relayed the
output. -/
theorem Wait.EndsWith.relayed (ends : wait.EndsWith completion shell command sink)
    (accepts : sink.refusal? completion.output = none)
    (same : (completion.text shell command).mapError .failed = answer) :
    ∃ outcome, wait.phase = .over outcome ∧ completion.Relayed answer sink outcome wait.sink := by
  by_cases success : completion.status = 0
  · exact ⟨.relayed, ends.relayed_of_success success accepts⟩
  · obtain ⟨outcome, isOver, decides⟩ := ends.isOver
    obtain ⟨failure, reports, verdict⟩ := Completion.exists_reports shell command success
    obtain rfl := decides.unique (reports.decides success _)
    have text : completion.text shell command = .error failure := by
      simp only [Completion.text, verdict]
    refine ⟨_, isOver, ?_⟩
    rw [ends.untouched success]
    refine .failed success ?_
    rw [← same, text]
    rfl

/-- Once the command has ended and the write has, so has the wait. -/
theorem Wait.Follows.ends (follows : wait.Follows completion answer sink moves index)
    (accepts : sink.refusal? completion.output = none) (host : Host σ) :
    ∃ outcome, (wait.exit completion host).1.relay.phase = .over outcome ∧
      completion.Relayed answer sink outcome (wait.exit completion host).1.relay.sink := by
  cases follows with
  | running phase _ _ untouched same =>
    have ends := wait.endsWith_exit phase completion host
    rw [untouched] at ends
    exact ends.relayed accepts same
  | relaying success phase _ untouched =>
    have ends := wait.endsWith_relay success phase
    rw [untouched] at ends
    rw [exit_of_relaying phase]
    exact ⟨.relayed, ends.relayed_of_success success accepts⟩
  | @ended outcome phase relayed =>
    have exited : (wait.exit completion host).1.relay = wait := by
      simp only [Wait.exit, Wait.relay, phase]
    rw [exited]
    exact ⟨outcome, phase, relayed⟩

/-- A wait with a sink of its own follows what running its command answers, as far as it comes. -/
theorem Wait.Proceeds.follows {isOwn : Prop}
    (proceeds : wait.Proceeds completion shell command isOwn sink moves index) (holds : isOwn)
    (accepts : sink.refusal? completion.output = none)
    (same : (completion.text shell command).mapError .failed = answer) :
    wait.Follows completion answer sink moves index := by
  cases proceeds with
  | running phase unended silent sameShell sameCommand untouched =>
    refine .running phase unended silent (untouched holds) ?_
    rw [sameShell, sameCommand, same]
  | writing success phase silent _ _ untouched =>
    exact .relaying success phase silent (untouched holds)
  | ended _ _ _ _ ends =>
    obtain ⟨outcome, isOver, relayed⟩ := (ends holds).relayed accepts same
    exact .ended isOver relayed

variable [OperatingSystem σ] {own : Nat → Prop} {first last : Nursery σ}

/-- Whatever else happens, an undisturbed wait follows what running its command answers. -/
theorem Wait.follows_path {process : ProcessId}
    (later : Nursery.Path own first moves last) (isOwn : own index)
    (found : first.waits[index]? = some ⟨shell, command, .collecting process, sink⟩)
    (accepts : sink.refusal? completion.output = none)
    (same : (completion.text shell command).mapError .failed = answer)
    (undisturbed : Undisturbed moves index completion) :
    ∃ wait, last.waits[index]? = some wait ∧
      wait.Follows completion answer sink moves index := by
  obtain ⟨wait, isWait, proceeds⟩ := Wait.proceeds_path later found undisturbed
  exact ⟨wait, isWait, proceeds.follows isOwn accepts same⟩

end Waits

/-! ## Agreement -/

section Agreement

variable {σ : Type} [OperatingSystem σ] {host : Host σ} {nursery : Nursery σ}
  {shell command : String} {added : Environment}

/-- A wait on a child that has just been spawned follows what running its command answers. -/
theorem Nursery.follows_spawned {completion : Completion} {answer : Except RunError String}
    {own : Nat → Prop} {sink : Sink} {moves : List WaitMove} {last : Nursery σ}
    {started : Host σ} {process : ProcessId}
    (spawned : nursery.spawn shell command added = (.ok ⟨shell, command, some process⟩,
      { nursery with
        host := started
        children := nursery.children ++ [⟨shell, command, some process⟩] }))
    (isOwn : own nursery.waits.length) (accepts : sink.refusal? completion.output = none)
    (same : (completion.text shell command).mapError .failed = answer)
    (later : Path own
      ((nursery.spawn shell command added).2.beginWait nursery.children.length sink) moves last)
    (undisturbed : Undisturbed moves nursery.waits.length completion) :
    ∃ wait, last.waits[nursery.waits.length]? = some wait ∧
      wait.Follows completion answer sink moves nursery.waits.length := by
  have found : ((nursery.spawn shell command added).2.beginWait nursery.children.length
      sink).waits[nursery.waits.length]? = some ⟨shell, command, .collecting process, sink⟩ := by
    rw [spawned]
    simp [beginWait, Child.beginWait]
  exact Wait.follows_path later isOwn found accepts same undisturbed

/-- Whatever comes of a command, running it and waiting for it as a child agree. The launch fails in
both or in neither, with the same error. A command that ends with a status other than zero has the
same failure in both, and the sink is left alone. The output of one that succeeds gets into the sink
as it is, and is answered as the text that it is the bytes of, if there is one. No failure has both
a cause and error output. -/
theorem runners_agree (plainShell : hasNull shell = false) (plainCommand : hasNull command = false)
    (clean : host.environment.Clean) (cleanBeside : nursery.host.environment.Clean)
    (cleanAdded : added.Clean)
    (sameLaunch : ∀ error, host.outcome shell command = .error error ↔
      nursery.host.childLaunch shell command added = .error error) :
    (∀ failure, failure.kind = .spawn →
      ((host.run shell command).1 = .error (.failed failure) ↔
        (nursery.spawn shell command added).1 = .error (.failed failure))) ∧
    (∀ error, host.outcome shell command = .error error →
      (host.run shell command).1 = .error (.failed (.spawn shell command error))) ∧
    (∀ completion, host.outcome shell command = .ok completion →
      completion.Answered shell command (host.run shell command).1 ∧
      (∃ process, (nursery.spawn shell command added).1 = .ok ⟨shell, command, some process⟩) ∧
      ∀ (own : Nat → Prop) (sink : Sink) (moves : List WaitMove) (last : Nursery σ),
        own nursery.waits.length → sink.refusal? completion.output = none →
        Nursery.Path own ((nursery.spawn shell command added).2.beginWait nursery.children.length
          sink) moves last →
        Undisturbed moves nursery.waits.length completion →
        ∃ wait, last.waits[nursery.waits.length]? = some wait ∧
          wait.Follows completion (host.run shell command).1 sink moves nursery.waits.length ∧
          ∀ after : Host σ, ∃ outcome, (wait.exit completion after).1.relay.phase = .over outcome ∧
            completion.Relayed (host.run shell command).1 sink outcome
              (wait.exit completion after).1.relay.sink) ∧
    ∀ failure : Failure, (failure.cause? = none ∨ failure.errors? = none) ∧
      Failure.ofParts? failure.kind failure.shell failure.command failure.cause? failure.errors? =
        some failure := by
  have ran := host.fst_run plainShell plainCommand clean
  have cleanOverlay := cleanBeside.overlay cleanAdded
  refine ⟨fun failure kind => ?_, fun error outcome => ?_, fun completion outcome => ?_,
    Failure.ofParts?_parts⟩
  · rw [host.run_spawn_failure_iff plainShell plainCommand clean kind,
      nursery.spawn_failure_iff plainShell plainCommand cleanOverlay]
    exact exists_congr fun error => and_congr_left' (sameLaunch error)
  · rw [ran, outcome]
  · rw [outcome] at ran
    obtain ⟨started, spawned⟩ := nursery.spawn_of_clean plainShell plainCommand cleanOverlay
    cases launched : nursery.host.childLaunch shell command added with
    | error error =>
      rw [(sameLaunch error).2 launched] at outcome
      cases outcome
    | ok process =>
      rw [launched] at spawned
      refine ⟨ran ▸ completion.answered shell command, ⟨process, by rw [spawned]⟩, ?_⟩
      intro own sink moves last isOwn accepts later undisturbed
      obtain ⟨wait, isWait, follows⟩ :=
        Nursery.follows_spawned spawned isOwn accepts ran.symm later undisturbed
      exact ⟨wait, isWait, follows, follows.ends accepts⟩

end Agreement

/-! ## An outcome that is given -/

/-- A system on which there is one outcome for every command. -/
structure Scripted where
  outcome : Except OsError Completion

instance : OperatingSystem Scripted where
  launch _ _ files system := (system.outcome.map fun _ => 0, files, system)
  closeInput _ system := system
  collect process _ files system :=
    ((process, system.outcome.toOption.getD ⟨0, [], []⟩), files, system)
  kill _ system := (-9, system)
  elapse _ files system := (files, system)

/-- A host on which there is one outcome for every command. -/
def Host.scripted (outcome : Except OsError Completion) : Host Scripted :=
  { environment := [], files := ⟨[], []⟩, system := ⟨outcome⟩ }

theorem Host.outcome_scripted (outcome : Except OsError Completion) (shell command : String) :
    (Host.scripted outcome).outcome shell command = outcome := by
  cases outcome <;> rfl

theorem Host.childLaunch_scripted (outcome : Except OsError Completion) (shell command : String)
    (error : OsError) :
    (Host.scripted outcome).outcome shell command = .error error ↔
      (Host.scripted outcome).childLaunch shell command [] = .error error := by
  rw [outcome_scripted, childLaunch]
  cases outcome <;> simp [OperatingSystem.launch, scripted, Except.map]

/-- A command that fails with error output that is no text. -/
def unreadable : Completion := ⟨3, [0x6F], [0xFF]⟩

/-- Error output that is no text is the same failure for a run and for a wait, and nothing is
written. -/
theorem unreadable_errors_agree :
    ∃ (moves : List WaitMove) (last : Nursery Scripted) (wait : Wait),
      last.waits[0]? = some wait ∧
      wait.Follows unreadable ((Host.scripted (.ok unreadable)).run "/bin/sh" "true").1 .memory
        moves 0 ∧
      wait.phase = .over (.failed (.undecodable "/bin/sh" "true")) ∧ wait.sink.contents = [] ∧
      ((Host.scripted (.ok unreadable)).run "/bin/sh" "true").1 =
        .error (.failed (.undecodable "/bin/sh" "true")) := by
  have clean : Environment.Clean [] := by simp [Environment.Clean]
  obtain ⟨-, -, ended, -⟩ := @runners_agree Scripted _ (.scripted (.ok unreadable))
    ⟨.scripted (.ok unreadable), [], []⟩ "/bin/sh" "true" [] (by decide) (by decide) clean clean
    clean (Host.childLaunch_scripted _ _ _)
  obtain ⟨-, -, waits⟩ := ended unreadable (Host.outcome_scripted _ _ _)
  have begun : Nursery.Path (fun _ => True)
      ((Nursery.spawn ⟨.scripted (.ok unreadable), [], []⟩ "/bin/sh" "true" []).2.beginWait 0
        .memory) [] _ := .nil
  have exited := begun.move (.exit 0 rfl rfl unreadable)
  obtain ⟨wait, isWait, follows, -⟩ :=
    waits (fun _ => True) .memory _ _ trivial rfl exited ⟨by simp, by simp⟩
  have same : some wait = some _ := isWait.symm.trans rfl
  cases same
  exact ⟨_, _, _, isWait, follows, rfl, rfl, rfl⟩

end EventHooks
