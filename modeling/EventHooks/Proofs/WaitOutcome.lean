import EventHooks.Proofs.CancelledWait
import EventHooks.Proofs.Utf8Text

/-!
# The outcome of a wait

How the first wait on a child ends, unless it is cancelled, is decided by the completion of its
command and by the error of the write to its sink, if there is one. The status comes first: the
output of a command that succeeds is written as it is, and that of another one is not written at
all. Only the error output of the latter is taken for a text (`wait_outcome`).
-/
namespace EventHooks

/-! ## Decided outcomes -/

/-- What is reported of a command that ended with a status other than zero: its error output, if
that is the bytes of a text. -/
inductive Completion.Reports (shell command : String) (completion : Completion) : Failure → Prop
  | text {errors : String} (written : Utf8.encode errors = completion.errors) :
    Reports shell command completion (.unsuccessful shell command errors)
  | bytes (unwritten : ∀ errors, Utf8.encode errors ≠ completion.errors) :
    Reports shell command completion (.undecodable shell command)

/-- An outcome is the one of four that a completion decides, with the error that the write of its
output met or would meet. Each failure has the shell and the command that were given. -/
structure Completion.Decides (completion : Completion) (shell command : String)
    (error? : Option OsError) (outcome : WaitOutcome) : Prop where
  isOne : outcome = .relayed ∨
    (∃ error, outcome = .failed (.spawn shell command error)) ∨
    (∃ errors, outcome = .failed (.unsuccessful shell command errors)) ∨
    outcome = .failed (.undecodable shell command)
  relayed : outcome = .relayed ↔ completion.status = 0 ∧ error? = none
  spawn : ∀ error, outcome = .failed (.spawn shell command error) ↔
    completion.status = 0 ∧ error? = some error
  unsuccessful : ∀ errors, outcome = .failed (.unsuccessful shell command errors) ↔
    completion.status ≠ 0 ∧ Utf8.encode errors = completion.errors
  undecodable : outcome = .failed (.undecodable shell command) ↔
    completion.status ≠ 0 ∧ ∀ errors, Utf8.encode errors ≠ completion.errors

/-- A wait is over as a completion and its sink, as it was, decide. What a sink has taken is added
to it, and that of a command without success has got nothing. -/
structure Wait.EndsWith (wait : Wait) (completion : Completion) (shell command : String)
    (before : Sink) : Prop where
  isOver : ∃ outcome, wait.phase = .over outcome ∧
    completion.Decides shell command (before.refusal? completion.output) outcome
  grown : wait.phase = .over .relayed →
    wait.sink = { before with contents := before.contents ++ completion.output }
  untouched : completion.status ≠ 0 → wait.sink = before

section Outcomes

variable {shell command : String} {completion : Completion} {error? : Option OsError}

theorem Completion.decides_relayed (success : completion.status = 0) :
    completion.Decides shell command none .relayed := by
  constructor <;> simp [success]

theorem Completion.decides_spawn (success : completion.status = 0) (error : OsError) :
    completion.Decides shell command (some error) (.failed (.spawn shell command error)) := by
  constructor <;> simp [success, Failure.spawn, Failure.unsuccessful, Failure.undecodable]

/-- No more than one outcome is decided. -/
theorem Completion.Decides.unique {outcome other : WaitOutcome}
    (decides : completion.Decides shell command error? outcome)
    (others : completion.Decides shell command error? other) : outcome = other := by
  rcases decides.isOne with rfl | ⟨error, rfl⟩ | ⟨errors, rfl⟩ | rfl
  · exact (others.relayed.2 (decides.relayed.1 rfl)).symm
  · exact ((others.spawn error).2 ((decides.spawn error).1 rfl)).symm
  · exact ((others.unsuccessful errors).2 ((decides.unsuccessful errors).1 rfl)).symm
  · exact (others.undecodable.2 (decides.undecodable.1 rfl)).symm

theorem Completion.exists_reports (shell command : String) (failed : completion.status ≠ 0) :
    ∃ failure, completion.Reports shell command failure ∧
      completion.verdict shell command = .error failure := by
  unfold verdict
  rw [if_neg failed]
  cases decoded : Utf8.decode? completion.errors with
  | some errors => exact ⟨_, .text (Utf8.decode?_eq_some_iff.1 decoded), rfl⟩
  | none => exact ⟨_, .bytes (Utf8.decode?_eq_none_iff.1 decoded), rfl⟩

/-- What is reported of a command without success is decided, whatever a write would meet. -/
theorem Completion.Reports.decides {failure : Failure} (failed : completion.status ≠ 0)
    (reports : completion.Reports shell command failure) (error? : Option OsError) :
    completion.Decides shell command error? (.failed failure) := by
  cases reports with
  | @text errors written =>
    -- The text is the only one with these bytes.
    have same (other : String) : errors = other ↔ Utf8.encode other = completion.errors :=
      ⟨fun same => same ▸ written, fun other => Utf8.encode_injective (written.trans other.symm)⟩
    have isText : ∃ text, Utf8.encode text = completion.errors := ⟨errors, written⟩
    constructor <;>
      simp [failed, isText, same, Failure.spawn, Failure.unsuccessful, Failure.undecodable]
  | bytes unwritten =>
    constructor <;>
      simp [failed, unwritten, Failure.spawn, Failure.unsuccessful, Failure.undecodable]

/-- A stream refuses a piece for the error of the write or, if that succeeds, of the flush. -/
theorem Sink.refusal?_ofStream {writeError? flushError? : Bytes → Option OsError} {bytes : Bytes}
    {error : OsError} : (ofStream writeError? flushError?).refusal? bytes = some error ↔
      writeError? bytes = some error ∨
        writeError? bytes = none ∧ flushError? bytes = some error :=
  Option.or_eq_some_iff

end Outcomes

/-! ## Steps to the end -/

section Steps

variable {σ : Type} {shell command : String} {completion : Completion} {wait : Wait}

/-- The exit of its command takes a wait to the write, or to the end that is decided. -/
theorem Wait.exit_cases {process : ProcessId} (phase : wait.phase = .collecting process)
    (completion : Completion) (host : Host σ) :
    (completion.status = 0 ∧ (wait.exit completion host).1 =
      { wait with phase := .relaying completion.output false }) ∨
    ∃ failure, completion.status ≠ 0 ∧
      completion.Reports wait.shell wait.command failure ∧
      (wait.exit completion host).1 = { wait with phase := .over (.failed failure) } := by
  by_cases success : completion.status = 0
  · have verdict : completion.verdict wait.shell wait.command = .ok completion.output :=
      Completion.verdict_eq_ok_iff.2 ⟨success, rfl⟩
    exact .inl ⟨success, by simp only [Wait.exit, phase, verdict]⟩
  · obtain ⟨failure, reports, verdict⟩ :=
      Completion.exists_reports wait.shell wait.command success
    exact .inr ⟨failure, success, reports, by simp only [Wait.exit, phase, verdict]⟩

theorem Wait.relay_of_accepting {output : Bytes} (phase : wait.phase = .relaying output false)
    (accepts : wait.sink.refusal? output = none) :
    wait.relay = { wait with
      phase := .over .relayed
      sink := { wait.sink with contents := wait.sink.contents ++ output } } := by
  simp only [Wait.relay, phase, Sink.write, accepts, Bool.false_eq_true, if_false]

/-- The end of the write ends the wait as its sink decides. -/
theorem Wait.endsWith_relay (success : completion.status = 0)
    (phase : wait.phase = .relaying completion.output false) :
    wait.relay.EndsWith completion wait.shell wait.command wait.sink := by
  cases refusal : wait.sink.refusal? completion.output with
  | none =>
    have relayed := relay_of_accepting phase refusal
    rw [relayed]
    refine ⟨⟨.relayed, rfl, ?_⟩, fun _ => rfl, fun failed => absurd success failed⟩
    rw [refusal]
    exact Completion.decides_relayed success
  | some error =>
    have refused : wait.relay =
        { wait with phase := .over (.failed (.spawn wait.shell wait.command error)) } := by
      simp only [Wait.relay, phase, Sink.write, refusal, Bool.false_eq_true, if_false]
    rw [refused]
    refine ⟨⟨_, rfl, ?_⟩, by simp, fun failed => absurd success failed⟩
    rw [refusal]
    exact Completion.decides_spawn success error

/-- Where the status is not zero, the exit ends the wait without a write. -/
theorem Wait.endsWith_of_reports {failure : Failure} (failed : completion.status ≠ 0)
    (reports : completion.Reports shell command failure) :
    ({ wait with phase := .over (.failed failure) } : Wait).EndsWith completion shell command
      wait.sink :=
  ⟨⟨_, rfl, reports.decides failed _⟩, by simp, fun _ => rfl⟩

/-- The exit of its command ends a wait, or the end of the write does then. -/
theorem Wait.endsWith_exit {process : ProcessId} (phase : wait.phase = .collecting process)
    (completion : Completion) (host : Host σ) :
    (wait.exit completion host).1.relay.EndsWith completion wait.shell wait.command wait.sink := by
  rcases wait.exit_cases phase completion host with
    ⟨success, exited⟩ | ⟨failure, failed, reports, exited⟩
  · rw [exited]
    exact endsWith_relay success rfl
  · rw [exited]
    exact endsWith_of_reports failed reports

theorem Wait.exit_of_relaying {output : Bytes} {isCancelled : Bool}
    (phase : wait.phase = .relaying output isCancelled) (completion : Completion) (host : Host σ) :
    (wait.exit completion host).1 = wait := by
  simp only [Wait.exit, phase]

end Steps

/-! ## Runs -/

/-- Nothing cancels a wait, and its command ends with a completion, if it ends. -/
structure Undisturbed (moves : List WaitMove) (index : Nat) (completion : Completion) : Prop where
  uncancelled : ∀ killed?, .cancel index killed? ∉ moves
  completed : ∀ process other, .exit index process other ∈ moves → other = completion

/-- How far a wait has come that nothing cancels, on a sink that may be its own: its command has not
ended, or it has succeeded and its output has not been written, or the wait is over. Then the output
has been written with the error that decides the outcome, or it has not been written. -/
inductive Wait.Proceeds (completion : Completion) (shell command : String) (isOwn : Prop)
    (sink : Sink) (moves : List WaitMove) (index : Nat) (wait : Wait) : Prop
  | running {process : ProcessId} (phase : wait.phase = .collecting process)
    (unended : ∀ process other, .exit index process other ∉ moves) (silent : index ∉ writers moves)
    (shell : wait.shell = shell) (command : wait.command = command)
    (untouched : isOwn → wait.sink = sink)
  | writing (success : completion.status = 0)
    (phase : wait.phase = .relaying completion.output false) (silent : index ∉ writers moves)
    (shell : wait.shell = shell) (command : wait.command = command)
    (untouched : isOwn → wait.sink = sink)
  | ended {outcome : WaitOutcome} {error? : Option OsError} (phase : wait.phase = .over outcome)
    (decides : completion.Decides shell command error? outcome)
    (wrote : completion.status = 0 → .relay index completion.output error? ∈ moves)
    (silent : completion.status ≠ 0 → index ∉ writers moves)
    (ends : isOwn → wait.EndsWith completion shell command sink)

section Runs

variable {σ : Type} {shell command : String} {completion : Completion} {isOwn : Prop} {sink : Sink}
  {moves : List WaitMove} {index : Nat} {wait : Wait}

theorem Undisturbed.front {move : WaitMove}
    (undisturbed : Undisturbed (moves ++ [move]) index completion) :
    Undisturbed moves index completion where
  uncancelled killed? member := undisturbed.uncancelled killed? (List.mem_append_left _ member)
  completed process other member :=
    undisturbed.completed process other (List.mem_append_left _ member)

/-- A move that is not about a wait leaves it as far as it is. -/
theorem Wait.Proceeds.append {move : WaitMove} (other : move.wait? ≠ some index)
    (proceeds : wait.Proceeds completion shell command isOwn sink moves index) :
    wait.Proceeds completion shell command isOwn sink (moves ++ [move]) index := by
  have stillSilent (silent : index ∉ writers moves) : index ∉ writers (moves ++ [move]) :=
    not_mem_writers_append silent (WaitMove.not_mem_writers other)
  cases proceeds with
  | running phase unended silent shell command untouched =>
    refine .running phase (fun process ended member => ?_) (stillSilent silent) shell command
      untouched
    rcases List.mem_append.1 member with earlier | last
    · exact unended process ended earlier
    · obtain rfl := List.mem_singleton.1 last
      exact other rfl
  | writing success phase silent shell command untouched =>
    exact .writing success phase (stillSilent silent) shell command untouched
  | ended phase decides wrote silent ends =>
    exact .ended phase decides (fun success => List.mem_append_left _ (wrote success))
      (fun failed => stillSilent (silent failed)) ends

/-- The exit of its command takes a wait on. -/
theorem Wait.Proceeds.exit {process : ProcessId}
    (proceeds : wait.Proceeds completion shell command isOwn sink moves index)
    (collecting : wait.phase = .collecting process) (host : Host σ) :
    (wait.exit completion host).1.Proceeds completion shell command isOwn sink
      (moves ++ [.exit index process completion]) index := by
  cases proceeds with
  | running _ _ silent shell command untouched =>
    have stillSilent : index ∉ writers (moves ++ [.exit index process completion]) :=
      not_mem_writers_append silent (by simp [writers, WaitMove.writer?])
    rcases wait.exit_cases collecting completion host with
      ⟨success, exited⟩ | ⟨failure, failed, reports, exited⟩
    · rw [exited]
      exact .writing success rfl stillSilent shell command untouched
    · rw [shell, command] at reports
      rw [exited]
      exact .ended rfl (reports.decides failed none) (fun success => absurd success failed)
        (fun _ => stillSilent) fun isOwn => untouched isOwn ▸ endsWith_of_reports failed reports
  | writing _ phase =>
    rw [phase] at collecting
    cases collecting
  | ended phase =>
    rw [phase] at collecting
    cases collecting

/-- The end of the write takes a wait to its end. -/
theorem Wait.Proceeds.relay {output : Bytes} {isCancelled : Bool}
    (proceeds : wait.Proceeds completion shell command isOwn sink moves index)
    (relaying : wait.phase = .relaying output isCancelled) :
    wait.relay.Proceeds completion shell command isOwn sink
      (moves ++ [.relay index output (wait.sink.refusal? output)]) index := by
  cases proceeds with
  | running phase =>
    rw [phase] at relaying
    cases relaying
  | writing success phase silent shell command untouched =>
    rw [phase] at relaying
    cases relaying
    have ends := endsWith_relay success phase
    rw [shell, command] at ends
    obtain ⟨outcome, isOver, decides⟩ := ends.isOver
    exact .ended isOver decides
      (fun _ => List.mem_append_right _ (List.mem_singleton_self _))
      (fun failed => absurd success failed) fun isOwn => untouched isOwn ▸ ends
  | ended phase =>
    rw [phase] at relaying
    cases relaying

/-- A wait that is not over ends when its command has exited and its output has been written. -/
theorem Wait.Proceeds.ends (proceeds : wait.Proceeds completion shell command isOwn sink moves index)
    (unended : wait.outcome? = none) (host : Host σ) :
    (wait.exit completion host).1.relay.EndsWith completion shell command wait.sink := by
  cases proceeds with
  | running phase _ _ shell command =>
    rw [← shell, ← command]
    exact endsWith_exit phase completion host
  | writing success phase _ shell command =>
    rw [exit_of_relaying phase, ← shell, ← command]
    exact endsWith_relay success phase
  | ended phase => simp [Wait.outcome?, phase] at unended

variable [OperatingSystem σ] {own : Nat → Prop} {first last : Nursery σ}

/-- Whatever else happens, a wait that nothing cancels comes as far as its own moves take it. -/
theorem Wait.proceeds_path {process : ProcessId} (later : Nursery.Path own first moves last)
    (found : first.waits[index]? = some ⟨shell, command, .collecting process, sink⟩)
    (undisturbed : Undisturbed moves index completion) :
    ∃ wait, last.waits[index]? = some wait ∧
      wait.Proceeds completion shell command (own index) sink moves index := by
  -- The induction is on the way; what it carries is how far the wait has come. A change elsewhere
  -- may give it another sink, unless the sink is its own.
  induction later with
  | nil =>
    exact ⟨_, found, .running rfl (by simp) (by simp [writers]) rfl rfl fun _ => rfl⟩
  | elsewhere _ host sinks kept ih =>
    obtain ⟨wait, isWait, proceeds⟩ := ih undisturbed
    have same (isOwn : own index) : sinks index = wait.sink := kept index wait isOwn isWait
    refine ⟨{ wait with sink := sinks index }, by simp [Nursery.beside, isWait], ?_⟩
    cases proceeds with
    | running phase unended silent shell command untouched =>
      exact .running phase unended silent shell command fun isOwn =>
        (same isOwn).trans (untouched isOwn)
    | writing success phase silent shell command untouched =>
      exact .writing success phase silent shell command fun isOwn =>
        (same isOwn).trans (untouched isOwn)
    | ended phase decides wrote silent ends =>
      refine .ended phase decides wrote silent fun isOwn => ?_
      rw [same isOwn]
      exact ends isOwn
  | @move moves move nursery next _ moved ih =>
    obtain ⟨wait, isWait, proceeds⟩ := ih undisturbed.front
    obtain ⟨after, isAfter, fate⟩ := Nursery.fate_of_move moved isWait
    refine ⟨after, isAfter, ?_⟩
    cases fate with
    | same other => exact proceeds.append other
    | exit collecting ended =>
      obtain rfl := undisturbed.completed _ _ (List.mem_append_right _ (List.mem_singleton_self _))
      exact proceeds.exit collecting nursery.host
    | relay relaying => exact proceeds.relay relaying
    | cancel killed? status =>
      exact absurd (List.mem_append_right _ (List.mem_singleton_self _))
        (undisturbed.uncancelled killed?)

/-- The wait on a child that still has its process, whatever else happens, runs until the command
exits, and is over then or, after the status zero, when the write of the output has ended. It has
the one outcome that the completion decides with the error of the write, and none of the output is
written if the status is not zero. A sink of its own has got the output as it is if the outcome is a
success. A write to a stream has an error exactly if writing or flushing has. -/
theorem wait_outcome {child : Nat} {process : ProcessId}
    (unwaited : first.children[child]? = some ⟨shell, command, some process⟩)
    (later : Nursery.Path own (first.beginWait child sink) moves last)
    (undisturbed : Undisturbed moves first.waits.length completion) :
    (∃ wait, last.waits[first.waits.length]? = some wait ∧
      wait.Proceeds completion shell command (own first.waits.length) sink moves
        first.waits.length ∧
      (wait.outcome? = none → ∀ host : Host σ,
        (wait.exit completion host).1.relay.EndsWith completion shell command wait.sink)) ∧
    ∀ (writeError? flushError? : Bytes → Option OsError) (error : OsError),
      (Sink.ofStream writeError? flushError?).refusal? completion.output = some error ↔
        writeError? completion.output = some error ∨
          writeError? completion.output = none ∧ flushError? completion.output = some error := by
  have begun : (first.beginWait child sink).waits[first.waits.length]? =
      some ⟨shell, command, .collecting process, sink⟩ := by
    simp [Nursery.beginWait, Child.beginWait, unwaited]
  obtain ⟨wait, isWait, proceeds⟩ := Wait.proceeds_path later begun undisturbed
  exact ⟨⟨wait, isWait, proceeds, proceeds.ends⟩, fun _ _ _ => Sink.refusal?_ofStream⟩

end Runs

/-! ## Two outcomes -/

/-- A command that a signal has ended, with some output and error output that is a text. -/
def interrupted : Completion := ⟨-9, [0x6F], [0x65]⟩

/-- A command that has succeeded, with some output and error output that is no text. -/
def succeeded : Completion := ⟨0, [0x6F], [0xFF]⟩

/-- The output of a command that was killed gets nowhere, though there is room; that of a command
that has succeeded finds no room. -/
theorem killed_or_crowded :
    ∃ (moves more : List WaitMove) (killed crowded : Wait),
      killed.Proceeds interrupted "/bin/sh" "echo o" True .memory moves 0 ∧
      killed.phase = .over (.failed (.unsuccessful "/bin/sh" "echo o" "e")) ∧
      killed.sink.contents = [] ∧
      crowded.Proceeds succeeded "/bin/sh" "echo o" True .full more 0 ∧
      crowded.phase =
        .over (.failed (.spawn "/bin/sh" "echo o" (.ofErrno .noSpace none))) := by
  let first : Nursery Endless := ⟨Host.endless, [⟨"/bin/sh", "echo o", some 0⟩], []⟩
  have begun (sink : Sink) : Nursery.Path (fun _ => True) (first.beginWait 0 sink) []
      (first.beginWait 0 sink) := .nil
  have exited := (begun .memory).move (.exit 0 rfl rfl interrupted)
  have undisturbed : Undisturbed ([] ++ [.exit 0 0 interrupted]) 0 interrupted :=
    ⟨by simp, by simp⟩
  obtain ⟨⟨killed, isKilled, proceeds, -⟩, -⟩ := wait_outcome rfl exited undisturbed
  have written := ((begun .full).move (.exit 0 rfl rfl succeeded)).move (.relay 0 rfl rfl)
  have undisturbedFull : Undisturbed ([] ++ [.exit 0 0 succeeded] ++
      [.relay 0 [0x6F] (some (.ofErrno .noSpace none))]) 0 succeeded := ⟨by simp, by simp⟩
  obtain ⟨⟨crowded, isCrowded, proceedsFull, -⟩, -⟩ := wait_outcome rfl written undisturbedFull
  obtain rfl : _ = killed := Option.some.inj isKilled
  obtain rfl : _ = crowded := Option.some.inj isCrowded
  exact ⟨_, _, _, _, proceeds, rfl, rfl, proceedsFull, rfl⟩

end EventHooks
