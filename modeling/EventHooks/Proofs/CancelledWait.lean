import EventHooks.Computer
import EventHooks.Proofs.HookSteps
import EventHooks.Proofs.SingleWait

/-!
# Cancelled waits

A wait that is cancelled while the command runs ends at once: the command is killed, and the sink
gets nothing. One that is cancelled while its output is being written ends when the write does, and
the sink has got all of the output unless the write fails. It never ends in another way
(`cancelled_wait`).
-/
namespace EventHooks

/-- A system that knows how its processes have ended. One that it has killed has ended, with the
status that the kill answers. -/
class ReturnCodes (σ : Type) [OperatingSystem σ] where
  returnCode? : ProcessId → σ → Option Int
  returnCode_kill : ∀ (process : ProcessId) (system : σ),
    returnCode? process (OperatingSystem.kill process system).2 =
      some (OperatingSystem.kill process system).1

/-! ## Killing on a computer -/

theorem World.isAlive_finish (world : World) (process : ProcessId) (ending : ProcessEnd) :
    (world.finish process ending).isAlive process = false := by
  unfold isAlive record?
  cases found : (world.finish process ending).processes.find? (·.number == process) with
  | none => rfl
  | some record =>
    have number : record.number = process := by simpa using List.find?_some found
    obtain ⟨old, -, kept⟩ := List.mem_filterMap.1 (List.mem_of_find?_eq_some found)
    by_cases own : old.number = process
    · simp only [own, beq_self_eq_true, if_true] at kept
      split_ifs at kept with _ ended
      · cases kept
        simpa using ended
      · cases kept
        rfl
    · -- What is kept of other processes keeps its number.
      have numberOf (record : ProcessRecord) :
          (record.await Signal.child).number = record.number := by
        unfold ProcessRecord.await
        split <;> rfl
      simp only [beq_eq_false_iff_ne.2 own, Bool.false_eq_true, if_false] at kept
      have same : record.number = old.number := by
        split_ifs at kept <;> cases kept <;> first | rfl | exact numberOf old
      exact absurd (same.symm.trans number) own

/-- A process that was killed does not live. -/
theorem World.isAlive_kill (world : World) (process : ProcessId) :
    (world.signal process Signal.kill).isAlive process = false := by
  unfold signal
  cases found : world.record? process with
  | none => simp [isAlive, found]
  | some record =>
    cases ending : record.ending? with
    | some ending => simp [isAlive, found, ending]
    | none => simp [ending, isAlive_finish]

/-- A computer knows how a process has ended that does not live any more. -/
instance : ReturnCodes Computer where
  returnCode? process computer :=
    if computer.machine.world.isAlive process then none
    else some (Computer.endOf computer.machine.world process)
  returnCode_kill process computer := by
    simp [OperatingSystem.kill, Computer.kill, World.isAlive_kill]

/-! ## What moves do to one wait -/

/-- The wait that a move is about, if it is there already. -/
def WaitMove.wait? : WaitMove → Option Nat
  | .spawn _ | .start _ _ => none
  | .exit wait _ _ | .relay wait _ _ | .cancel wait _ => some wait

theorem not_mem_writers_append {moves more : List WaitMove} {index : Nat}
    (silent : index ∉ writers moves) (silentLater : index ∉ writers more) :
    index ∉ writers (moves ++ more) := by
  rw [writers, List.filterMap_append, List.mem_append, not_or]
  exact ⟨silent, silentLater⟩

/-- A move that is not about a wait does not write for it. -/
theorem WaitMove.not_mem_writers {move : WaitMove} {index : Nat}
    (other : move.wait? ≠ some index) : index ∉ writers [move] := by
  intro writes
  cases move with
  | relay wait output error? =>
    obtain rfl : index = wait := by simpa [writers, WaitMove.writer?] using writes
    exact other rfl
  | spawn _ | start _ _ | exit _ _ _ | cancel _ _ => simp [writers, WaitMove.writer?] at writes

section Fates

variable {σ : Type} {nursery next : Nursery σ} {move : WaitMove} {index : Nat} {wait : Wait}

/-- What a move does to the wait at a place: nothing, or what the move is. -/
inductive Nursery.Fate (nursery : Nursery σ) (index : Nat) (old : Wait) : WaitMove → Wait → Prop
  | same {move : WaitMove} (other : move.wait? ≠ some index) : Fate nursery index old move old
  | exit {process : ProcessId} (phase : old.phase = .collecting process)
    (completion : Completion) :
    Fate nursery index old (.exit index process completion) (old.exit completion nursery.host).1
  | relay {output : Bytes} {isCancelled : Bool} (phase : old.phase = .relaying output isCancelled) :
    Fate nursery index old (.relay index output (old.sink.refusal? output)) old.relay
  | cancel (killed? : Option (ProcessId × Int)) (status : Int) :
    Fate nursery index old (.cancel index killed?) (old.cancel status)

theorem Nursery.fate_of_turn {place : Nat} {old new : Wait}
    (turn : Turn nursery move place old new next) (place? : move.wait? = some place)
    (fate : place = index → Fate nursery index old move new)
    (found : nursery.waits[index]? = some wait) :
    ∃ after, next.waits[index]? = some after ∧ Fate nursery index wait move after := by
  rw [turn.waits]
  by_cases ours : place = index
  · subst ours
    obtain rfl := Option.some.inj (turn.found.symm.trans found)
    exact ⟨new, List.getElem?_set_self (List.getElem?_eq_some_iff.1 found).1, fate rfl⟩
  · refine ⟨wait, by rw [List.getElem?_set_ne ours, found], .same ?_⟩
    rw [place?]
    exact fun same => ours (Option.some.inj same)

variable [OperatingSystem σ]

theorem Nursery.fate_of_move (moved : Nursery.Move nursery move next)
    (found : nursery.waits[index]? = some wait) :
    ∃ after, next.waits[index]? = some after ∧ Fate nursery index wait move after := by
  cases moved with
  | spawn shell command added =>
    refine ⟨wait, ?_, .same (by simp [WaitMove.wait?])⟩
    rcases nursery.spawn_cases shell command added with
      ⟨process, host, same⟩ | ⟨error, host, same⟩ <;>
    · rw [same]
      exact found
  | start place isChild sink =>
    obtain ⟨host, same⟩ := beginWait_of_found isChild sink
    refine ⟨wait, ?_, .same (by simp [WaitMove.wait?])⟩
    rw [same]
    exact (List.getElem?_append_left (List.getElem?_eq_some_iff.1 found).1).trans found
  | exit place isWait phase completion =>
    exact fate_of_turn (turn_exit isWait phase completion) rfl
      (fun ours => ours ▸ .exit phase completion) found
  | relay place isWait phase =>
    exact fate_of_turn (turn_relay isWait phase) rfl (fun ours => ours ▸ .relay phase) found
  | cancel place isWait =>
    obtain ⟨status, turn⟩ := turn_cancel isWait
    exact fate_of_turn turn rfl (fun ours => ours ▸ .cancel _ status) found

/-- A wait that has just been started has nothing to relay yet. -/
theorem Nursery.not_relaying_of_fresh (moved : Nursery.Move nursery move next)
    (absent : nursery.waits[index]? = none) (found : next.waits[index]? = some wait)
    (output : Bytes) (isCancelled : Bool) : wait.phase ≠ .relaying output isCancelled := by
  have unchanged {place : Nat} {old new : Wait} (turn : Turn nursery move place old new next) :
      False := by
    have outside := List.getElem?_eq_none_iff.1 absent
    rw [turn.waits, List.getElem?_eq_none (by rwa [List.length_set])] at found
    cases found
  cases moved with
  | spawn shell command added =>
    rcases nursery.spawn_cases shell command added with
      ⟨process, host, same⟩ | ⟨error, host, same⟩ <;>
    · rw [same, absent] at found
      cases found
  | @start child place isChild sink =>
    obtain ⟨host, same⟩ := beginWait_of_found isChild sink
    rw [same, List.getElem?_append_right (List.getElem?_eq_none_iff.1 absent)] at found
    obtain rfl := List.mem_singleton.1 (List.mem_of_getElem? found)
    dsimp only
    cases child.process? <;> simp
  | exit place isWait phase completion => exact (unchanged (turn_exit isWait phase completion)).elim
  | relay place isWait phase => exact (unchanged (turn_relay isWait phase)).elim
  | cancel place isWait =>
    obtain ⟨status, turn⟩ := turn_cancel isWait
    exact (unchanged turn).elim

end Fates

/-! ## Ways -/

section Ways

variable {σ : Type} [OperatingSystem σ] {own : Nat → Prop} {first nursery last : Nursery σ}
  {moves more : List WaitMove} {index : Nat} {wait : Wait}

theorem Nursery.Path.trans (earlier : Path own first moves nursery)
    (later : Path own nursery more last) : Path own first (moves ++ more) last := by
  induction later with
  | nil => rwa [List.append_nil]
  | move _ moved ih =>
    rw [← List.append_assoc]
    exact ih.move moved
  | elsewhere _ host sinks same ih => exact ih.elsewhere host sinks same

/-- What is relayed is the output of a command that has succeeded. -/
theorem Nursery.exited_of_relaying {host : Host σ} (path : Path own ⟨host, [], []⟩ moves nursery)
    (found : nursery.waits[index]? = some wait) {output : Bytes} {isCancelled : Bool}
    (phase : wait.phase = .relaying output isCancelled) :
    (∃ process completion, .exit index process completion ∈ moves ∧ completion.status = 0 ∧
      completion.output = output) ∧
    (isCancelled = true → ∃ killed?, .cancel index killed? ∈ moves) := by
  induction path generalizing wait isCancelled with
  | nil => simp at found
  | elsewhere _ host sinks same ih =>
    obtain ⟨old, isOld, rfl⟩ := waits_beside found
    exact ih isOld phase
  | @move moves move nursery next _ moved ih =>
    cases earlier : nursery.waits[index]? with
    | none => exact absurd phase (not_relaying_of_fresh moved earlier found output isCancelled)
    | some old =>
      have keep {flag : Bool} (earlierPhase : old.phase = .relaying output flag) :
          (∃ process completion, .exit index process completion ∈ moves ++ [move] ∧
            completion.status = 0 ∧ completion.output = output) ∧
          (flag = true → ∃ killed?, .cancel index killed? ∈ moves ++ [move]) := by
        obtain ⟨⟨process, completion, exited, isOutput⟩, cancelled⟩ := ih earlier earlierPhase
        refine ⟨⟨process, completion, List.mem_append_left _ exited, isOutput⟩, fun isTrue => ?_⟩
        obtain ⟨killed?, member⟩ := cancelled isTrue
        exact ⟨killed?, List.mem_append_left _ member⟩
      obtain ⟨after, isAfter, fate⟩ := fate_of_move moved earlier
      obtain rfl := Option.some.inj (isAfter.symm.trans found)
      cases fate with
      | same => exact keep phase
      | exit collecting completion =>
        simp only [Wait.exit, collecting] at phase
        cases verdict : completion.verdict old.shell old.command with
        | ok result =>
          obtain ⟨success, rfl⟩ := Completion.verdict_eq_ok_iff.1 verdict
          rw [verdict] at phase
          cases phase
          exact ⟨⟨_, completion, List.mem_append_right _ (List.mem_singleton_self _), success, rfl⟩,
            by simp⟩
        | error failure =>
          rw [verdict] at phase
          cases phase
      | relay relaying =>
        obtain ⟨outcome, ended, -⟩ := Wait.relay_of_relaying relaying
        rw [ended] at phase
        cases phase
      | cancel killed? status =>
        rcases earlierPhase : old.phase with process | ⟨result, flag⟩ | outcome
        · simp [Wait.cancel, earlierPhase] at phase
        · simp only [Wait.cancel, earlierPhase] at phase
          cases phase
          exact ⟨(keep earlierPhase).1, fun _ =>
            ⟨killed?, List.mem_append_right _ (List.mem_singleton_self _)⟩⟩
        · simp [Wait.cancel, earlierPhase] at phase

theorem mem_targets_append {child : Nat} (target : (targets moves)[index]? = some child) :
    (targets (moves ++ more))[index]? = some child := by
  have bound := (List.getElem?_eq_some_iff.1 target).1
  rw [targets, started, List.filterMap_append, List.map_append]
  exact (List.getElem?_append_left bound).trans target

/-- A child that a wait was started on has no process any more. -/
theorem Nursery.taken_of_started {host : Host σ} (path : Path own ⟨host, [], []⟩ moves nursery)
    {child : Nat} (target : (targets moves)[index]? = some child) :
    (nursery.children[child]?).map (·.process?) = some none := by
  have kept := kept_path path
  have member : child ∈ targets moves := List.mem_of_getElem? target
  rw [kept.processes, List.getElem?_eq_getElem (kept.known child member), Option.map_some,
    if_pos member]

/-- A wait that is over stays so, and its sink as it is. -/
theorem Nursery.over_after (later : Path own nursery more last)
    (found : nursery.waits[index]? = some wait) {outcome : WaitOutcome}
    (isOver : wait.phase = .over outcome) (once : ∀ killed?, .cancel index killed? ∉ more) :
    ∃ ended, last.waits[index]? = some ended ∧ ended.phase = .over outcome ∧
      index ∉ writers more ∧ (own index → ended.sink = wait.sink) := by
  induction later with
  | nil => exact ⟨wait, found, isOver, by simp [writers], fun _ => rfl⟩
  | elsewhere _ host sinks same ih =>
    obtain ⟨ended, isEnded, isOver, silent, untouched⟩ := ih once
    refine ⟨{ ended with sink := sinks index }, ?_, isOver, silent, fun isOwn => ?_⟩
    · simp [beside, isEnded]
    · rw [← untouched isOwn]
      exact same index ended isOwn isEnded
  | @move moves move nursery next _ moved ih =>
    obtain ⟨ended, isEnded, isOver, silent, untouched⟩ :=
      ih fun killed? member => once killed? (List.mem_append_left _ member)
    obtain ⟨after, isAfter, fate⟩ := fate_of_move moved isEnded
    cases fate with
    | same other =>
      have stillSilent := not_mem_writers_append silent (WaitMove.not_mem_writers other)
      exact ⟨ended, isAfter, isOver, stillSilent, untouched⟩
    | exit collecting completion =>
      rw [isOver] at collecting
      cases collecting
    | relay relaying =>
      rw [isOver] at relaying
      cases relaying
    | cancel killed? status =>
      exact absurd (List.mem_append_right _ (List.mem_singleton_self _)) (once killed?)

/-- A sink after a write that has met an error or not. -/
def Sink.after (sink : Sink) (output : Bytes) (error? : Option OsError) : Sink :=
  if error?.isSome then sink else { sink with contents := sink.contents ++ output }

theorem Sink.snd_write (sink : Sink) (output : Bytes) :
    (sink.write output).2 = sink.after output (sink.refusal? output) := by
  unfold write after
  cases sink.refusal? output <;> rfl

/-- A relay that is cancelled goes on until its write ends, which ends the wait. -/
theorem Nursery.relaying_after (later : Path own nursery more last)
    (found : nursery.waits[index]? = some wait) {output : Bytes}
    (relaying : wait.phase = .relaying output true)
    (once : ∀ killed?, .cancel index killed? ∉ more) :
    ∃ ended, last.waits[index]? = some ended ∧
      ((index ∉ writers more ∧ ended.phase = .relaying output true ∧
          (own index → ended.sink = wait.sink)) ∨
        ∃ error?, .relay index output error? ∈ more ∧ ended.phase = .over (.cancelled 0) ∧
          (own index → ended.sink = wait.sink.after output error?)) := by
  induction later with
  | nil => exact ⟨wait, found, .inl ⟨by simp [writers], relaying, fun _ => rfl⟩⟩
  | elsewhere _ host sinks same ih =>
    obtain ⟨ended, isEnded, state⟩ := ih once
    have kept {sink : Sink} (untouched : own index → ended.sink = sink) (isOwn : own index) :
        sinks index = sink := (same index ended isOwn isEnded).trans (untouched isOwn)
    refine ⟨{ ended with sink := sinks index }, by simp [beside, isEnded], ?_⟩
    rcases state with ⟨silent, phase, untouched⟩ | ⟨error?, wrote, isOver, holds⟩
    · exact .inl ⟨silent, phase, kept untouched⟩
    · exact .inr ⟨error?, wrote, isOver, kept holds⟩
  | @move moves move nursery next _ moved ih =>
    obtain ⟨ended, isEnded, state⟩ :=
      ih fun killed? member => once killed? (List.mem_append_left _ member)
    obtain ⟨after, isAfter, fate⟩ := fate_of_move moved isEnded
    cases fate with
    | same other =>
      refine ⟨ended, isAfter, ?_⟩
      rcases state with ⟨silent, phase, untouched⟩ | ⟨error?, wrote, isOver, holds⟩
      · have stillSilent := not_mem_writers_append silent (WaitMove.not_mem_writers other)
        exact .inl ⟨stillSilent, phase, untouched⟩
      · exact .inr ⟨error?, List.mem_append_left _ wrote, isOver, holds⟩
    | exit collecting completion =>
      rcases state with ⟨_, phase, _⟩ | ⟨_, _, phase, _⟩ <;>
      · rw [phase] at collecting
        cases collecting
    | relay writing =>
      rcases state with ⟨-, phase, untouched⟩ | ⟨_, _, phase, _⟩
      · rw [phase] at writing
        cases writing
        obtain ⟨outcome, isOver, -, isCancelled⟩ := Wait.relay_of_relaying phase
        refine ⟨_, isAfter, .inr ⟨_, List.mem_append_right _ (List.mem_singleton_self _), ?_, ?_⟩⟩
        · rw [isOver, isCancelled rfl]
        · intro isOwn
          rw [isOver, ← untouched isOwn]
          exact ended.sink.snd_write output
      · rw [phase] at writing
        cases writing
    | cancel killed? status =>
      exact absurd (List.mem_append_right _ (List.mem_singleton_self _)) (once killed?)

theorem Nursery.cancel_of_collecting (found : nursery.waits[index]? = some wait)
    {process : ProcessId} (phase : wait.phase = .collecting process) :
    nursery.cancel index = { nursery with
      host := (nursery.host.kill process).2
      waits := nursery.waits.set index
        { wait with phase := .over (.cancelled (nursery.host.kill process).1) } } := by
  rw [cancel, onWait_of_found found]
  simp only [Wait.process?, Wait.cancel, phase]

theorem Nursery.cancel_of_relaying (found : nursery.waits[index]? = some wait) {output : Bytes}
    {isCancelled : Bool} (phase : wait.phase = .relaying output isCancelled) :
    nursery.cancel index = { nursery with
      waits := nursery.waits.set index { wait with phase := .relaying output true } } := by
  rw [cancel, onWait_of_found found]
  simp only [Wait.process?, Wait.cancel, phase]

/-! ## One cancellation -/

variable [ReturnCodes σ]

/-- What comes of a wait that is cancelled after some moves and before some more. If its command
still ran, it is over, the process has a return code, and nothing was written. If its output was
being written, it goes on as long as the write does; then it is over, and a sink of its own has got
the output of the command unless the write has failed. -/
inductive Nursery.Cancelled (nursery : Nursery σ) (moves more : List WaitMove) (index : Nat)
    (isOwn : Prop) (sink : Sink) (wait ended : Wait) : Prop
  | killed {process : ProcessId} (phase : wait.phase = .collecting process)
    (reaped : ReturnCodes.returnCode? process (nursery.cancel index).host.system =
      some (nursery.host.kill process).1)
    (silent : index ∉ writers (moves ++ more))
    (isOver : ended.phase = .over (.cancelled (nursery.host.kill process).1))
    (untouched : isOwn → ended.sink = sink)
  | writing {process : ProcessId} {completion : Completion}
    (exited : .exit index process completion ∈ moves) (success : completion.status = 0)
    (phase : wait.phase = .relaying completion.output false)
    (silent : index ∉ writers (moves ++ more))
    (goesOn : ended.phase = .relaying completion.output true)
    (ends : ended.relay.phase = .over (.cancelled 0))
  | written {process : ProcessId} {completion : Completion} {error? : Option OsError}
    (exited : .exit index process completion ∈ moves) (success : completion.status = 0)
    (phase : wait.phase = .relaying completion.output false)
    (wrote : .relay index completion.output error? ∈ more)
    (isOver : ended.phase = .over (.cancelled 0))
    (holds : isOwn → ended.sink = sink.after completion.output error?)

/-- A wait that is cancelled while its command runs is over, with the command killed. -/
theorem Nursery.cancelled_of_collecting {child : Nat} {sink : Sink} {process : ProcessId}
    (found : nursery.waits[index]? = some wait) (stands : wait.Stands own moves index child sink)
    (phase : wait.phase = .collecting process) (later : Path own (nursery.cancel index) more last)
    (once : ∀ killed?, .cancel index killed? ∉ more) :
    ∃ ended, last.waits[index]? = some ended ∧
      nursery.Cancelled moves more index (own index) sink wait ended := by
  have same := cancel_of_collecting found phase
  have silent := stands.unended (by simp [Wait.outcome?, phase])
  have reaped : ReturnCodes.returnCode? process (nursery.cancel index).host.system =
      some (nursery.host.kill process).1 := by
    rw [same]
    exact ReturnCodes.returnCode_kill process nursery.host.system
  have isOver : (nursery.cancel index).waits[index]? = some
      { wait with phase := .over (.cancelled (nursery.host.kill process).1) } := by
    rw [same]
    exact List.getElem?_set_self (List.getElem?_eq_some_iff.1 found).1
  obtain ⟨ended, isEnded, isOver, silentLater, untouched⟩ := over_after later isOver rfl once
  refine ⟨ended, isEnded, .killed phase reaped ?_ isOver ?_⟩
  · exact not_mem_writers_append silent silentLater
  · exact fun isOwn => (untouched isOwn).trans (stands.sink isOwn silent)

/-- A wait that is cancelled while the output of its command is written is over when the write
has ended. -/
theorem Nursery.cancelled_of_relaying {child : Nat} {sink : Sink} {process : ProcessId}
    {completion : Completion} (exited : .exit index process completion ∈ moves)
    (success : completion.status = 0) (found : nursery.waits[index]? = some wait)
    (stands : wait.Stands own moves index child sink)
    (phase : wait.phase = .relaying completion.output false)
    (later : Path own (nursery.cancel index) more last)
    (once : ∀ killed?, .cancel index killed? ∉ more) :
    ∃ ended, last.waits[index]? = some ended ∧
      nursery.Cancelled moves more index (own index) sink wait ended := by
  have silent := stands.unended (by simp [Wait.outcome?, phase])
  have isRelaying : (nursery.cancel index).waits[index]? = some
      { wait with phase := .relaying completion.output true } := by
    rw [cancel_of_relaying found phase]
    exact List.getElem?_set_self (List.getElem?_eq_some_iff.1 found).1
  obtain ⟨ended, isEnded, state⟩ := relaying_after later isRelaying rfl once
  refine ⟨ended, isEnded, ?_⟩
  rcases state with ⟨silentLater, goesOn, -⟩ | ⟨error?, wrote, isOver, holds⟩
  · obtain ⟨outcome, relayed, -, isCancelled⟩ := Wait.relay_of_relaying goesOn
    refine .writing exited success phase ?_ goesOn ?_
    · exact not_mem_writers_append silent silentLater
    · rw [relayed, isCancelled rfl]
  · refine .written exited success phase wrote isOver fun isOwn => ?_
    rw [holds isOwn, stands.sink isOwn silent]

/-- Wherever a wait is cancelled once, while its command runs or while its output is written, it
ends as cancelled and in no other way: at once, with the command killed and nothing written, or when
the write ends, with all of the output or, if that fails, none. Its child counts as waited on. -/
theorem cancelled_wait {host : Host σ} (index : Nat)
    (earlier : Nursery.Path own ⟨host, [], []⟩ moves nursery)
    (found : nursery.waits[index]? = some wait) (unended : wait.outcome? = none)
    (later : Nursery.Path own (nursery.cancel index) more last)
    (once : ∀ killed?, .cancel index killed? ∉ moves ++ more) :
    ∃ child sink ended, (started moves)[index]? = some (child, sink) ∧
      last.waits[index]? = some ended ∧
      (last.children[child]?).map (·.process?) = some none ∧
      nursery.Cancelled moves more index (own index) sink wait ended := by
  have kept := Nursery.kept_path earlier
  have bound : index < nursery.waits.length := (List.getElem?_eq_some_iff.1 found).1
  have memberOf : ∃ child sink, (started moves)[index]? = some (child, sink) :=
    ⟨_, _, List.getElem?_eq_getElem (kept.waits ▸ bound)⟩
  obtain ⟨child, sink, member⟩ := memberOf
  have stands := kept.stands index wait child sink found member
  have onceLater killed? (again : .cancel index killed? ∈ more) : False :=
    once killed? (List.mem_append_right _ again)
  have taken := Nursery.taken_of_started ((earlier.move (.cancel index found)).trans later)
    (mem_targets_append (mem_targets_append (mem_targets_of_started member)))
  suffices ∃ ended, last.waits[index]? = some ended ∧
      nursery.Cancelled moves more index (own index) sink wait ended by
    obtain ⟨ended, isEnded, cancelled⟩ := this
    exact ⟨child, sink, ended, member, isEnded, taken, cancelled⟩
  match phase : wait.phase with
  | .over outcome => simp [Wait.outcome?, phase] at unended
  | .collecting process => exact Nursery.cancelled_of_collecting found stands phase later onceLater
  | .relaying output isCancelled =>
    obtain ⟨⟨process, completion, exited, success, rfl⟩, cancelled⟩ :=
      Nursery.exited_of_relaying earlier found phase
    obtain rfl : isCancelled = false := by
      by_contra isTrue
      obtain ⟨killed?, again⟩ := cancelled (by simpa using isTrue)
      exact once killed? (List.mem_append_left _ again)
    exact Nursery.cancelled_of_relaying exited success found stands phase later onceLater

end Ways

/-! ## Two cancelled waits -/

instance : ReturnCodes Endless where
  returnCode? process system := if process ∈ system.killed then some (-9) else none
  returnCode_kill process system := by simp [OperatingSystem.kill]

/-- One wait is cancelled while its command runs, another one while its output is written. -/
theorem both_cancelled :
    ∃ (child : Nat) (sink : Sink) (moves more : List WaitMove) (nursery last : Nursery Endless)
      (wait ended : Wait), nursery.Cancelled moves more 1 True sink wait ended ∧
      (last.children[child]?).map (·.process?) = some none ∧
      last.waits.map (·.phase) = [.over (.cancelled (-9)), .over (.cancelled 0)] ∧
      last.waits.map (·.sink.contents) = [[], [0x31]] := by
  have begun : Nursery.Path (fun _ => True) ⟨Host.endless, [], []⟩ [] ⟨Host.endless, [], []⟩ := .nil
  have spawned := (begun.move (.spawn _ "/bin/sh" "cat" [])).move (.spawn _ "/bin/sh" "echo 1" [])
  have started := (spawned.move (.start 0 rfl .memory)).move (.start 1 rfl .memory)
  have killed := started.move (.cancel 0 rfl)
  have exited := killed.move (.exit 1 rfl rfl ⟨0, [0x31], []⟩)
  obtain ⟨child, sink, ended, isStarted, isEnded, taken, cancelled⟩ :=
    cancelled_wait 1 exited rfl rfl (.move .nil (.relay 1 rfl rfl)) (by simp)
  exact ⟨child, sink, _, _, _, _, _, ended, cancelled, taken, rfl, rfl⟩

end EventHooks
