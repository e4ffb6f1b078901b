import EventHooks.Hook.Child
import Mathlib.Data.List.Basic

/-!
# A single wait

Children are spawned, waits on them start, processes exit, outputs are relayed and waits are
cancelled, in any order. The first wait on a child takes its process; it alone collects the process
and writes to a sink. Every later wait on the child is refused (`single_wait`).
-/
namespace EventHooks

/-! ## Moves -/

/-- What happens next to children or to the waits on them. A relay comes with the error of its
write, and a cancellation with the process that it kills and the status that this leaves. -/
inductive WaitMove
  | spawn (result : Except RunError Child)
  | start (child : Nat) (sink : Sink)
  | exit (wait : Nat) (process : ProcessId) (completion : Completion)
  | relay (wait : Nat) (output : Bytes) (error? : Option OsError)
  | cancel (wait : Nat) (killed? : Option (ProcessId × Int))

namespace WaitMove

/-- The process of a child that is spawned. -/
def spawned? : WaitMove → Option ProcessId
  | .spawn (.ok child) => child.process?
  | _ => none

/-- The child on which a wait starts, with the sink of the wait. -/
def started? : WaitMove → Option (Nat × Sink)
  | .start child sink => some (child, sink)
  | _ => none

/-- The wait that collects a process, with the process; one that is killed is collected, too. -/
def collected? : WaitMove → Option (Nat × ProcessId)
  | .exit wait process _ => some (wait, process)
  | .cancel wait (some (process, _)) => some (wait, process)
  | _ => none

/-- The wait that writes to its sink. -/
def writer? : WaitMove → Option Nat
  | .relay wait _ _ => some wait
  | _ => none

end WaitMove

section Histories

variable (moves : List WaitMove)

/-- The processes of the children, in order. -/
def spawned : List ProcessId :=
  moves.filterMap WaitMove.spawned?

/-- The waits, in order, each as the child that it is on and its sink. -/
def started : List (Nat × Sink) :=
  moves.filterMap WaitMove.started?

/-- The children that the waits are on, in order. -/
def targets : List Nat :=
  (started moves).map (·.1)

/-- The waits that have collected a process, each with the process. -/
def collected : List (Nat × ProcessId) :=
  moves.filterMap WaitMove.collected?

/-- The waits that have written to their sinks. -/
def writers : List Nat :=
  moves.filterMap WaitMove.writer?

/-- A wait is on a child, and it is the first one. -/
def IsFirst (wait child : Nat) : Prop :=
  (targets moves)[wait]? = some child ∧ child ∉ (targets moves).take wait

/-- The child that a move is about, after some moves; one that is spawned is a new one. -/
def WaitMove.child? : WaitMove → Option Nat
  | .spawn _ => some (spawned moves).length
  | .start child _ => some child
  | .exit wait _ _ | .relay wait _ _ | .cancel wait _ => (targets moves)[wait]?

end Histories

variable {σ : Type}

/-- The nursery on another host, with other sinks. -/
def Nursery.beside (nursery : Nursery σ) (host : Host σ) (sinks : Nat → Sink) : Nursery σ :=
  { nursery with
    host := host
    waits := nursery.waits.mapIdx fun index wait => { wait with sink := sinks index } }

theorem Nursery.waits_beside {nursery : Nursery σ} {host : Host σ} {sinks : Nat → Sink}
    {index : Nat} {wait : Wait} (found : (nursery.beside host sinks).waits[index]? = some wait) :
    ∃ old, nursery.waits[index]? = some old ∧ wait = { old with sink := sinks index } := by
  simp only [beside, List.getElem?_mapIdx, Option.map_eq_some_iff] at found
  obtain ⟨old, isOld, rfl⟩ := found
  exact ⟨old, isOld, rfl⟩

section Moves

variable [OperatingSystem σ]

/-- The moves, each where it can happen. -/
inductive Nursery.Move : Nursery σ → WaitMove → Nursery σ → Prop
  | spawn (nursery : Nursery σ) (shell command : String) (added : Environment) :
    Move nursery (.spawn (nursery.spawn shell command added).1)
      (nursery.spawn shell command added).2
  | start {nursery : Nursery σ} {child : Child} (index : Nat)
    (found : nursery.children[index]? = some child) (sink : Sink) :
    Move nursery (.start index sink) (nursery.beginWait index sink)
  | exit {nursery : Nursery σ} {wait : Wait} {process : ProcessId} (index : Nat)
    (found : nursery.waits[index]? = some wait) (phase : wait.phase = .collecting process)
    (completion : Completion) :
    Move nursery (.exit index process completion) (nursery.exit index completion)
  | relay {nursery : Nursery σ} {wait : Wait} {output : Bytes} {isCancelled : Bool} (index : Nat)
    (found : nursery.waits[index]? = some wait)
    (phase : wait.phase = .relaying output isCancelled) :
    Move nursery (.relay index output (wait.sink.refusal? output)) (nursery.relay index)
  | cancel {nursery : Nursery σ} {wait : Wait} (index : Nat)
    (found : nursery.waits[index]? = some wait) :
    Move nursery (.cancel index (wait.process?.map fun process =>
      (process, (nursery.host.kill process).1))) (nursery.cancel index)

/-- The ways from one state to another by some moves, in order. In between, the host may change, and
so may the sinks of waits that are not their own: they are shared, among waits or with others. -/
inductive Nursery.Path (own : Nat → Prop) (first : Nursery σ) : List WaitMove → Nursery σ → Prop
  | nil : Path own first [] first
  | move {moves : List WaitMove} {move : WaitMove} {nursery next : Nursery σ}
    (path : Path own first moves nursery) (moved : Nursery.Move nursery move next) :
    Path own first (moves ++ [move]) next
  | elsewhere {moves : List WaitMove} {nursery : Nursery σ} (path : Path own first moves nursery)
    (host : Host σ) (sinks : Nat → Sink)
    (kept : ∀ index wait, own index → nursery.waits[index]? = some wait →
      sinks index = wait.sink) :
    Path own first moves (nursery.beside host sinks)

end Moves

/-! ## Histories -/

section Appended

variable {moves : List WaitMove} {move : WaitMove}

@[simp]
theorem spawned_append : spawned (moves ++ [move]) = spawned moves ++ move.spawned?.toList := by
  cases given : move.spawned? <;> simp [spawned, given]

@[simp]
theorem started_append : started (moves ++ [move]) = started moves ++ move.started?.toList := by
  cases given : move.started? <;> simp [started, given]

@[simp]
theorem collected_append :
    collected (moves ++ [move]) = collected moves ++ move.collected?.toList := by
  cases given : move.collected? <;> simp [collected, given]

@[simp]
theorem writers_append : writers (moves ++ [move]) = writers moves ++ move.writer?.toList := by
  cases given : move.writer? <;> simp [writers, given]

@[simp]
theorem targets_append : targets (moves ++ [move]) =
    targets moves ++ (move.started?.map (·.1)).toList := by
  cases given : move.started? <;> simp [targets, given]

theorem length_targets : (targets moves).length = (started moves).length :=
  List.length_map ..

theorem IsFirst.append {wait child : Nat} (first : IsFirst moves wait child) :
    IsFirst (moves ++ [move]) wait child := by
  have bound := (List.getElem?_eq_some_iff.1 first.1).1
  unfold IsFirst
  rw [targets_append, List.getElem?_append_left bound,
    List.take_append_of_le_length (Nat.le_of_lt bound)]
  exact first

end Appended

/-! ## What a move changes -/

/-- A relay ends the wait, and a wait that was cancelled as such. -/
theorem Wait.relay_of_relaying {wait : Wait} {output : Bytes} {isCancelled : Bool}
    (phase : wait.phase = .relaying output isCancelled) :
    ∃ outcome, wait.relay =
      { wait with phase := .over outcome, sink := (wait.sink.write output).2 } ∧
        outcome ≠ .alreadyWaited ∧ (isCancelled = true → outcome = .cancelled 0) := by
  simp only [Wait.relay, phase]
  refine ⟨_, rfl, ?_, fun isTrue => by rw [isTrue, if_pos rfl]⟩
  split
  · simp
  · cases (wait.sink.write output).1 <;> simp

namespace Nursery

/-- A move of a wait changes nothing but the wait. Only a wait that collects can give up its
process, only one that relays writes, and no wait collects afterwards. -/
structure Turn (before : Nursery σ) (move : WaitMove) (index : Nat) (old new : Wait)
    (after : Nursery σ) : Prop where
  found : before.waits[index]? = some old
  waits : after.waits = before.waits.set index new
  children : after.children = before.children
  spawned : move.spawned? = none
  started : move.started? = none
  collected : ∀ entry, move.collected? = some entry →
    entry.1 = index ∧ old.phase = .collecting entry.2
  writer : ∀ wait, move.writer? = some wait → wait = index ∧ old.outcome? = none
  refused : new.phase = .over .alreadyWaited ↔ old.phase = .over .alreadyWaited
  released : ∀ process, new.phase ≠ .collecting process
  unended : new.outcome? = none → old.outcome? = none ∧ move.writer? = none
  sink : move.writer? = none → new.sink = old.sink

section Turns

variable {nursery : Nursery σ} {index : Nat} {wait : Wait}

theorem onWait_of_found (found : nursery.waits[index]? = some wait)
    (change : Wait → Host σ → Wait × Host σ) :
    nursery.onWait index change = { nursery with
      host := (change wait nursery.host).2
      waits := nursery.waits.set index (change wait nursery.host).1 } := by
  simp only [onWait, found]

theorem turn_exit {process : ProcessId} (found : nursery.waits[index]? = some wait)
    (phase : wait.phase = .collecting process) (completion : Completion) :
    Turn nursery (.exit index process completion) index wait
      (wait.exit completion nursery.host).1 (nursery.exit index completion) := by
  have fate : ((wait.exit completion nursery.host).1.phase ≠ .over .alreadyWaited ∧
      ∀ process, (wait.exit completion nursery.host).1.phase ≠ .collecting process) ∧
      (wait.exit completion nursery.host).1.sink = wait.sink := by
    simp only [Wait.exit, phase]
    cases completion.verdict wait.shell wait.command <;> simp
  obtain ⟨⟨accepted, released⟩, sink⟩ := fate
  refine ⟨found, ?_, ?_, rfl, rfl, ?_, by simp [WaitMove.writer?], ?_, released, ?_, fun _ => sink⟩
  · rw [exit, onWait_of_found found]
  · rw [exit, onWait_of_found found]
  · rintro _ ⟨⟩
    exact ⟨rfl, phase⟩
  · simp [accepted, phase]
  · exact fun _ => ⟨by simp [Wait.outcome?, phase], rfl⟩

theorem turn_relay {output : Bytes} {isCancelled : Bool} (found : nursery.waits[index]? = some wait)
    (phase : wait.phase = .relaying output isCancelled) :
    Turn nursery (.relay index output (wait.sink.refusal? output)) index wait wait.relay
      (nursery.relay index) := by
  obtain ⟨outcome, ended, accepted, -⟩ := Wait.relay_of_relaying phase
  have isOver : wait.relay.phase = .over outcome := by rw [ended]
  refine ⟨found, ?_, ?_, rfl, rfl, by simp [WaitMove.collected?], ?_, ?_, ?_, ?_, ?_⟩
  · rw [relay, onWait_of_found found]
  · rw [relay, onWait_of_found found]
  · rintro _ ⟨⟩
    exact ⟨rfl, by simp [Wait.outcome?, phase]⟩
  · simp [isOver, accepted, phase]
  · simp [isOver]
  · simp [Wait.outcome?, isOver]
  · simp [WaitMove.writer?]

section Killing

variable [OperatingSystem σ]

theorem cancel_of_found (found : nursery.waits[index]? = some wait) :
    ∃ status host, nursery.cancel index = { nursery with
      host := host
      waits := nursery.waits.set index (wait.cancel status) } := by
  rw [cancel, onWait_of_found found]
  cases wait.process? with
  | none => exact ⟨0, nursery.host, rfl⟩
  | some process => exact ⟨_, _, rfl⟩

theorem turn_cancel (found : nursery.waits[index]? = some wait) :
    ∃ status, Turn nursery (.cancel index (wait.process?.map fun process =>
      (process, (nursery.host.kill process).1))) index wait (wait.cancel status)
      (nursery.cancel index) := by
  obtain ⟨status, host, same⟩ := cancel_of_found found
  have collects {entry : Nat × ProcessId} (member : WaitMove.collected? (.cancel index
      (wait.process?.map fun process => (process, (nursery.host.kill process).1))) = some entry) :
      entry.1 = index ∧ wait.phase = .collecting entry.2 := by
    match phase : wait.phase with
    | .collecting process =>
      simp only [Wait.process?, phase] at member
      cases member
      exact ⟨rfl, rfl⟩
    | .relaying _ _ | .over _ => simp [Wait.process?, phase, WaitMove.collected?] at member
  refine ⟨status, found, ?_, ?_, rfl, rfl, fun _ => collects, ?_, ?_, ?_, ?_, ?_⟩
  · rw [same]
  · rw [same]
  · simp [WaitMove.writer?]
  all_goals
    cases phase : wait.phase <;> simp [Wait.cancel, Wait.outcome?, WaitMove.writer?, phase]

/-- A spawn adds a child with its process, or fails and adds none. -/
theorem spawn_cases (nursery : Nursery σ) (shell command : String) (added : Environment) :
    (∃ process host, nursery.spawn shell command added = (.ok ⟨shell, command, some process⟩,
      { nursery with
        host := host
        children := nursery.children ++ [⟨shell, command, some process⟩] })) ∨
    ∃ error host, nursery.spawn shell command added =
      (.error error, { nursery with host := host }) := by
  rw [spawn]
  unfold Host.spawn
  dsimp only
  split
  · exact .inr ⟨_, _, rfl⟩
  · exact .inl ⟨_, _, rfl⟩

end Killing

end Turns

end Nursery

/-! ## What every way keeps -/

/-- Where a wait stands that was started on a child. It was refused exactly if there was an earlier
one. While it collects it has the process of the child and has not collected before, and until it
has ended it has not written. A sink of its own is as it was until it has written. -/
structure Wait.Stands (own : Nat → Prop) (moves : List WaitMove) (index child : Nat) (sink : Sink)
    (wait : Wait) : Prop where
  refused : wait.phase = .over .alreadyWaited ↔ child ∈ (targets moves).take index
  collecting : ∀ process, wait.phase = .collecting process →
    (spawned moves)[child]? = some process ∧ index ∉ (collected moves).map (·.1)
  unended : wait.outcome? = none → index ∉ writers moves
  sink : own index → index ∉ writers moves → wait.sink = sink

/-- What every way keeps. A child has its process exactly until a wait on it starts, and only the
first wait on a child collects its process or writes, each at most once. -/
structure Nursery.Kept (own : Nat → Prop) (moves : List WaitMove) (nursery : Nursery σ) :
    Prop where
  children : nursery.children.length = (spawned moves).length
  processes : ∀ child, (nursery.children[child]?).map (·.process?) =
    ((spawned moves)[child]?).map fun process =>
      if child ∈ targets moves then none else some process
  known : ∀ child ∈ targets moves, child < (spawned moves).length
  waits : nursery.waits.length = (started moves).length
  stands : ∀ (index : Nat) (wait : Wait) (child : Nat) (sink : Sink),
    nursery.waits[index]? = some wait → (started moves)[index]? = some (child, sink) →
      wait.Stands own moves index child sink
  collectors : ∀ entry ∈ collected moves, ∃ child, IsFirst moves entry.1 child ∧
    (spawned moves)[child]? = some entry.2
  collectedOnce : ((collected moves).map (·.1)).Nodup
  authors : ∀ index ∈ writers moves, ∃ child, IsFirst moves index child
  writtenOnce : (writers moves).Nodup

section Kept

variable {own : Nat → Prop} {moves : List WaitMove} {move : WaitMove} {nursery : Nursery σ}
  {index child : Nat} {sink : Sink} {wait : Wait}

theorem mem_targets_of_started (member : (started moves)[index]? = some (child, sink)) :
    (targets moves)[index]? = some child := by
  simp [targets, member]

theorem getElem?_spawned_append {process : ProcessId}
    (found : (spawned moves)[child]? = some process) :
    (spawned (moves ++ [move]))[child]? = some process := by
  rw [spawned_append, List.getElem?_append_left (List.getElem?_eq_some_iff.1 found).1, found]

/-- A wait stands where it stood if a move is none of its own. -/
theorem Wait.Stands.append (stands : wait.Stands own moves index child sink)
    (member : (started moves)[index]? = some (child, sink))
    (notCollected : ∀ entry, move.collected? = some entry → entry.1 ≠ index)
    (notWriter : move.writer? ≠ some index) :
    wait.Stands own (moves ++ [move]) index child sink := by
  have bound : index ≤ (targets moves).length :=
    Nat.le_of_lt (List.getElem?_eq_some_iff.1 (mem_targets_of_started member)).1
  have sameWriters : index ∈ writers (moves ++ [move]) ↔
      index ∈ writers moves := by
    simp [notWriter]
  refine ⟨?_, fun process phase => ?_, ?_, ?_⟩
  · rw [targets_append, List.take_append_of_le_length bound]
    exact stands.refused
  · obtain ⟨found, uncollected⟩ := stands.collecting process phase
    refine ⟨getElem?_spawned_append found, ?_⟩
    rw [collected_append, List.map_append, List.mem_append, not_or]
    refine ⟨uncollected, fun collects => ?_⟩
    obtain ⟨entry, given, same⟩ := List.mem_map.1 collects
    exact notCollected entry (Option.mem_toList.1 given) same
  · rw [sameWriters]
    exact stands.unended
  · rw [sameWriters]
    exact stands.sink

/-- A wait that takes its turn stands where it should. -/
theorem Wait.Stands.turn {nursery next : Nursery σ} {old new : Wait}
    (stands : old.Stands own moves index child sink)
    (turn : Nursery.Turn nursery move index old new next) :
    new.Stands own (moves ++ [move]) index child sink where
  refused := by
    have same : targets (moves ++ [move]) = targets moves := by simp [turn.started]
    rw [turn.refused, same, stands.refused]
  collecting process phase := absurd phase (turn.released process)
  unended unended := by
    obtain ⟨earlier, silent⟩ := turn.unended unended
    simpa [silent] using stands.unended earlier
  sink isOwn unwritten := by
    rw [writers_append, List.mem_append, not_or] at unwritten
    have silent : move.writer? = none := by
      cases given : move.writer? with
      | none => rfl
      | some writer =>
        obtain ⟨rfl, -⟩ := turn.writer writer given
        exact absurd (by simp [given]) unwritten.2
    rw [turn.sink silent]
    exact stands.sink isOwn unwritten.1

namespace Nursery

theorem kept_start (own : Nat → Prop) (host : Host σ) :
    Kept own [] (⟨host, [], []⟩ : Nursery σ) := by
  constructor <;> simp [spawned, started, targets, collected, EventHooks.writers]

theorem Kept.elsewhere (kept : nursery.Kept own moves) (host : Host σ) (sinks : Nat → Sink)
    (same : ∀ index wait, own index → nursery.waits[index]? = some wait → sinks index = wait.sink) :
    (nursery.beside host sinks).Kept own moves where
  children := kept.children
  processes := kept.processes
  known := kept.known
  waits := by
    rw [← kept.waits]
    exact List.length_mapIdx
  stands index wait child sink found member := by
    obtain ⟨old, isOld, rfl⟩ := waits_beside found
    obtain ⟨refused, collecting, unended, untouched⟩ :=
      kept.stands index old child sink isOld member
    refine ⟨refused, collecting, unended, fun isOwn silent => ?_⟩
    rw [← untouched isOwn silent]
    exact same index old isOwn isOld
  collectors := kept.collectors
  collectedOnce := kept.collectedOnce
  authors := kept.authors
  writtenOnce := kept.writtenOnce

/-- A wait that has collected or written was started. -/
theorem lt_of_isFirst (first : IsFirst moves index child) : index < (started moves).length := by
  rw [← length_targets]
  exact (List.getElem?_eq_some_iff.1 first.1).1

theorem Kept.uncollected_of_length (kept : nursery.Kept own moves) :
    (started moves).length ∉ (collected moves).map (·.1) := by
  intro member
  obtain ⟨entry, isEntry, same⟩ := List.mem_map.1 member
  obtain ⟨child, first, -⟩ := kept.collectors entry isEntry
  exact absurd (lt_of_isFirst first) (by omega)

theorem Kept.unwritten_of_length (kept : nursery.Kept own moves) :
    (started moves).length ∉ EventHooks.writers moves := by
  intro member
  obtain ⟨child, first⟩ := kept.authors _ member
  exact absurd (lt_of_isFirst first) (by omega)

/-- What a move adds to the histories is in order if its wait is the first on its child and has not
collected or written before. -/
theorem Kept.append {next : Nursery σ} (kept : nursery.Kept own moves)
    (children : next.children.length = (spawned (moves ++ [move])).length)
    (processes : ∀ child, (next.children[child]?).map (·.process?) =
      ((spawned (moves ++ [move]))[child]?).map fun process =>
        if child ∈ targets (moves ++ [move]) then none else some process)
    (target : ∀ child ∈ move.started?.map (·.1), child < (spawned moves).length)
    (waits : next.waits.length = (started (moves ++ [move])).length)
    (stands : ∀ (index : Nat) (wait : Wait) (child : Nat) (sink : Sink),
      next.waits[index]? = some wait → (started (moves ++ [move]))[index]? = some (child, sink) →
        wait.Stands own (moves ++ [move]) index child sink)
    (collects : ∀ entry, move.collected? = some entry →
      entry.1 ∉ (collected moves).map (·.1) ∧
        ∃ child, IsFirst moves entry.1 child ∧ (spawned moves)[child]? = some entry.2)
    (writes : ∀ index, move.writer? = some index →
      index ∉ EventHooks.writers moves ∧ ∃ child, IsFirst moves index child) :
    next.Kept own (moves ++ [move]) where
  children := children
  processes := processes
  known child member := by
    rw [targets_append, List.mem_append, Option.mem_toList] at member
    rw [spawned_append, List.length_append]
    rcases member with old | new
    · exact Nat.lt_add_right _ (kept.known child old)
    · exact Nat.lt_add_right _ (target child new)
  waits := waits
  stands := stands
  collectors entry member := by
    rw [collected_append, List.mem_append, Option.mem_toList] at member
    have first : ∃ child, IsFirst moves entry.1 child ∧ (spawned moves)[child]? = some entry.2 := by
      rcases member with old | new
      · exact kept.collectors entry old
      · exact (collects entry new).2
    obtain ⟨child, first, process⟩ := first
    exact ⟨child, first.append, getElem?_spawned_append process⟩
  collectedOnce := by
    rw [collected_append, List.map_append]
    refine List.nodup_append.2 ⟨kept.collectedOnce, ?_, ?_⟩
    · cases move.collected? <;> simp
    · rintro index old _ new rfl
      obtain ⟨entry, given, rfl⟩ := List.mem_map.1 new
      exact (collects entry (Option.mem_toList.1 given)).1 old
  authors index member := by
    rw [writers_append, List.mem_append, Option.mem_toList] at member
    have first : ∃ child, IsFirst moves index child := by
      rcases member with old | new
      · exact kept.authors index old
      · exact (writes index new).2
    obtain ⟨child, first⟩ := first
    exact ⟨child, first.append⟩
  writtenOnce := by
    rw [writers_append]
    refine List.nodup_append.2 ⟨kept.writtenOnce, ?_, ?_⟩
    · cases move.writer? <;> simp
    · rintro index old _ new rfl
      exact (writes index (Option.mem_toList.1 new)).1 old

theorem Kept.process_of_found {child : Child} (kept : nursery.Kept own moves)
    (found : nursery.children[index]? = some child) :
    child.process? = if index ∈ targets moves then none else (spawned moves)[index]? := by
  have bound : index < (spawned moves).length :=
    kept.children ▸ (List.getElem?_eq_some_iff.1 found).1
  have known := kept.processes index
  rw [found, List.getElem?_eq_getElem bound] at known
  rw [List.getElem?_eq_getElem bound]
  exact Option.some.inj known

/-- A wait that starts stands where it should: it has the process of the child, or is refused. -/
theorem Kept.stands_started {child : Child} (kept : nursery.Kept own moves)
    (found : nursery.children[index]? = some child) (sink : Sink) :
    Wait.Stands own (moves ++ [.start index sink]) (started moves).length index sink
      ⟨child.shell, child.command, child.process?.elim (.over .alreadyWaited) .collecting, sink⟩ := by
  have process := kept.process_of_found found
  have bound : index < (spawned moves).length :=
    kept.children ▸ (List.getElem?_eq_some_iff.1 found).1
  have earlier : (targets (moves ++ [.start index sink])).take (started moves).length =
      targets moves := by
    rw [← length_targets, targets_append, List.take_left]
  refine ⟨?_, fun taken phase => ?_, fun _ => ?_, fun _ _ => rfl⟩
  · rw [earlier, process, List.getElem?_eq_getElem bound]
    split <;> simp [*]
  · have isProcess : (spawned moves)[index]? = some taken := by
      rw [process, List.getElem?_eq_getElem bound] at phase
      split at phase
      · cases phase
      · cases phase
        exact List.getElem?_eq_getElem bound
    refine ⟨getElem?_spawned_append isProcess, ?_⟩
    simpa [WaitMove.collected?] using kept.uncollected_of_length
  · simpa [WaitMove.writer?] using kept.unwritten_of_length

section Steps

variable [OperatingSystem σ]

theorem Kept.spawn (kept : nursery.Kept own moves) (shell command : String)
    (added : Environment) :
    (nursery.spawn shell command added).2.Kept own
      (moves ++ [.spawn (nursery.spawn shell command added).1]) := by
  have stands (result : Except RunError Child) (index : Nat) (wait : Wait) (child : Nat)
      (sink : Sink) (found : nursery.waits[index]? = some wait)
      (member : (started (moves ++ [.spawn result]))[index]? = some (child, sink)) :
      wait.Stands own (moves ++ [.spawn result]) index child sink := by
    have member : (started moves)[index]? = some (child, sink) := by
      simpa [WaitMove.started?] using member
    exact (kept.stands index wait child sink found member).append member
      (by simp [WaitMove.collected?]) (by simp [WaitMove.writer?])
  rcases nursery.spawn_cases shell command added with
    ⟨process, host, same⟩ | ⟨error, host, same⟩
  · rw [same]
    refine kept.append ?_ (fun place => ?_) (by simp [WaitMove.started?]) ?_ (stands _)
      (by simp [WaitMove.collected?]) (by simp [WaitMove.writer?])
    · simp [WaitMove.spawned?, kept.children]
    · have fresh : (spawned moves).length ∉ targets moves := fun member =>
        absurd (kept.known _ member) (Nat.lt_irrefl _)
      have old := kept.processes place
      simp only [spawned_append, targets_append, WaitMove.spawned?, WaitMove.started?,
        Option.toList_some, Option.map_none, Option.toList_none, List.append_nil]
      rcases Nat.lt_trichotomy place (spawned moves).length with inside | rfl | outside
      · rw [List.getElem?_append_left inside, List.getElem?_append_left (kept.children ▸ inside),
          old]
      · rw [List.getElem?_concat_length, ← kept.children, List.getElem?_concat_length,
          kept.children]
        simp [fresh]
      · rw [List.getElem?_eq_none, List.getElem?_eq_none]
        · rfl
        · rw [List.length_append, List.length_singleton]
          omega
        · rw [List.length_append, List.length_singleton, kept.children]
          omega
    · simp [WaitMove.started?, kept.waits]
  · rw [same]
    refine kept.append ?_ ?_ (by simp [WaitMove.started?]) ?_ (stands _)
      (by simp [WaitMove.collected?]) (by simp [WaitMove.writer?])
    · simp [WaitMove.spawned?, kept.children]
    · simpa [WaitMove.spawned?, WaitMove.started?] using kept.processes
    · simp [WaitMove.started?, kept.waits]

theorem beginWait_of_found {child : Child} (found : nursery.children[index]? = some child)
    (sink : Sink) : ∃ host, nursery.beginWait index sink = {
      host := host
      children := nursery.children.set index { child with process? := none }
      waits := nursery.waits ++ [⟨child.shell, child.command,
        child.process?.elim (.over .alreadyWaited) .collecting, sink⟩] } := by
  obtain ⟨shell, command, process?⟩ := child
  simp only [beginWait, found, Child.beginWait]
  cases process? with
  | none => exact ⟨_, rfl⟩
  | some process => exact ⟨_, rfl⟩

theorem Kept.start {child : Child} (kept : nursery.Kept own moves)
    (found : nursery.children[index]? = some child) (sink : Sink) :
    (nursery.beginWait index sink).Kept own (moves ++ [.start index sink]) := by
  obtain ⟨host, same⟩ := beginWait_of_found found sink
  have bound : index < (spawned moves).length :=
    kept.children ▸ (List.getElem?_eq_some_iff.1 found).1
  rw [same]
  refine kept.append ?_ (fun place => ?_) ?_ ?_ (fun place wait target given isWait member => ?_)
      (by simp [WaitMove.collected?]) (by simp [WaitMove.writer?])
  · simp [WaitMove.spawned?, kept.children]
  · simp only [spawned_append, targets_append, WaitMove.spawned?, WaitMove.started?,
      Option.map_some, Option.toList_some, Option.toList_none, List.append_nil]
    by_cases ours : place = index
    · rw [ours, List.getElem?_set_self (kept.children ▸ bound), List.getElem?_eq_getElem bound]
      simp
    · rw [List.getElem?_set_ne (Ne.symm ours), kept.processes place]
      simp [ours]
  · simpa [WaitMove.started?] using bound
  · simp [WaitMove.started?, kept.waits]
  · rcases Nat.lt_trichotomy place nursery.waits.length with inside | rfl | outside
    · rw [List.getElem?_append_left inside] at isWait
      rw [started_append, List.getElem?_append_left (kept.waits ▸ inside)] at member
      exact (kept.stands place wait target given isWait member).append member
        (by simp [WaitMove.collected?]) (by simp [WaitMove.writer?])
    · rw [List.getElem?_concat_length] at isWait
      rw [started_append, kept.waits, WaitMove.started?, Option.toList_some,
        List.getElem?_concat_length] at member
      cases isWait
      cases member
      rw [kept.waits]
      exact kept.stands_started found sink
    · rw [List.getElem?_eq_none] at isWait
      · cases isWait
      · rw [List.length_append, List.length_singleton]
        omega

end Steps

theorem Kept.turn {next : Nursery σ} {old new : Wait} (kept : nursery.Kept own moves)
    (turn : Turn nursery move index old new next) : next.Kept own (moves ++ [move]) := by
  have bound : index < nursery.waits.length := (List.getElem?_eq_some_iff.1 turn.found).1
  have memberOf : ∃ child sink, (started moves)[index]? = some (child, sink) :=
    ⟨_, _, List.getElem?_eq_getElem (kept.waits ▸ bound)⟩
  obtain ⟨child, sink, member⟩ := memberOf
  have stands := kept.stands index old child sink turn.found member
  have isFirst (accepted : old.phase ≠ .over .alreadyWaited) : IsFirst moves index child :=
    ⟨mem_targets_of_started member, fun earlier => accepted (stands.refused.2 earlier)⟩
  have sameStarted : started (moves ++ [move]) = started moves := by simp [turn.started]
  have sameTargets : targets (moves ++ [move]) = targets moves := by simp [turn.started]
  have sameSpawned : spawned (moves ++ [move]) = spawned moves := by simp [turn.spawned]
  refine kept.append ?_ ?_ ?_ ?_ (fun place wait target given isWait isMember => ?_)
    (fun entry collects => ?_) (fun writer writes => ?_)
  · rw [turn.children, sameSpawned, kept.children]
  · rw [turn.children, sameSpawned, sameTargets]
    exact kept.processes
  · simp [turn.started]
  · rw [turn.waits, List.length_set, sameStarted, kept.waits]
  · rw [sameStarted] at isMember
    rw [turn.waits] at isWait
    by_cases ours : place = index
    · rw [ours] at isWait isMember ⊢
      rw [List.getElem?_set_self bound] at isWait
      rw [member] at isMember
      cases isWait
      cases isMember
      exact stands.turn turn
    · rw [List.getElem?_set_ne (Ne.symm ours)] at isWait
      refine (kept.stands place wait target given isWait isMember).append isMember
        (fun entry collects same => ours ?_) (fun writes => ours ?_)
      · rw [← same, (turn.collected entry collects).1]
      · exact (turn.writer place writes).1
  · obtain ⟨same, phase⟩ := turn.collected entry collects
    obtain ⟨process, uncollected⟩ := stands.collecting _ phase
    rw [same]
    exact ⟨uncollected, child, isFirst (by simp [phase]), process⟩
  · obtain ⟨rfl, unended⟩ := turn.writer writer writes
    refine ⟨stands.unended unended, child, isFirst fun refused => ?_⟩
    simp [Wait.outcome?, refused] at unended

section Ways

variable [OperatingSystem σ]

theorem Kept.moved {next : Nursery σ} (kept : nursery.Kept own moves)
    (moved : Nursery.Move nursery move next) : next.Kept own (moves ++ [move]) := by
  cases moved with
  | spawn shell command added => exact kept.spawn shell command added
  | start index found sink => exact kept.start found sink
  | exit index found phase completion => exact kept.turn (turn_exit found phase completion)
  | relay index found phase => exact kept.turn (turn_relay found phase)
  | cancel index found =>
    obtain ⟨status, turn⟩ := turn_cancel found
    exact kept.turn turn

theorem kept_path {host : Host σ} (path : Path own ⟨host, [], []⟩ moves nursery) :
    nursery.Kept own moves := by
  induction path with
  | nil => exact kept_start own host
  | move _ moved ih => exact ih.moved moved
  | elsewhere _ host sinks same ih => exact ih.elsewhere host sinks same

end Ways

end Nursery

end Kept

/-! ## One wait for each child -/

/-- Of the waits on a child only the first collects the process, which is the child's, and only the
first writes, each at most once; every later one is refused. A child has its process exactly until a
wait on it starts. -/
structure Nursery.WaitedOnce (own : Nat → Prop) (moves : List WaitMove) (nursery : Nursery σ) :
    Prop where
  processes : ∀ child, (nursery.children[child]?).map (·.process?) =
    ((spawned moves)[child]?).map fun process =>
      if child ∈ targets moves then none else some process
  collectors : ∀ entry ∈ collected moves, ∃ child, IsFirst moves entry.1 child ∧
    (spawned moves)[child]? = some entry.2
  collectedOnce : ∀ child, ((collected moves).map (·.1)).countP
    (fun index => (targets moves)[index]? = some child) ≤ 1
  authors : ∀ index ∈ writers moves, ∃ child, IsFirst moves index child
  writtenOnce : ∀ child, (writers moves).countP
    (fun index => (targets moves)[index]? = some child) ≤ 1
  refused : ∀ (index child : Nat) (sink : Sink), (started moves)[index]? = some (child, sink) →
    ∃ wait, nursery.waits[index]? = some wait ∧
      (wait.phase = .over .alreadyWaited ↔ child ∈ (targets moves).take index) ∧
      (own index → index ∉ writers moves → wait.sink = sink)

/-- A move leaves alone every child that it is not about, and all waits on it. -/
def Nursery.Apart (moves : List WaitMove) (move : WaitMove) (before after : Nursery σ) : Prop :=
  ∀ child, move.child? moves ≠ some child →
    after.children[child]? = before.children[child]? ∧
      ∀ index : Nat, (targets moves)[index]? = some child →
        after.waits[index]? = before.waits[index]?

section Single

variable {own : Nat → Prop} {moves : List WaitMove} {move : WaitMove} {nursery next : Nursery σ}

theorem IsFirst.unique {index other child : Nat} (first : IsFirst moves index child)
    (otherFirst : IsFirst moves other child) : index = other := by
  have notEarlier {index other : Nat} (first : IsFirst moves index child)
      (otherFirst : IsFirst moves other child) : ¬ index < other := by
    intro earlier
    have taken : ((targets moves).take other)[index]? = some child := by
      rw [List.getElem?_take_of_lt earlier, first.1]
    exact otherFirst.2 (List.mem_of_getElem? taken)
  exact Nat.le_antisymm (Nat.not_lt.1 (notEarlier otherFirst first))
    (Nat.not_lt.1 (notEarlier first otherFirst))

/-- Of distinct waits of which each is the first on its child, at most one is on a child. -/
theorem countP_le_one {waits : List Nat} (distinct : waits.Nodup)
    (first : ∀ index ∈ waits, ∃ child, IsFirst moves index child) (child : Nat) :
    waits.countP (fun index => (targets moves)[index]? = some child) ≤ 1 := by
  rw [List.countP_eq_length_filter]
  have isFirst {index : Nat} (member : index ∈ waits.filter fun index =>
      (targets moves)[index]? = some child) : IsFirst moves index child := by
    obtain ⟨isWait, target⟩ := List.mem_filter.1 member
    obtain ⟨other, otherTarget, fresh⟩ := first index isWait
    have target : (targets moves)[index]? = some child := by simpa using target
    obtain rfl : other = child := Option.some.inj (otherTarget.symm.trans target)
    exact ⟨target, fresh⟩
  have distinct := distinct.filter fun index => (targets moves)[index]? = some child
  match kept : waits.filter fun index => (targets moves)[index]? = some child with
  | [] => simp
  | [index] => simp
  | index :: other :: rest =>
    rw [kept] at distinct isFirst
    have same := (isFirst List.mem_cons_self).unique
      (isFirst (List.mem_cons_of_mem _ List.mem_cons_self))
    simp [same] at distinct

theorem Nursery.Kept.waitedOnce (kept : nursery.Kept own moves) :
    nursery.WaitedOnce own moves where
  processes := kept.processes
  collectors := kept.collectors
  collectedOnce := countP_le_one kept.collectedOnce fun index member => by
    obtain ⟨entry, isEntry, rfl⟩ := List.mem_map.1 member
    obtain ⟨child, first, -⟩ := kept.collectors entry isEntry
    exact ⟨child, first⟩
  authors := kept.authors
  writtenOnce := countP_le_one kept.writtenOnce kept.authors
  refused index child sink member := by
    have bound : index < nursery.waits.length :=
      kept.waits ▸ (List.getElem?_eq_some_iff.1 member).1
    have stands := kept.stands index _ child sink (List.getElem?_eq_getElem bound) member
    exact ⟨_, List.getElem?_eq_getElem bound, stands.refused, stands.sink⟩

theorem Nursery.Turn.apart {index : Nat} {old new : Wait}
    (turn : Turn nursery move index old new next) (child : Nat)
    (other : (targets moves)[index]? ≠ some child) :
    next.children[child]? = nursery.children[child]? ∧
      ∀ place : Nat, (targets moves)[place]? = some child →
        next.waits[place]? = nursery.waits[place]? := by
  rw [turn.children, turn.waits]
  refine ⟨rfl, fun place target => List.getElem?_set_ne ?_⟩
  rintro rfl
  exact other target

variable [OperatingSystem σ]

theorem Nursery.Kept.apart (kept : nursery.Kept own moves)
    (moved : Nursery.Move nursery move next) : Nursery.Apart moves move nursery next := by
  intro child other
  cases moved with
  | spawn shell command added =>
    rcases nursery.spawn_cases shell command added with
      ⟨process, host, same⟩ | ⟨error, host, same⟩
    · rw [same]
      refine ⟨?_, fun _ _ => rfl⟩
      have different : nursery.children.length ≠ child := by
        rw [kept.children]
        exact fun same => other (congrArg some same)
      rcases Nat.lt_or_gt_of_ne different with outside | inside
      · rw [List.getElem?_eq_none (Nat.le_of_lt outside), List.getElem?_eq_none]
        rw [List.length_append, List.length_singleton]
        omega
      · exact List.getElem?_append_left inside
    · rw [same]
      exact ⟨rfl, fun _ _ => rfl⟩
  | start index found sink =>
    obtain ⟨host, same⟩ := Nursery.beginWait_of_found found sink
    rw [same]
    refine ⟨List.getElem?_set_ne fun same => other (congrArg some same), fun index target => ?_⟩
    have bound : index < nursery.waits.length := by
      rw [kept.waits, ← length_targets]
      exact (List.getElem?_eq_some_iff.1 target).1
    exact List.getElem?_append_left bound
  | exit index found phase completion =>
    exact (Nursery.turn_exit found phase completion).apart child other
  | relay index found phase => exact (Nursery.turn_relay found phase).apart child other
  | cancel index found =>
    obtain ⟨status, turn⟩ := Nursery.turn_cancel found
    exact turn.apart child other

/-- Whatever is spawned, waited on and cancelled, and in whatever order: only the first wait on a
child collects its process and writes, each at most once, all later ones are refused, a child has
its process exactly until its first wait, and no move on a child touches another. -/
theorem single_wait {host : Host σ} (path : Nursery.Path own ⟨host, [], []⟩ moves nursery) :
    nursery.WaitedOnce own moves ∧
      ∀ move next, Nursery.Move nursery move next → Nursery.Apart moves move nursery next :=
  ⟨(Nursery.kept_path path).waitedOnce, fun _ _ moved => (Nursery.kept_path path).apart moved⟩

end Single

/-! ## Settling -/

section Settling

variable {own : Nat → Prop} {first nursery : Nursery σ} {moves : List WaitMove}

theorem Nursery.beside_same (nursery : Nursery σ) (host : Host σ) :
    nursery.beside host (fun index => ((nursery.waits[index]?).map (·.sink)).getD {}) =
      { nursery with host := host } := by
  unfold beside
  congr 1
  refine List.ext_getElem? fun index => ?_
  rw [List.getElem?_mapIdx]
  cases found : nursery.waits[index]? with
  | none => rfl
  | some wait => simp [found]

theorem Nursery.mem_collecting {indices : List Nat} {entry : Nat × ProcessId}
    (member : entry ∈ nursery.collecting indices) :
    ∃ wait, nursery.waits[entry.1]? = some wait ∧ wait.phase = .collecting entry.2 := by
  obtain ⟨index, -, given⟩ := List.mem_filterMap.1 member
  simp only [Option.map_eq_some_iff, Option.bind_eq_some_iff] at given
  obtain ⟨process, ⟨wait, found, isProcess⟩, rfl⟩ := given
  refine ⟨wait, found, ?_⟩
  unfold Wait.process? at isProcess
  split at isProcess
  · rename_i phase
    rw [phase, Option.some.inj isProcess]
  · cases isProcess

variable [OperatingSystem σ]

theorem Nursery.Path.onHost (path : Path own first moves nursery) (host : Host σ) :
    Path own first moves { nursery with host := host } := by
  rw [← nursery.beside_same host]
  refine path.elsewhere host _ fun index wait _ found => ?_
  rw [found]
  rfl

/-- The relay of a wait is a move, if there is anything to relay. -/
theorem Nursery.Path.relay (path : Path own first moves nursery) (index : Nat) :
    ∃ more, Path own first (moves ++ more) (nursery.relay index) := by
  cases found : nursery.waits[index]? with
  | none => exact ⟨[], by simpa [Nursery.relay, onWait, found] using path⟩
  | some wait =>
    match phase : wait.phase with
    | .relaying output isCancelled => exact ⟨_, path.move (.relay index found phase)⟩
    | .collecting _ | .over _ =>
      have same : wait.relay = wait := by simp only [Wait.relay, phase]
      have unchanged : nursery.relay index = nursery := by
        obtain ⟨bound, isWait⟩ := List.getElem?_eq_some_iff.1 found
        rw [Nursery.relay, onWait_of_found found, same, ← isWait, List.set_getElem_self]
      exact ⟨[], by simpa [unchanged] using path⟩

/-- Waiting for the next command is an exit, if any command runs. -/
theorem Nursery.Path.exitNext (path : Path own first moves nursery) (indices : List Nat) :
    ∃ more, Path own first (moves ++ more) (nursery.exitNext indices) := by
  unfold Nursery.exitNext
  cases running : nursery.collecting indices with
  | nil => exact ⟨[], by simpa using path⟩
  | cons entry others =>
    obtain ⟨index, process⟩ := entry
    rcases collected : nursery.host.collect process (others.map (·.2)) with
      ⟨⟨ended, completion⟩, host⟩
    have member : ∃ process, ((((others.find? (·.2 == ended)).map (·.1)).getD index), process) ∈
        nursery.collecting indices := by
      rw [running]
      cases found : others.find? (·.2 == ended) with
      | none => exact ⟨process, List.mem_cons_self⟩
      | some other => exact ⟨other.2, List.mem_cons_of_mem _ (List.mem_of_find?_eq_some found)⟩
    obtain ⟨process, collecting⟩ := member
    obtain ⟨wait, found, phase⟩ := mem_collecting collecting
    simp only [collected]
    exact ⟨_, (path.onHost host).move
      (@Nursery.Move.exit _ _ { nursery with host := host } _ _ _ found phase completion)⟩

theorem Nursery.Path.foldl {step : Nursery σ → Nat → Nursery σ}
    (isPath : ∀ {moves : List WaitMove} {nursery : Nursery σ}, Path own first moves nursery →
      ∀ index, ∃ more, Path own first (moves ++ more) (step nursery index))
    (path : Path own first moves nursery) (indices : List Nat) :
    ∃ more, Path own first (moves ++ more) (indices.foldl step nursery) := by
  induction indices generalizing moves nursery with
  | nil => exact ⟨[], by simpa using path⟩
  | cons index rest ih =>
    obtain ⟨one, stepped⟩ := isPath path index
    obtain ⟨others, finished⟩ := ih stepped
    exact ⟨one ++ others, by simpa using finished⟩

/-- Letting commands exit and their relays end is nothing but moves. -/
theorem Nursery.Path.settle (path : Path own first moves nursery) (indices : List Nat) :
    ∃ more, Path own first (moves ++ more) (nursery.settle indices) := by
  obtain ⟨exits, exited⟩ := path.foldl (fun path _ => path.exitNext indices) indices
  obtain ⟨relays, settled⟩ := exited.foldl (fun path index => path.relay index) indices
  exact ⟨exits ++ relays, by simpa [Nursery.settle] using settled⟩

end Settling

/-! ## A second wait -/

/-- A system of processes that go on until they are killed: how many it has launched, and those that
were killed. -/
structure Endless where
  launched : Nat := 0
  killed : List ProcessId := []

instance : OperatingSystem Endless where
  launch _ _ files system := (.ok system.launched, files,
    { system with launched := system.launched + 1 })
  closeInput _ system := system
  collect process _ files system := ((process, ⟨-9, [], []⟩), files, system)
  kill process system := (-9, { system with killed := process :: system.killed })
  elapse _ files system := (files, system)

/-- A host on which processes go on until they are killed. -/
def Host.endless : Host Endless := { environment := [], files := ⟨[], []⟩, system := {} }

/-- A second wait is refused while the first one still collects. -/
theorem second_wait_refused :
    ∃ moves, ∃ nursery : Nursery Endless, nursery.WaitedOnce (fun _ => True) moves ∧
      nursery.children.map (·.process?) = [none] ∧
      nursery.waits.map (·.phase) = [.over .relayed, .over .alreadyWaited] ∧
      nursery.waits.map (·.sink.contents) = [[0x31], []] := by
  have begun : Nursery.Path (fun _ => True) ⟨Host.endless, [], []⟩ [] ⟨Host.endless, [], []⟩ := .nil
  have child := begun.move (.spawn _ "/bin/sh" "true" [])
  have first := child.move (.start 0 rfl .memory)
  have second := first.move (.start 0 rfl .memory)
  have exited := second.move (.exit 0 rfl rfl ⟨0, [0x31], []⟩)
  have relayed := exited.move (.relay 0 rfl rfl)
  exact ⟨_, _, (single_wait relayed).1, rfl, rfl, rfl⟩

end EventHooks
