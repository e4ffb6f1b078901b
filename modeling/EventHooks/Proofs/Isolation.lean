import EventHooks.Event.Stream
import EventHooks.Proofs.Accounting

/-!
# Isolation of failures

A run of a dispatcher over events dispatches each of them and then drains; between its own moves
its hooks are launched, exit and relay in any order, with any results that a system can give. Every
run comes to an end. It ends normally, with every failure reported and every other hook unharmed,
exactly when no text of an event has a null character (`isolated_iff`): a launch that the system is
never asked for crashes its hook, and no one catches that.
-/
namespace EventHooks

/-- Where a run over events stands: events are still to come, or it waits for the hooks. -/
inductive RunPhase
  | reading (rest : List Event)
  | draining (drain : Drain)

/-- A run of a dispatcher over events. -/
structure HookRun (σ : Type) where
  dispatcher : Dispatcher σ
  phase : RunPhase

/-- What happens next in a run: to the run itself, or to the hook at a place. A relay comes with
    the error of its write. -/
inductive RunMove
  | dispatch (event : Event)
  | endOfEvents
  | resume
  | launch (index : Nat) (result : Except RequestError ProcessId)
  | exit (index : Nat) (completion : Completion)
  | relay (index : Nat) (error? : Option OsError)

/-- The place of a hook that could not be launched, exited with another status than zero, or could
    not relay its output. -/
def RunMove.failing? : RunMove → Option Nat
  | .launch index (.error _) => some index
  | .exit index completion => if completion.status = 0 then none else some index
  | .relay index (some _) => some index
  | _ => none

variable {σ : Type}

/-- The moves of a run, each where it can happen. -/
inductive HookRun.Move : HookRun σ → RunMove → HookRun σ → Prop
  | dispatch (dispatcher : Dispatcher σ) (event : Event) (rest : List Event) :
    Move ⟨dispatcher, .reading (event :: rest)⟩ (.dispatch event)
      ⟨dispatcher.dispatch event, .reading rest⟩
  | endOfEvents (dispatcher : Dispatcher σ) :
    Move ⟨dispatcher, .reading []⟩ .endOfEvents ⟨dispatcher, .draining dispatcher.look⟩
  | resume {dispatcher : Dispatcher σ} {indices : List Nat}
    (changes : dispatcher.resume (.awaiting indices) ≠ .awaiting indices) :
    Move ⟨dispatcher, .draining (.awaiting indices)⟩ .resume
      ⟨dispatcher, .draining (dispatcher.resume (.awaiting indices))⟩
  | launch {run : HookRun σ} {index : Nat} {event : Event}
    {result : Except RequestError ProcessId}
    (found : run.dispatcher.hooks[index]? = some ⟨event, .queued⟩)
    (answers : (run.dispatcher.invocation event).Answers result) :
    Move run (.launch index result) ⟨run.dispatcher.step (.launch index result), run.phase⟩
  | exit {run : HookRun σ} {index : Nat} {event : Event} {process : ProcessId}
    (found : run.dispatcher.hooks[index]? = some ⟨event, .running process⟩)
    (completion : Completion) :
    Move run (.exit index completion) ⟨run.dispatcher.step (.exit index completion), run.phase⟩
  | relay {run : HookRun σ} {index : Nat} {event : Event} {output : Bytes}
    (found : run.dispatcher.hooks[index]? = some ⟨event, .relaying output⟩) :
    Move run (.relay index (run.dispatcher.sink.refusal? output))
      ⟨run.dispatcher.step (.relay index), run.phase⟩

/-- The runs from one state to another by some moves, in order. In between, the sink and what is
    not the dispatcher's may change. -/
inductive HookRun.Path (start : HookRun σ) : List RunMove → HookRun σ → Prop
  | nil : Path start [] start
  | move {moves : List RunMove} {move : RunMove} {run next : HookRun σ}
    (path : Path start moves run) (moved : HookRun.Move run move next) :
    Path start (moves ++ [move]) next
  | elsewhere {moves : List RunMove} {run : HookRun σ} {dispatcher : Dispatcher σ}
    (path : Path start moves run) (quiet : run.dispatcher.Quiet dispatcher) :
    Path start moves ⟨dispatcher, run.phase⟩

/-- Nothing more can happen. -/
def HookRun.Complete (run : HookRun σ) : Prop :=
  ∀ move next, ¬ HookRun.Move run move next

/-- The places of the hooks that could not be launched, exited with another status than zero, or
    could not relay, one for each time. -/
def failing (moves : List RunMove) : List Nat :=
  moves.filterMap RunMove.failing?

/-- A run over events has returned normally; each hook has ended, those that had something fail are
    reported and counted one by one, and all others have succeeded. -/
structure HookRun.Isolated (events : List Event) (moves : List RunMove) (run : HookRun σ) :
    Prop where
  returned : run.phase = .draining (.over none)
  pending : run.dispatcher.pending = []
  events : run.dispatcher.hooks.map (·.event) = events
  ended : ∀ hook ∈ run.dispatcher.hooks, hook.isFinished
  counted : run.dispatcher.failures = (failing moves).length
  reported : ∀ index ∈ failing moves, ∃ hook record, run.dispatcher.hooks[index]? = some hook ∧
    hook.report? = some record ∧ record ∈ run.dispatcher.host.spoken .dispatcher
  unharmed : ∀ index event phase, run.dispatcher.hooks[index]? = some ⟨event, phase⟩ →
    index ∉ failing moves → phase = .finished .succeeded

/-! ## Moves of hooks -/

/-- Whether a hook has ended without success. -/
def Hook.isUnsuccessful (hook : Hook) : Bool :=
  match hook.phase with
  | .finished (.failed _) | .finished (.crashed _) => true
  | _ => false

/-- Once launched, a hook has crashed exactly if its event carries a null character. -/
def Hook.Consistent (hook : Hook) : Prop :=
  match hook.phase with
  | .queued => True
  | .finished (.crashed _) => hook.event.CarriesNull
  | _ => ¬ hook.event.CarriesNull

/-- How many moves a hook has before it at most. -/
def HookPhase.remaining : HookPhase → Nat
  | .queued => 3
  | .running _ => 2
  | .relaying _ => 1
  | .finished _ => 0

/-- What a move leaves the hook of an event with: a failure if it was one, a phase that suits the
    event, and less moves before it. -/
structure RunMove.Leaves (move : RunMove) (index : Nat) (event : Event)
    (phase after : HookPhase) : Prop where
  failing : move.failing?.toList = if Hook.isUnsuccessful ⟨event, after⟩ then [index] else []
  consistent : Hook.Consistent ⟨event, after⟩
  remaining : after.remaining < phase.remaining

section Moves

variable {shell command : String} {host : Host σ} {dispatcher : Dispatcher σ} {index : Nat}
  {event : Event} {result : Except RequestError ProcessId}

/-- Whether the system is asked to launch a hook at all depends on the event alone. -/
theorem answers_iff (plainShell : hasNull shell = false) (plainCommand : hasNull command = false)
    (clean : host.environment.Clean) (books : dispatcher.Accounted shell command host) :
    (dispatcher.invocation event).Answers result ↔
      if event.CarriesNull then result = .error (.refused .nullCharacter)
      else ∃ answer : Except OsError ProcessId, result = answer.mapError .system := by
  have refusal := refusal?_shellInvocation plainShell plainCommand clean event
  rw [Dispatcher.invocation, books.shell, books.command, books.environment]
  split_ifs at refusal ⊢ with null
  · refine ⟨fun answers => answers.refused _ refusal, fun same => ⟨?_, ?_⟩⟩
    · intro other isOther
      rw [refusal] at isOther
      rw [same, Option.some.inj isOther]
    · intro none
      rw [refusal] at none
      cases none
  · refine ⟨fun answers => answers.asked refusal, fun asked => ⟨?_, fun _ => asked⟩⟩
    intro other isOther
    rw [refusal] at isOther
    cases isOther

theorem leaves_launch (answers : if event.CarriesNull then result = .error (.refused .nullCharacter)
      else ∃ answer : Except OsError ProcessId, result = answer.mapError .system) :
    (RunMove.launch index result).Leaves index event .queued
      (.afterLaunch shell command result) := by
  by_cases null : event.CarriesNull
  · rw [if_pos null] at answers
    subst answers
    exact ⟨rfl, null, Nat.zero_lt_succ 2⟩
  · rw [if_neg null] at answers
    obtain ⟨error | process, rfl⟩ := answers
    · exact ⟨rfl, null, Nat.zero_lt_succ 2⟩
    · exact ⟨rfl, null, Nat.lt_succ_self 2⟩

theorem leaves_exit (plain : ¬ event.CarriesNull) (process : ProcessId) (completion : Completion) :
    (RunMove.exit index completion).Leaves index event (.running process)
      (.afterExit shell command completion) := by
  unfold HookPhase.afterExit Completion.verdict
  by_cases good : completion.status = 0
  · rw [if_pos good]
    exact ⟨by simp [RunMove.failing?, good, Hook.isUnsuccessful], plain, Nat.lt_succ_self 1⟩
  · rw [if_neg good]
    have fails : (RunMove.exit index completion).failing?.toList = [index] := by
      simp [RunMove.failing?, good]
    cases Utf8.decode? completion.errors with
    | none => exact ⟨fails, plain, Nat.two_pos⟩
    | some errors => exact ⟨fails, plain, Nat.two_pos⟩

theorem leaves_relay (plain : ¬ event.CarriesNull) (sink : Sink) (output : Bytes) :
    (RunMove.relay index (sink.refusal? output)).Leaves index event (.relaying output)
      (.afterRelay shell command sink output) := by
  unfold HookPhase.afterRelay
  cases sink.refusal? output with
  | none => exact ⟨rfl, plain, Nat.one_pos⟩
  | some error => exact ⟨rfl, plain, Nat.one_pos⟩

end Moves

/-! ## What holds in every run -/

/-- The events that are still to come. -/
def RunPhase.rest : RunPhase → List Event
  | .reading rest => rest
  | .draining _ => []

/-- How many moves a run itself has before it at most, besides those for its events. -/
def RunPhase.remaining : RunPhase → Nat
  | .reading _ => 2
  | .draining (.awaiting _) => 1
  | .draining (.over _) => 0

/-- What a run waits for is all that is pending; it is over when that is nothing, or when a hook
    has crashed. -/
def RunPhase.Suits (phase : RunPhase) (dispatcher : Dispatcher σ) : Prop :=
  match phase with
  | .reading _ => True
  | .draining (.awaiting indices) => ∀ index ∈ dispatcher.pending, index ∈ indices
  | .draining (.over none) => dispatcher.pending = []
  | .draining (.over (some refusal)) => ∃ (index : Nat) (event : Event),
      dispatcher.hooks[index]? = some ⟨event, .finished (.crashed refusal)⟩

/-- How many moves a run has before it at most. -/
def HookRun.remaining (run : HookRun σ) : Nat :=
  (run.dispatcher.hooks.map (·.phase.remaining)).sum + 4 * run.phase.rest.length +
    run.phase.remaining

/-- What holds in a run over events after some moves. -/
structure HookRun.Sound (shell command : String) (host : Host σ) (events : List Event)
    (moves : List RunMove) (run : HookRun σ) : Prop where
  books : run.dispatcher.Accounted shell command host
  consistent : ∀ hook ∈ run.dispatcher.hooks, hook.Consistent
  suits : run.phase.Suits run.dispatcher
  failed : ∀ index, index ∈ failing moves ↔
    (run.dispatcher.hooks[index]?).any Hook.isUnsuccessful = true
  count : (failing moves).length = run.dispatcher.hooks.countP Hook.isUnsuccessful
  bound : moves.length + run.remaining ≤ 4 * events.length + 2
  events : run.dispatcher.hooks.map (·.event) ++ run.phase.rest = events

theorem failing_append (moves : List RunMove) (move : RunMove) :
    failing (moves ++ [move]) = failing moves ++ move.failing?.toList := by
  unfold failing
  rw [List.filterMap_append]
  cases failing : move.failing? <;> simp [failing]

section Advances

variable {before after : Dispatcher σ} {index : Nat} {event : Event} {phase next : HookPhase}

/-- A sum over hooks in which one is replaced. -/
theorem sum_map_set {hooks : List Hook} {index : Nat} {old : Hook}
    (found : hooks[index]? = some old) (new : Hook) (weight : Hook → Nat) :
    ((hooks.set index new).map weight).sum + weight old = (hooks.map weight).sum + weight new := by
  induction hooks generalizing index with
  | nil => simp at found
  | cons first rest ih =>
    cases index with
    | zero =>
      obtain rfl : first = old := by simpa using found
      simp only [List.set_cons_zero, List.map_cons, List.sum_cons]
      omega
    | succ index =>
      have found : rest[index]? = some old := by simpa using found
      have rest := ih found
      simp only [List.set_cons_succ, List.map_cons, List.sum_cons]
      omega

theorem hook_advance (advance : before.Advance index event phase next after) (place : Nat) :
    after.hooks[place]? = if place = index then some ⟨event, next⟩ else before.hooks[place]? := by
  rw [advance.hooks]
  by_cases own : place = index
  · rw [own, List.getElem?_set_self (List.getElem?_eq_some_iff.1 advance.found).1, if_pos rfl]
  · rw [List.getElem?_set_ne (Ne.symm own), if_neg own]

/-- A hook that has not ended has not ended without success either. -/
theorem Hook.isUnsuccessful_of_unfinished {hook : Hook} (unfinished : hook.isFinished = false) :
    hook.isUnsuccessful = false := by
  obtain ⟨event, phase⟩ := hook
  cases phase with
  | finished result => simp [Hook.isFinished] at unfinished
  | queued | running _ | relaying _ => rfl

theorem pending_advance (advance : before.Advance index event phase next after) :
    ∀ place ∈ after.pending, place ∈ before.pending := by
  rw [advance.pending]
  split_ifs
  · exact fun place => List.mem_of_mem_erase
  · exact fun place => id

theorem suits_advance {stage : RunPhase} (suits : stage.Suits before)
    (advance : before.Advance index event phase next after) : stage.Suits after := by
  have fewer := pending_advance advance
  match stage with
  | .reading _ => trivial
  | .draining (.awaiting indices) => exact fun place member => suits place (fewer place member)
  | .draining (.over none) =>
    refine List.eq_nil_iff_forall_not_mem.2 fun place member => ?_
    have none := fewer place member
    rw [suits] at none
    cases none
  | .draining (.over (some refusal)) =>
    obtain ⟨place, other, crashed⟩ := suits
    refine ⟨place, other, ?_⟩
    rw [hook_advance advance, if_neg, crashed]
    rintro rfl
    rw [advance.found] at crashed
    obtain ⟨rfl, rfl⟩ := Hook.mk.inj (Option.some.inj crashed)
    exact absurd advance.unfinished (by simp [Hook.isFinished])

end Advances

section Runs

variable {shell command : String} {sink : Sink} {host : Host σ} {events : List Event}
  {moves : List RunMove} {move : RunMove} {run next : HookRun σ} {dispatcher : Dispatcher σ}

theorem sound_start (shell command : String) (sink : Sink) (host : Host σ) (events : List Event) :
    HookRun.Sound shell command host events []
      ⟨.start shell command sink host, .reading events⟩ where
  books := Dispatcher.accounted_start shell command sink host
  consistent := by simp [Dispatcher.start]
  suits := trivial
  failed := by simp [failing, Dispatcher.start]
  count := rfl
  bound := by simp [HookRun.remaining, Dispatcher.start, RunPhase.rest, RunPhase.remaining]
  events := rfl

theorem HookRun.Sound.quiet (sound : run.Sound shell command host events moves)
    (quiet : run.dispatcher.Quiet dispatcher) :
    HookRun.Sound shell command host events moves ⟨dispatcher, run.phase⟩ := by
  obtain ⟨books, consistent, suits, failed, count, bound, events⟩ := sound
  have hooks := quiet.hooks
  have pending := quiet.pending
  refine ⟨books.quiet quiet, ?_, ?_, ?_, ?_, ?_, ?_⟩
  · simpa only [hooks] using consistent
  · unfold RunPhase.Suits at suits ⊢
    simpa only [hooks, pending] using suits
  · simpa only [hooks] using failed
  · simpa only [hooks] using count
  · simpa only [HookRun.remaining, hooks] using bound
  · simpa only [hooks] using events

theorem HookRun.Sound.dispatch {event : Event} {rest : List Event}
    (sound : HookRun.Sound shell command host events moves ⟨dispatcher, .reading (event :: rest)⟩) :
    HookRun.Sound shell command host events (moves ++ [.dispatch event])
      ⟨dispatcher.dispatch event, .reading rest⟩ := by
  obtain ⟨books, consistent, suits, failed, count, bound, events⟩ := sound
  refine ⟨books.dispatch event, ?_, trivial, ?_, ?_, ?_, ?_⟩
  · intro hook member
    rcases List.mem_append.1 member with earlier | own
    · exact consistent hook earlier
    · rw [List.mem_singleton.1 own]
      trivial
  · intro index
    have none : (RunMove.dispatch event).failing?.toList = [] := rfl
    rw [failing_append, none, List.append_nil, failed, Dispatcher.dispatch,
      List.getElem?_append]
    split_ifs with inside
    · rfl
    · rw [List.getElem?_eq_none (Nat.not_lt.1 inside), List.getElem?_singleton]
      split_ifs <;> simp [Hook.isUnsuccessful]
  · simpa [failing_append, RunMove.failing?, Dispatcher.dispatch, Hook.isUnsuccessful] using count
  · have queued : HookPhase.remaining .queued = 3 := rfl
    simp only [HookRun.remaining, Dispatcher.dispatch, List.map_append, List.sum_append,
      List.length_append, RunPhase.rest, RunPhase.remaining, List.length_cons, List.map_cons,
      List.map_nil, List.sum_singleton, List.length_nil, queued] at bound ⊢
    omega
  · simpa [Dispatcher.dispatch, RunPhase.rest] using events

theorem HookRun.Sound.advance {index : Nat} {event : Event} {phase after : HookPhase}
    (sound : run.Sound shell command host events moves)
    (advance : run.dispatcher.Advance index event phase after dispatcher)
    (leaves : move.Leaves index event phase after) :
    HookRun.Sound shell command host events (moves ++ [move]) ⟨dispatcher, run.phase⟩ := by
  obtain ⟨books, consistent, suits, failed, count, bound, events⟩ := sound
  have silent := Hook.isUnsuccessful_of_unfinished advance.unfinished
  obtain ⟨inside, same⟩ := List.getElem?_eq_some_iff.1 advance.found
  refine ⟨books.advance advance, ?_, suits_advance suits advance, ?_, ?_, ?_, ?_⟩
  · rw [advance.hooks]
    intro hook member
    rcases List.mem_or_eq_of_mem_set member with earlier | rfl
    · exact consistent hook earlier
    · exact leaves.consistent
  · intro place
    rw [failing_append, List.mem_append, failed, leaves.failing]
    simp only [hook_advance advance]
    by_cases own : place = index
    · subst own
      rw [advance.found]
      cases ends : Hook.isUnsuccessful ⟨event, after⟩ <;> simp [ends, silent]
    · rw [if_neg own]
      split_ifs <;> simp [own]
  · rw [failing_append, List.length_append, count, leaves.failing, advance.hooks]
    rw [List.countP_set inside, same, silent, if_neg Bool.false_ne_true, Nat.sub_zero]
    split_ifs <;> rfl
  · have sums := sum_map_set advance.found ⟨event, after⟩ (·.phase.remaining)
    have less := leaves.remaining
    simp only [HookRun.remaining, advance.hooks, List.length_append, List.length_singleton] at *
    omega
  · rw [Dispatcher.events_advance advance]
    exact events

/-- A turn of the run itself touches no hook, and brings it nearer to its end. -/
theorem HookRun.Sound.turn {stage later : RunPhase}
    (sound : HookRun.Sound shell command host events moves ⟨dispatcher, stage⟩)
    (silent : move.failing? = none) (suits : later.Suits dispatcher)
    (same : later.rest = stage.rest) (nearer : later.remaining < stage.remaining) :
    HookRun.Sound shell command host events (moves ++ [move]) ⟨dispatcher, later⟩ := by
  obtain ⟨books, consistent, -, failed, count, bound, events⟩ := sound
  have unchanged : failing (moves ++ [move]) = failing moves := by
    rw [failing_append, silent]
    exact List.append_nil _
  refine ⟨books, consistent, suits, ?_, ?_, ?_, ?_⟩
  · rwa [unchanged]
  · rwa [unchanged]
  · simp only [HookRun.remaining, same, List.length_append, List.length_singleton] at bound ⊢
    omega
  · rw [same]
    exact events

theorem suits_look (dispatcher : Dispatcher σ) :
    (RunPhase.draining dispatcher.look).Suits dispatcher := by
  unfold Dispatcher.look
  split_ifs with empty
  · exact List.isEmpty_iff.1 empty
  · exact fun place member => member

theorem remaining_look (dispatcher : Dispatcher σ) :
    (RunPhase.draining dispatcher.look).remaining ≤ 1 := by
  cases dispatcher.look <;> simp [RunPhase.remaining]

theorem crash?_eq_some {index : Nat} {refusal : Refusal}
    (crashed : dispatcher.crash? index = some refusal) :
    ∃ event, dispatcher.hooks[index]? = some ⟨event, .finished (.crashed refusal)⟩ := by
  unfold Dispatcher.crash? at crashed
  split at crashed
  · rename_i event other found
    cases crashed
    exact ⟨event, found⟩
  · cases crashed

/-- When everything that is waited for has ended, a wait for all that is pending is over. -/
theorem pending_of_hasFinished {indices : List Nat}
    (books : dispatcher.Accounted shell command host)
    (waits : ∀ index ∈ dispatcher.pending, index ∈ indices)
    (done : indices.all dispatcher.hasFinished = true) : dispatcher.pending = [] := by
  refine List.eq_nil_iff_forall_not_mem.2 fun index member => ?_
  have ended := List.all_eq_true.1 done index (waits index member)
  rw [books.pending] at member
  exact Dispatcher.hasFinished_iff.1 ended member

/-- A wait for all that is pending either goes on as it is or is over. -/
theorem resume_awaiting {indices : List Nat}
    (books : dispatcher.Accounted shell command host)
    (waits : ∀ index ∈ dispatcher.pending, index ∈ indices) :
    dispatcher.resume (.awaiting indices) = .awaiting indices ∨
      ∃ refusal?, dispatcher.resume (.awaiting indices) = .over refusal? ∧
        (RunPhase.draining (.over refusal?)).Suits dispatcher := by
  simp only [Dispatcher.resume]
  cases crash : indices.findSome? dispatcher.crash? with
  | some refusal =>
    obtain ⟨index, -, crashed⟩ := List.exists_of_findSome?_eq_some crash
    obtain ⟨event, found⟩ := crash?_eq_some crashed
    exact .inr ⟨some refusal, rfl, index, event, found⟩
  | none =>
    by_cases done : indices.all dispatcher.hasFinished = true
    · have nothing := pending_of_hasFinished books waits done
      refine .inr ⟨none, ?_, nothing⟩
      simp [done, Dispatcher.look, nothing]
    · exact .inl (by simp [done])

theorem HookRun.Sound.moved (plainShell : hasNull shell = false)
    (plainCommand : hasNull command = false) (clean : host.environment.Clean)
    (sound : run.Sound shell command host events moves) (moved : HookRun.Move run move next) :
    next.Sound shell command host events (moves ++ [move]) := by
  have books := sound.books
  cases moved with
  | dispatch => exact sound.dispatch
  | endOfEvents dispatcher =>
    exact sound.turn rfl (suits_look dispatcher) rfl (Nat.lt_succ_of_le (remaining_look dispatcher))
  | resume changes =>
    rcases resume_awaiting books sound.suits with goesOn | ⟨refusal?, returned, suits⟩
    · exact absurd goesOn changes
    · rw [returned]
      exact sound.turn rfl suits rfl Nat.one_pos
  | @launch _ index event result found answers =>
    refine sound.advance (Dispatcher.launched_of_queued found result) ?_
    exact leaves_launch ((answers_iff plainShell plainCommand clean books).1 answers)
  | exit found completion =>
    have plain := sound.consistent _ (List.mem_of_getElem? found)
    exact sound.advance (Dispatcher.exited_of_running found completion)
      (leaves_exit plain _ completion)
  | relay found =>
    have plain := sound.consistent _ (List.mem_of_getElem? found)
    exact sound.advance (Dispatcher.relayed_of_relaying found) (leaves_relay plain _ _)

/-- The books of a dispatcher stay right in every run. -/
theorem accounted_path
    (path : HookRun.Path ⟨.start shell command sink host, .reading events⟩ moves run) :
    run.dispatcher.Accounted shell command host := by
  induction path with
  | nil => exact Dispatcher.accounted_start shell command sink host
  | elsewhere _ quiet ih => exact ih.quiet quiet
  | move _ moved ih =>
    cases moved with
    | dispatch => exact ih.dispatch _
    | endOfEvents | resume => exact ih
    | @launch _ index _ result => exact ih.step (.launch index result)
    | @exit _ index _ _ _ completion => exact ih.step (.exit index completion)
    | @relay _ index => exact ih.step (.relay index)

theorem sound_path (plainShell : hasNull shell = false) (plainCommand : hasNull command = false)
    (clean : host.environment.Clean)
    (path : HookRun.Path ⟨.start shell command sink host, .reading events⟩ moves run) :
    run.Sound shell command host events moves := by
  induction path with
  | nil => exact sound_start shell command sink host events
  | move _ moved ih => exact ih.moved plainShell plainCommand clean moved
  | elsewhere _ quiet ih => exact ih.quiet quiet

/-! ## The end of a run -/

/-- Every launch can come to something. -/
theorem exists_answer (invocation : Invocation) : ∃ result, invocation.Answers result := by
  cases refused : invocation.refusal? with
  | some refusal =>
    exact ⟨.error (.refused refusal), by simp [refused], by simp [refused]⟩
  | none => exact ⟨.ok 0, by simp [refused], fun _ => ⟨.ok 0, rfl⟩⟩

theorem isFinished_of_complete (complete : run.Complete) :
    ∀ hook ∈ run.dispatcher.hooks, hook.isFinished := by
  rintro ⟨event, phase⟩ member
  obtain ⟨index, found⟩ := List.mem_iff_getElem?.1 member
  cases phase with
  | queued =>
    obtain ⟨result, answers⟩ := exists_answer (run.dispatcher.invocation event)
    exact absurd (.launch found answers) (complete _ _)
  | running process => exact absurd (.exit found ⟨0, [], []⟩) (complete _ _)
  | relaying output => exact absurd (.relay found) (complete _ _)
  | finished result => rfl

/-- A run has always something before it until it is over. -/
theorem over_of_complete (sound : run.Sound shell command host events moves)
    (complete : run.Complete) : ∃ refusal?, run.phase = .draining (.over refusal?) := by
  have ended := isFinished_of_complete complete
  have nothing := sound.books.pending_eq_nil_iff.2 ended
  obtain ⟨dispatcher, phase⟩ := run
  match phase with
  | .reading [] => exact absurd (.endOfEvents dispatcher) (complete _ _)
  | .reading (event :: rest) => exact absurd (.dispatch dispatcher event rest) (complete _ _)
  | .draining (.over refusal?) => exact ⟨refusal?, rfl⟩
  | .draining (.awaiting indices) =>
    by_cases goesOn : dispatcher.resume (.awaiting indices) = .awaiting indices
    · -- All hooks have ended, so the drain either raises or looks and finds nothing.
      simp only [Dispatcher.resume] at goesOn
      split at goesOn
      · cases goesOn
      · have done := Dispatcher.all_hasFinished (unfinished_eq_nil_iff.2 ended) indices
        rw [if_pos done, Dispatcher.look, nothing] at goesOn
        cases goesOn
    · exact absurd (.resume goesOn) (complete _ _)

/-- A run that is over, with all its hooks ended, has nothing before it. -/
theorem complete_of_over {refusal? : Option Refusal}
    (returned : run.phase = .draining (.over refusal?))
    (ended : ∀ hook ∈ run.dispatcher.hooks, hook.isFinished) : run.Complete := by
  intro move next moved
  cases moved with
  | dispatch | endOfEvents | resume => cases returned
  | launch found | exit found | relay found =>
    have finished := ended _ (List.mem_of_getElem? found)
    cases finished

/-- The hooks of a run are those of its events. -/
theorem HookRun.Sound.plain (sound : run.Sound shell command host events moves)
    (plain : ∀ event ∈ events, ¬ event.CarriesNull) :
    ∀ hook ∈ run.dispatcher.hooks, ¬ hook.event.CarriesNull := by
  intro hook member
  refine plain _ ?_
  rw [← sound.events]
  exact List.mem_append_left _ (List.mem_map_of_mem member)

/-- Without null characters, a run that returns does so normally. -/
theorem HookRun.Sound.normal {refusal? : Option Refusal}
    (sound : run.Sound shell command host events moves)
    (returned : run.phase = .draining (.over refusal?))
    (plain : ∀ event ∈ events, ¬ event.CarriesNull) :
    refusal? = none ∧ run.dispatcher.pending = [] := by
  have suits := sound.suits
  rw [returned] at suits
  cases refusal? with
  | none => exact ⟨rfl, suits⟩
  | some refusal =>
    obtain ⟨index, event, found⟩ := suits
    have member := List.mem_of_getElem? found
    exact absurd (sound.consistent _ member) (sound.plain plain _ member)

/-- Without null characters, a run that is over has nothing before it. -/
theorem complete_of_plain {refusal? : Option Refusal}
    (sound : run.Sound shell command host events moves)
    (returned : run.phase = .draining (.over refusal?))
    (plain : ∀ event ∈ events, ¬ event.CarriesNull) : run.Complete := by
  have nothing := (sound.normal returned plain).2
  exact complete_of_over returned (sound.books.pending_eq_nil_iff.1 nothing)

theorem Hook.result_cases {hook : Hook} (finished : hook.isFinished) :
    hook.phase = .finished .succeeded ∨ hook.hasFailed ∨
      ∃ refusal, hook.phase = .finished (.crashed refusal) := by
  obtain ⟨event, phase⟩ := hook
  match phase with
  | .finished .succeeded => exact .inl rfl
  | .finished (.failed _) => exact .inr (.inl rfl)
  | .finished (.crashed refusal) => exact .inr (.inr ⟨refusal, rfl⟩)

/-- Without null characters, no hook has crashed. -/
theorem isUnsuccessful_eq_hasFailed {hook : Hook} (consistent : hook.Consistent)
    (plain : ¬ hook.event.CarriesNull) : hook.isUnsuccessful = hook.hasFailed := by
  obtain ⟨event, phase⟩ := hook
  match phase with
  | .queued | .running _ | .relaying _ | .finished .succeeded | .finished (.failed _) => rfl
  | .finished (.crashed refusal) => exact absurd consistent plain

section Plain

variable (sound : run.Sound shell command host events moves)
  (plain : ∀ event ∈ events, ¬ event.CarriesNull)

include sound plain

theorem HookRun.Sound.isUnsuccessful_eq : ∀ hook ∈ run.dispatcher.hooks,
    hook.isUnsuccessful = hook.hasFailed :=
  fun hook member => isUnsuccessful_eq_hasFailed (sound.consistent hook member)
    (sound.plain plain hook member)

theorem HookRun.Sound.counted : run.dispatcher.failures = (failing moves).length := by
  rw [sound.books.failures, sound.count]
  refine List.countP_congr fun hook member => ?_
  rw [sound.isUnsuccessful_eq plain hook member]

/-- Where something has failed, the hook has a report, which is among the records. -/
theorem HookRun.Sound.reported {index : Nat} (member : index ∈ failing moves) :
    ∃ hook record, run.dispatcher.hooks[index]? = some hook ∧ hook.report? = some record ∧
      record ∈ run.dispatcher.host.spoken .dispatcher := by
  obtain ⟨hook, found, unsuccessful⟩ := (Option.any_eq_true _ _).1 ((sound.failed index).1 member)
  have inHooks := List.mem_of_getElem? found
  rw [sound.isUnsuccessful_eq plain hook inHooks, ← Hook.report?_isSome] at unsuccessful
  obtain ⟨record, report⟩ := Option.isSome_iff_exists.1 unsuccessful
  refine ⟨hook, record, found, report, ?_⟩
  rw [sound.books.reports.mem_iff]
  exact List.mem_append_right _ (List.mem_filterMap.2 ⟨hook, inHooks, report⟩)

/-- Where nothing has failed, a hook that has ended has succeeded. -/
theorem HookRun.Sound.unharmed {index : Nat} {hook : Hook}
    (found : run.dispatcher.hooks[index]? = some hook) (finished : hook.isFinished)
    (unfailing : index ∉ failing moves) : hook.phase = .finished .succeeded := by
  have inHooks := List.mem_of_getElem? found
  rw [sound.failed, found, Option.any_some, sound.isUnsuccessful_eq plain _ inHooks,
    Bool.not_eq_true] at unfailing
  rcases Hook.result_cases finished with succeeded | failed | ⟨refusal, crashed⟩
  · exact succeeded
  · rw [failed] at unfailing
    cases unfailing
  · have consistent := sound.consistent _ inHooks
    rw [Hook.Consistent, crashed] at consistent
    exact absurd consistent (sound.plain plain _ inHooks)

theorem isolated_of_plain (complete : run.Complete) : run.Isolated events moves := by
  have ended := isFinished_of_complete complete
  obtain ⟨refusal?, returned⟩ := over_of_complete sound complete
  obtain ⟨rfl, nothing⟩ := sound.normal returned plain
  have same := sound.events
  rw [returned, RunPhase.rest, List.append_nil] at same
  refine ⟨returned, nothing, same, ended, sound.counted plain, ?_, ?_⟩
  · exact fun index member => sound.reported plain member
  · exact fun index event phase found unfailing =>
      sound.unharmed plain found (ended _ (List.mem_of_getElem? found)) unfailing

end Plain

theorem plain_of_isolated (sound : run.Sound shell command host events moves)
    (isolated : run.Isolated events moves) : ∀ event ∈ events, ¬ event.CarriesNull := by
  intro event member null
  rw [← isolated.events] at member
  obtain ⟨⟨event, phase⟩, inHooks, rfl⟩ := List.mem_map.1 member
  obtain ⟨index, found⟩ := List.mem_iff_getElem?.1 inHooks
  have ended := isolated.ended _ inHooks
  have consistent := sound.consistent _ inHooks
  -- The hook of such an event has crashed, which is a failure that no record reports.
  match phase with
  | .finished (.crashed refusal) =>
    have failed : index ∈ failing moves := by
      rw [sound.failed, found]
      rfl
    obtain ⟨hook, record, same, report, -⟩ := isolated.reported index failed
    rw [found] at same
    cases same
    cases report
  | .finished .succeeded | .finished (.failed _) => exact consistent null
  | .queued | .running _ | .relaying _ => cases ended

/-- Every run over events, in whatever order its hooks are launched, exit and relay, has at most
    four moves for each event and two more. Where it ends it has returned, normally or not; and it
    has returned normally with every failure isolated exactly if no event carries a null
    character. -/
theorem isolated_iff (plainShell : hasNull shell = false) (plainCommand : hasNull command = false)
    (clean : host.environment.Clean)
    (path : HookRun.Path ⟨.start shell command sink host, .reading events⟩ moves run) :
    moves.length ≤ 4 * events.length + 2 ∧
      (run.Complete → (∃ refusal?, run.phase = .draining (.over refusal?)) ∧
        (run.Isolated events moves ↔ ∀ event ∈ events, ¬ event.CarriesNull)) := by
  have sound := sound_path plainShell plainCommand clean path
  have bound := sound.bound
  refine ⟨by omega, fun complete => ⟨over_of_complete sound complete, ?_, ?_⟩⟩
  · exact plain_of_isolated sound
  · exact fun plain => isolated_of_plain sound plain complete

end Runs

/-- A dispatcher with the hook of one event in its queue. -/
def Dispatcher.single (command : String) (event : Event) : Dispatcher Unit :=
  (start "/bin/sh" command .memory Host.bare).dispatch event

theorem Dispatcher.single_found (command : String) (event : Event) :
    (single command event).hooks[0]? = some ⟨event, .queued⟩ := rfl

/-- A command that exits with the status 1 is reported and counted. -/
theorem isolated_exit :
    ∃ (moves : List RunMove) (run : HookRun Unit), moves.length ≤ 6 ∧
      run.Isolated [.volumeChanged 5] moves ∧ run.dispatcher.failures = 1 := by
  have clean : Host.bare.environment.Clean := by simp [Environment.Clean, Host.bare]
  have plain : ∀ event ∈ [Event.volumeChanged 5], ¬ event.CarriesNull := by decide
  have dispatched := HookRun.Path.nil.move
    (.dispatch (.start "/bin/sh" "false" .memory Host.bare) (.volumeChanged 5) [])
  have books := (sound_path (by decide) (by decide) clean dispatched).books
  have answers : ((Dispatcher.single "false" (.volumeChanged 5)).invocation
      (.volumeChanged 5)).Answers (.ok 7) :=
    (answers_iff (by decide) (by decide) clean books).2 ⟨.ok 7, rfl⟩
  have launched := dispatched.move
    (.launch (Dispatcher.single_found "false" (.volumeChanged 5)) answers)
  have drained := launched.move (.endOfEvents _)
  have running : ((Dispatcher.single "false" (.volumeChanged 5)).step
      (.launch 0 (.ok 7))).hooks[0]? = some ⟨.volumeChanged 5, .running 7⟩ := rfl
  have exited := drained.move (.exit running ⟨1, [], []⟩)
  have resumed := exited.move (.resume (by decide))
  obtain ⟨bound, ends⟩ := isolated_iff (by decide) (by decide) clean resumed
  refine ⟨_, _, bound, (ends (complete_of_over rfl ?_)).2.2 plain, rfl⟩
  decide

/-- An event with a null character in a text. -/
def nullEvent : Event := .sessionConnected "a\x00b" "u"

/-- The line that gives it. -/
def nullLine : String :=
  "\x7b\"event\":\"SessionConnected\",\"connection_id\":\"a\\u0000b\",\"user_name\":\"u\"\x7d"

/-- The launch of its hook is never asked of the system. The drain that waits for it raises, nothing
    is counted and nothing is reported. -/
theorem null_character_escapes :
    (Stream.readLine nullLine).toOption = some nullEvent ∧
      ∃ (moves : List RunMove) (run : HookRun Unit),
        HookRun.Path ⟨.start "/bin/sh" "true" .memory Host.bare, .reading [nullEvent]⟩ moves run ∧
        run.Complete ∧ run.phase = .draining (.over (some .nullCharacter)) ∧
        failing moves = [0] ∧ run.dispatcher.failures = 0 ∧
        run.dispatcher.host.spoken .dispatcher = [] ∧
        ¬ run.Isolated [nullEvent] moves := by
  have decoded : (Stream.readLine nullLine).toOption = some nullEvent := by decide +kernel
  have clean : Host.bare.environment.Clean := by simp [Environment.Clean, Host.bare]
  refine ⟨decoded, ?_⟩
  have dispatched := HookRun.Path.nil.move
    (.dispatch (.start "/bin/sh" "true" .memory Host.bare) nullEvent [])
  have drained := dispatched.move (.endOfEvents _)
  have books := (sound_path (by decide) (by decide) clean drained).books
  have answers : ((Dispatcher.single "true" nullEvent).invocation nullEvent).Answers
      (.error (.refused .nullCharacter)) :=
    (answers_iff (by decide) (by decide) clean books).2 rfl
  have launched := drained.move (.launch (Dispatcher.single_found "true" nullEvent) answers)
  have resumed := launched.move (.resume (by decide))
  refine ⟨_, _, resumed, complete_of_over rfl ?_, rfl, rfl, rfl, rfl, fun isolated => ?_⟩
  · decide
  · cases isolated.returned

end EventHooks
