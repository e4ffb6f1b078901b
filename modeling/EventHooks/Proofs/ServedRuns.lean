import EventHooks.Proofs.Isolation

/-!
# Runs that a system serves

In a served run, every launch of a hook and every exit of a command is what the operating system
answers when it is asked for it, on the files as they are then, and nothing else is asked of it.
Such a run is one of the runs over its events (`HookRun.Served.path`). When a run has ended, each of
its hooks was launched once, and the command of each one that could be launched was waited for until
it had exited (`Dispatcher.InPhase.waitedFor`).
-/
namespace EventHooks

variable {σ : Type}

/-- Whether a move is one that the system has to answer. -/
def RunMove.asks : RunMove → Bool
  | .launch _ _ | .exit _ _ => true
  | .dispatch _ | .endOfEvents | .resume | .relay _ _ => false

/-- The runs from one state to another by some moves, in order, in which the system answers each
launch and each exit. What else happens is the log of the rest of the program. -/
inductive HookRun.Served [OperatingSystem σ] (start : HookRun σ) : List RunMove → HookRun σ → Prop
  | nil : Served start [] start
  | own {moves : List RunMove} {move : RunMove} {run next : HookRun σ}
    (served : Served start moves run) (moved : HookRun.Move run move next)
    (unasked : move.asks = false) : Served start (moves ++ [move]) next
  | launch {moves : List RunMove} {run : HookRun σ} {index : Nat} {event : Event}
    {files : FileStore} {system : σ} {result : Except RequestError ProcessId}
    (served : Served start moves run)
    (found : run.dispatcher.hooks[index]? = some ⟨event, .queued⟩)
    (asks : run.dispatcher.Asks event files system result) :
    Served start (moves ++ [.launch index result])
      ⟨(run.dispatcher.beside files system).step (.launch index result), run.phase⟩
  | exit {moves : List RunMove} {run : HookRun σ} {index : Nat} {event : Event}
    {process : ProcessId} {files : FileStore} {system : σ} {completion : Completion}
    (served : Served start moves run)
    (found : run.dispatcher.hooks[index]? = some ⟨event, .running process⟩)
    (collects : run.dispatcher.Collects process files system completion) :
    Served start (moves ++ [.exit index completion])
      ⟨(run.dispatcher.beside files system).step (.exit index completion), run.phase⟩
  | log {moves : List RunMove} {run : HookRun σ} (served : Served start moves run)
    (level : LogLevel) {source : LogSource} (other : source ≠ .dispatcher) (message : String) :
    Served start moves
      ⟨{ run.dispatcher with host := run.dispatcher.host.log level source message }, run.phase⟩

section Served

variable [OperatingSystem σ] {start middle last run : HookRun σ} {moves more : List RunMove}

theorem HookRun.Served.append (earlier : HookRun.Served start moves middle)
    (later : HookRun.Served middle more last) : HookRun.Served start (moves ++ more) last := by
  induction later with
  | nil =>
    rw [List.append_nil]
    exact earlier
  | own _ moved unasked ih =>
    rw [← List.append_assoc]
    exact ih.own moved unasked
  | launch _ found asks ih =>
    rw [← List.append_assoc]
    exact ih.launch found asks
  | exit _ found collects ih =>
    rw [← List.append_assoc]
    exact ih.exit found collects
  | log _ level other message ih => exact ih.log level other message

/-- Whatever a system answers, it is one of the runs over the events. -/
theorem HookRun.Served.path (served : HookRun.Served start moves last) :
    HookRun.Path start moves last := by
  induction served with
  | nil => exact .nil
  | own _ moved _ ih => exact ih.move moved
  | @launch _ run _ _ files system _ _ found asks ih =>
    have beside := ih.elsewhere (run.dispatcher.quiet_beside files system)
    exact beside.move (.launch found asks.answers)
  | @exit _ run _ _ _ files system completion _ found _ ih =>
    have beside := ih.elsewhere (run.dispatcher.quiet_beside files system)
    refine beside.move ?_
    apply HookRun.Move.exit
    exact found
  | log _ level other message ih => exact ih.elsewhere (Dispatcher.quiet_log _ level other message)

end Served

/-! ## Launches and exits -/

/-- The result of a launch of the hook at a place. -/
def RunMove.launchResult? (index : Nat) : RunMove → Option (Except RequestError ProcessId)
  | .launch place result => if place = index then some result else none
  | _ => none

/-- What the command of the hook at a place has left behind when it exited. -/
def RunMove.completion? (index : Nat) : RunMove → Option Completion
  | .exit place completion => if place = index then some completion else none
  | _ => none

/-- The results of the launches of the hook at a place, in order. -/
def launchResults (moves : List RunMove) (index : Nat) : List (Except RequestError ProcessId) :=
  moves.filterMap (·.launchResult? index)

/-- What the commands of the hook at a place have left behind, in order. -/
def completions (moves : List RunMove) (index : Nat) : List Completion :=
  moves.filterMap (·.completion? index)

/-- The hook at a place was launched once, and if this has started its command, the exit of the
command was waited for. -/
inductive WaitedFor (moves : List RunMove) (index : Nat) : Prop
  | started (process : ProcessId) (completion : Completion)
    (launched : launchResults moves index = [.ok process])
    (exited : completions moves index = [completion])
  | unstarted (error : RequestError) (launched : launchResults moves index = [.error error])
    (exited : completions moves index = [])

/-- The phases that the hook at a place can have after some moves. -/
inductive HookPhase.Follows (moves : List RunMove) (index : Nat) : HookPhase → Prop
  | queued (unlaunched : launchResults moves index = []) (unexited : completions moves index = []) :
    Follows moves index .queued
  | running {process : ProcessId} (launched : launchResults moves index = [.ok process])
    (unexited : completions moves index = []) : Follows moves index (.running process)
  | relaying {process : ProcessId} {completion : Completion}
    (launched : launchResults moves index = [.ok process])
    (exited : completions moves index = [completion]) (output : Bytes) :
    Follows moves index (.relaying output)
  | finished (waited : WaitedFor moves index) (result : HookResult) :
    Follows moves index (.finished result)

/-- The phase of the hook at a place, which is yet to be queued where there is none. -/
def Dispatcher.phaseAt (dispatcher : Dispatcher σ) (index : Nat) : HookPhase :=
  ((dispatcher.hooks[index]?).map (·.phase)).getD .queued

/-- Each hook stands where its launches and exits among some moves have led it. -/
def Dispatcher.InPhase (dispatcher : Dispatcher σ) (moves : List RunMove) : Prop :=
  ∀ index, (dispatcher.phaseAt index).Follows moves index

section Phases

variable {moves : List RunMove} {move : RunMove} {dispatcher before after : Dispatcher σ}
  {index : Nat} {event : Event} {phase next : HookPhase}

theorem RunMove.launchResult?_eq_some_iff {result : Except RequestError ProcessId} :
    move.launchResult? index = some result ↔ move = .launch index result := by
  cases move <;> simp [RunMove.launchResult?]

theorem RunMove.completion?_eq_some_iff {completion : Completion} :
    move.completion? index = some completion ↔ move = .exit index completion := by
  cases move <;> simp [RunMove.completion?]

theorem mem_launchResults {result : Except RequestError ProcessId} :
    result ∈ launchResults moves index ↔ .launch index result ∈ moves := by
  simp [launchResults, RunMove.launchResult?_eq_some_iff]

theorem mem_completions {completion : Completion} :
    completion ∈ completions moves index ↔ .exit index completion ∈ moves := by
  simp [completions, RunMove.completion?_eq_some_iff]

theorem launchResults_concat (moves : List RunMove) (move : RunMove) (index : Nat) :
    launchResults (moves ++ [move]) index =
      launchResults moves index ++ (move.launchResult? index).toList := by
  rw [launchResults, List.filterMap_append, launchResults]
  cases result : move.launchResult? index <;> simp [result]

theorem completions_concat (moves : List RunMove) (move : RunMove) (index : Nat) :
    completions (moves ++ [move]) index =
      completions moves index ++ (move.completion? index).toList := by
  rw [completions, List.filterMap_append, completions]
  cases left : move.completion? index <;> simp [left]

/-- A move that launches nothing at a place and lets nothing exit there leads its hook nowhere. -/
theorem HookPhase.Follows.elsewhere (follows : phase.Follows moves index)
    (launches : move.launchResult? index = none) (exits : move.completion? index = none) :
    phase.Follows (moves ++ [move]) index := by
  have launched : launchResults (moves ++ [move]) index = launchResults moves index := by
    rw [launchResults_concat, launches, Option.toList_none, List.append_nil]
  have exited : completions (moves ++ [move]) index = completions moves index := by
    rw [completions_concat, exits, Option.toList_none, List.append_nil]
  cases follows with
  | queued unlaunched unexited =>
    exact .queued (launched.trans unlaunched) (exited.trans unexited)
  | running isLaunched unexited =>
    exact .running (launched.trans isLaunched) (exited.trans unexited)
  | relaying isLaunched isExited output =>
    exact .relaying (launched.trans isLaunched) (exited.trans isExited) output
  | finished waited result =>
    refine .finished ?_ result
    cases waited with
    | started process completion isLaunched isExited =>
      exact .started process completion (launched.trans isLaunched) (exited.trans isExited)
    | unstarted error isLaunched unexited =>
      exact .unstarted error (launched.trans isLaunched) (exited.trans unexited)

/-- A queued hook after its launch. -/
theorem HookPhase.Follows.launch (follows : HookPhase.queued.Follows moves index)
    (shell command : String) (result : Except RequestError ProcessId) :
    (HookPhase.afterLaunch shell command result).Follows (moves ++ [.launch index result])
      index := by
  cases follows with
  | queued unlaunched unexited =>
    have launched : launchResults (moves ++ [.launch index result]) index = [result] := by
      simp [launchResults_concat, unlaunched, RunMove.launchResult?]
    have exited : completions (moves ++ [.launch index result]) index = [] := by
      simp [completions_concat, unexited, RunMove.completion?]
    rcases result with (error | refusal) | process
    · exact .finished (.unstarted _ launched exited) _
    · exact .finished (.unstarted _ launched exited) _
    · exact .running launched exited

/-- A running hook after the exit of its command. -/
theorem HookPhase.Follows.exit {process : ProcessId}
    (follows : (HookPhase.running process).Follows moves index) (shell command : String)
    (completion : Completion) :
    (HookPhase.afterExit shell command completion).Follows (moves ++ [.exit index completion])
      index := by
  cases follows with
  | running isLaunched unexited =>
    have launched : launchResults (moves ++ [.exit index completion]) index = [.ok process] := by
      simp [launchResults_concat, isLaunched, RunMove.launchResult?]
    have exited : completions (moves ++ [.exit index completion]) index = [completion] := by
      simp [completions_concat, unexited, RunMove.completion?]
    unfold HookPhase.afterExit
    cases completion.verdict shell command with
    | ok output => exact .relaying launched exited output
    | error failure => exact .finished (.started process completion launched exited) _

/-- A hook after its relay. -/
theorem HookPhase.Follows.relay {output : Bytes}
    (follows : (HookPhase.relaying output).Follows moves index) (shell command : String)
    (sink : Sink) (error? : Option OsError) :
    (HookPhase.afterRelay shell command sink output).Follows (moves ++ [.relay index error?])
      index := by
  have follows : (HookPhase.relaying output).Follows (moves ++ [.relay index error?]) index :=
    follows.elsewhere rfl rfl
  cases follows with
  | relaying launched exited output =>
    unfold HookPhase.afterRelay
    cases sink.refusal? output with
    | none => exact .finished (.started _ _ launched exited) _
    | some error => exact .finished (.started _ _ launched exited) _

theorem Dispatcher.phaseAt_of_found (found : dispatcher.hooks[index]? = some ⟨event, phase⟩) :
    dispatcher.phaseAt index = phase := by
  rw [Dispatcher.phaseAt, found]
  rfl

theorem Dispatcher.phaseAt_advance (advance : before.Advance index event phase next after)
    (place : Nat) :
    after.phaseAt place = if place = index then next else before.phaseAt place := by
  rw [Dispatcher.phaseAt, hook_advance advance]
  split_ifs <;> rfl

/-- A new hook is queued where one was yet to be. -/
theorem Dispatcher.phaseAt_dispatch (dispatcher : Dispatcher σ) (event : Event) (index : Nat) :
    (dispatcher.dispatch event).phaseAt index = dispatcher.phaseAt index := by
  unfold Dispatcher.phaseAt Dispatcher.dispatch
  rw [List.getElem?_append]
  split_ifs with inside
  · rfl
  · rw [List.getElem?_eq_none (Nat.not_lt.1 inside), List.getElem?_singleton]
    split_ifs <;> rfl

/-- A move of one hook keeps the phases if it suits this hook. -/
theorem Dispatcher.InPhase.advance (inPhase : before.InPhase moves)
    (advance : before.Advance index event phase next after)
    (own : phase.Follows moves index → next.Follows (moves ++ [move]) index)
    (launches : ∀ place ≠ index, move.launchResult? place = none)
    (exits : ∀ place ≠ index, move.completion? place = none) :
    after.InPhase (moves ++ [move]) := by
  intro place
  rw [Dispatcher.phaseAt_advance advance]
  split_ifs with same
  · subst same
    have follows := inPhase place
    rw [Dispatcher.phaseAt_of_found advance.found] at follows
    exact own follows
  · exact (inPhase place).elsewhere (launches place same) (exits place same)

theorem inPhase_moved {run later : HookRun σ} (inPhase : run.dispatcher.InPhase moves)
    (moved : HookRun.Move run move later) : later.dispatcher.InPhase (moves ++ [move]) := by
  cases moved with
  | dispatch dispatcher event rest =>
    intro index
    rw [Dispatcher.phaseAt_dispatch]
    exact (inPhase index).elsewhere rfl rfl
  | endOfEvents | resume => exact fun index => (inPhase index).elsewhere rfl rfl
  | @launch _ index event result found answers =>
    refine inPhase.advance (Dispatcher.launched_of_queued found result)
      (fun follows => follows.launch _ _ result) (fun place other => ?_) (fun _ _ => rfl)
    exact if_neg other.symm
  | @exit _ index event process found completion =>
    refine inPhase.advance (Dispatcher.exited_of_running found completion)
      (fun follows => follows.exit _ _ completion) (fun _ _ => rfl) (fun place other => ?_)
    exact if_neg other.symm
  | relay found =>
    exact inPhase.advance (Dispatcher.relayed_of_relaying found)
      (fun follows => follows.relay _ _ _ _) (fun _ _ => rfl) (fun _ _ => rfl)

/-- In every run, each hook stands where its launches and exits have led it. -/
theorem inPhase_path {shell command : String} {sink : Sink} {host : Host σ} {events : List Event}
    {run : HookRun σ}
    (path : HookRun.Path ⟨.start shell command sink host, .reading events⟩ moves run) :
    run.dispatcher.InPhase moves := by
  induction path with
  | nil => exact fun index => .queued rfl rfl
  | move _ moved ih => exact inPhase_moved ih moved
  | elsewhere _ quiet ih =>
    intro index
    rw [Dispatcher.phaseAt, quiet.hooks]
    exact ih index

/-- A hook that has ended was waited for. -/
theorem Dispatcher.InPhase.waitedFor {hook : Hook} (inPhase : dispatcher.InPhase moves)
    (found : dispatcher.hooks[index]? = some hook) (ended : hook.isFinished) :
    WaitedFor moves index := by
  obtain ⟨event, phase⟩ := hook
  have follows := inPhase index
  rw [Dispatcher.phaseAt_of_found found] at follows
  cases follows with
  | finished waited result => exact waited
  | queued _ _ | running _ _ | relaying _ _ _ => cases ended

/-- Where there is no hook, nothing was launched. -/
theorem Dispatcher.InPhase.unlaunched (inPhase : dispatcher.InPhase moves)
    (absent : dispatcher.hooks.length ≤ index) : launchResults moves index = [] := by
  have follows := inPhase index
  rw [Dispatcher.phaseAt, List.getElem?_eq_none absent] at follows
  cases follows with
  | queued unlaunched _ => exact unlaunched

end Phases

end EventHooks
