import EventHooks.Proofs.ServedRuns
import EventHooks.Proofs.StreamReading

/-!
# The schedule of the program

The program launches its hooks in the order of their events and collects them one by one. Each of
its operations is a run of moves that the system serves, so that whatever holds in every run holds
in its own.
-/
namespace EventHooks

variable {σ : Type}

namespace Dispatcher

/-- Moves of hooks, served by the system, lead from one dispatcher to another while a run stands
where it is. -/
structure Leads [OperatingSystem σ] (before after : Dispatcher σ) : Prop where
  served : ∀ phase, ∃ moves, HookRun.Served ⟨before, phase⟩ moves ⟨after, phase⟩
  fewer : ∀ index ∈ after.pending, index ∈ before.pending
  books : ∀ {shell command : String} {host : Host σ}, before.Accounted shell command host →
    after.Accounted shell command host

section Leads

variable [OperatingSystem σ]

theorem Leads.refl (dispatcher : Dispatcher σ) : Leads dispatcher dispatcher :=
  ⟨fun _ => ⟨[], .nil⟩, fun _ => id, id⟩

theorem Leads.trans {first middle last : Dispatcher σ} (earlier : Leads first middle)
    (later : Leads middle last) : Leads first last := by
  refine ⟨fun phase => ?_, fun index member => earlier.fewer index (later.fewer index member),
    fun books => later.books (earlier.books books)⟩
  obtain ⟨moves, served⟩ := earlier.served phase
  obtain ⟨more, rest⟩ := later.served phase
  exact ⟨moves ++ more, served.append rest⟩

theorem leads_foldl {α : Type} {step : Dispatcher σ → α → Dispatcher σ}
    (leads : ∀ dispatcher item, Leads dispatcher (step dispatcher item)) (items : List α)
    (dispatcher : Dispatcher σ) : Leads dispatcher (items.foldl step dispatcher) := by
  induction items generalizing dispatcher with
  | nil => exact .refl dispatcher
  | cons item rest ih => exact (leads dispatcher item).trans (ih _)

theorem leads_advance {before noted after : Dispatcher σ} {index : Nat} {event : Event}
    {phase next : HookPhase} {move : RunMove}
    (served : ∀ stage, HookRun.Served ⟨before, stage⟩ [move] ⟨after, stage⟩)
    (quiet : Quiet before noted) (advance : noted.Advance index event phase next after) :
    Leads before after := by
  refine ⟨fun stage => ⟨_, served stage⟩, fun place member => ?_,
    fun books => (books.quiet quiet).advance advance⟩
  rw [← quiet.pending]
  exact pending_advance advance place member

theorem leads_launch (dispatcher : Dispatcher σ) (index : Nat) :
    Leads dispatcher (dispatcher.launch index) := by
  rcases dispatcher.launch_cases index with
    ⟨same, -⟩ | ⟨event, files, system, result, found, asks, same⟩
  · rw [same]
    exact .refl dispatcher
  · rw [same]
    have queued : (dispatcher.beside files system).hooks[index]? = some ⟨event, .queued⟩ := found
    exact leads_advance (fun _ => HookRun.Served.nil.launch found asks)
      (dispatcher.quiet_beside files system) (launched_of_queued queued result)

theorem leads_launchAll (dispatcher : Dispatcher σ) : Leads dispatcher dispatcher.launchAll :=
  leads_foldl leads_launch _ _

theorem leads_exited {dispatcher : Dispatcher σ} {index : Nat} {event : Event}
    {process : ProcessId} {files : FileStore} {system : σ} {completion : Completion}
    (found : dispatcher.hooks[index]? = some ⟨event, .running process⟩)
    (collects : dispatcher.Collects process files system completion) :
    Leads dispatcher ((dispatcher.beside files system).exited index completion) := by
  have running : (dispatcher.beside files system).hooks[index]? =
      some ⟨event, .running process⟩ := found
  exact leads_advance (fun _ => HookRun.Served.nil.exit found collects)
    (dispatcher.quiet_beside files system) (exited_of_running running completion)

theorem leads_relayed (dispatcher : Dispatcher σ) (index : Nat) :
    Leads dispatcher (dispatcher.relayed index) := by
  rcases relayed_cases dispatcher index with same | ⟨event, output, found⟩
  · rw [same]
    exact .refl dispatcher
  · have moved (stage : RunPhase) : HookRun.Move ⟨dispatcher, stage⟩
        (.relay index (dispatcher.sink.refusal? output)) ⟨dispatcher.relayed index, stage⟩ :=
      .relay found
    exact leads_advance (fun stage => HookRun.Served.nil.own (moved stage) rfl)
      (.refl dispatcher) (relayed_of_relaying found)

end Leads

/-- The hook of a command that has exited has ended after its relay, and not by a crash. -/
theorem hooks_relayed_exited {dispatcher : Dispatcher σ} {index : Nat} {event : Event}
    {process : ProcessId} (found : dispatcher.hooks[index]? = some ⟨event, .running process⟩)
    (completion : Completion) :
    ∃ result, (∀ refusal, result ≠ .crashed refusal) ∧
      ((dispatcher.exited index completion).relayed index).hooks =
        dispatcher.hooks.set index ⟨event, .finished result⟩ := by
  have exits := exited_of_running found completion
  have phase := hook_advance exits index
  rw [if_pos rfl] at phase
  cases verdict : completion.verdict dispatcher.shell dispatcher.command with
  | error failure =>
    refine ⟨.failed failure, by simp, ?_⟩
    rw [HookPhase.afterExit, verdict] at phase exits
    rcases relayed_cases (dispatcher.exited index completion) index with same | ⟨_, _, relaying⟩
    · rw [same, exits.hooks]
    · rw [phase] at relaying
      cases relaying
  | ok output =>
    rw [HookPhase.afterExit, verdict] at phase exits
    have relays := relayed_of_relaying phase
    unfold HookPhase.afterRelay at relays
    cases refused : (dispatcher.exited index completion).sink.refusal? output with
    | none =>
      rw [refused] at relays
      exact ⟨.succeeded, by simp, by rw [relays.hooks, exits.hooks, List.set_set]⟩
    | some error =>
      rw [refused] at relays
      exact ⟨.failed _, by simp, by rw [relays.hooks, exits.hooks, List.set_set]⟩

theorem mem_running {dispatcher : Dispatcher σ} {index : Nat} {process : ProcessId} :
    (index, process) ∈ dispatcher.running ↔
      ∃ event, dispatcher.hooks[index]? = some ⟨event, .running process⟩ := by
  unfold running
  rw [List.mem_filterMap]
  constructor
  · rintro ⟨⟨⟨event, phase⟩, place⟩, member, read⟩
    cases phase with
    | running own =>
      obtain ⟨rfl, rfl⟩ := Prod.mk.inj (Option.some.inj read)
      exact ⟨event, List.mem_zipIdx_iff_getElem?.1 member⟩
    | queued | relaying _ | finished _ => cases read
  · rintro ⟨event, found⟩
    exact ⟨(⟨event, .running process⟩, index), List.mem_zipIdx_iff_getElem?.2 found, rfl⟩

section Systems

variable [OperatingSystem σ]

/-- The place that is found for a process that has ended is the one of its hook, or the first one if
there is no such hook. -/
theorem exists_ended (first : Nat × ProcessId) (others : List (Nat × ProcessId))
    (ended : ProcessId) : ∃ entry ∈ first :: others,
      ((others.find? (·.2 == ended)).map (·.1)).getD first.1 = entry.1 ∧
        entry.2 = if ended ∈ first.2 :: others.map (·.2) then ended else first.2 := by
  cases other : others.find? (·.2 == ended) with
  | none =>
    refine ⟨first, List.mem_cons_self, rfl, ?_⟩
    split_ifs with isRunning
    · rcases List.mem_cons.1 isRunning with isFirst | elsewhere
      · exact isFirst.symm
      · obtain ⟨entry, isOther, rfl⟩ := List.mem_map.1 elsewhere
        exact absurd (beq_self_eq_true _) (List.find?_eq_none.1 other entry isOther)
    · rfl
  | some entry =>
    have isOther := List.mem_of_find?_eq_some other
    have isEnded : entry.2 = ended := by simpa using List.find?_some other
    refine ⟨entry, List.mem_cons_of_mem _ isOther, rfl, ?_⟩
    rw [if_pos (List.mem_cons_of_mem _ (isEnded ▸ List.mem_map_of_mem isOther)), isEnded]

/-- Settling finds nothing running, or collects one running hook, which exits and relays. -/
theorem settleNext_cases (dispatcher : Dispatcher σ) :
    (dispatcher.running = [] ∧ dispatcher.settleNext = dispatcher) ∨
      ∃ index event process files system completion,
        dispatcher.hooks[index]? = some ⟨event, .running process⟩ ∧
          dispatcher.Collects process files system completion ∧
          dispatcher.settleNext =
            ((dispatcher.beside files system).exited index completion).relayed index := by
  cases running : dispatcher.running with
  | nil => exact .inl ⟨rfl, by simp [settleNext, running]⟩
  | cons first others =>
    rcases collected : OperatingSystem.collect first.2 (others.map (·.2)) dispatcher.host.files
      dispatcher.host.system with ⟨⟨ended, completion⟩, files, system⟩
    obtain ⟨entry, isEntry, place, own⟩ := exists_ended first others ended
    obtain ⟨event, found⟩ := mem_running.1 (running ▸ isEntry)
    have processes : dispatcher.running.map (·.2) = first.2 :: others.map (·.2) := by
      rw [running, List.map_cons]
    refine .inr ⟨entry.1, event, entry.2, files, system, completion, found,
      .collected processes collected own, ?_⟩
    simp only [settleNext, running, Host.collect, collected, place]
    rfl

theorem leads_settleNext (dispatcher : Dispatcher σ) : Leads dispatcher dispatcher.settleNext := by
  rcases dispatcher.settleNext_cases with
    ⟨-, same⟩ | ⟨index, event, process, files, system, completion, found, collects, same⟩
  · rw [same]
    exact .refl dispatcher
  · rw [same]
    exact (leads_exited found collects).trans (leads_relayed _ index)

theorem leads_settleUntil (holds : Dispatcher σ → Bool) (dispatcher : Dispatcher σ) :
    Leads dispatcher (dispatcher.settleUntil holds) := by
  refine leads_foldl (fun next hook => ?_) _ _
  split_ifs
  · exact .refl next
  · exact leads_settleNext next

/-! ## Waiting ends -/

/-- No hook waits for its launch or relays: each runs or has ended. -/
def Underway (dispatcher : Dispatcher σ) : Prop :=
  ∀ hook ∈ dispatcher.hooks, hook.isFinished ∨ ∃ process, hook.phase = .running process

/-- The hooks after a settlement: one that ran has ended, and not by a crash. -/
theorem hooks_settleNext (dispatcher : Dispatcher σ) :
    (dispatcher.running = [] ∧ dispatcher.settleNext = dispatcher) ∨
      ∃ index event process result,
        dispatcher.hooks[index]? = some ⟨event, .running process⟩ ∧
          (∀ refusal, result ≠ .crashed refusal) ∧
          dispatcher.settleNext.hooks =
            dispatcher.hooks.set index ⟨event, .finished result⟩ := by
  rcases dispatcher.settleNext_cases with
    nothing | ⟨index, event, process, files, system, completion, found, -, same⟩
  · exact .inl nothing
  · obtain ⟨result, plain, hooks⟩ :=
      hooks_relayed_exited (show (dispatcher.beside files system).hooks[index]? = _ from found)
        completion
    exact .inr ⟨index, event, process, result, found, plain, same ▸ hooks⟩

theorem underway_settleNext {dispatcher : Dispatcher σ} (underway : dispatcher.Underway) :
    dispatcher.settleNext.Underway := by
  rcases dispatcher.hooks_settleNext with ⟨-, same⟩ | ⟨index, event, process, result, -, -, same⟩
  · rw [same]
    exact underway
  · intro hook member
    rw [same] at member
    rcases List.mem_or_eq_of_mem_set member with earlier | rfl
    · exact underway hook earlier
    · exact .inl rfl

/-- A settlement lets no hook crash. -/
theorem crash?_settleNext (dispatcher : Dispatcher σ) (place : Nat) :
    dispatcher.settleNext.crash? place = dispatcher.crash? place := by
  rcases dispatcher.hooks_settleNext with
    ⟨-, same⟩ | ⟨index, event, process, result, found, plain, same⟩
  · rw [same]
  · unfold crash?
    rw [same]
    by_cases own : place = index
    · have inside := (List.getElem?_eq_some_iff.1 found).1
      rw [own, List.getElem?_set_self inside, found]
      cases result with
      | crashed refusal => exact absurd rfl (plain refusal)
      | succeeded | failed _ => rfl
    · rw [List.getElem?_set_ne (Ne.symm own)]

/-- While a hook has not ended, a settlement ends one. -/
theorem length_unfinished_settleNext {dispatcher : Dispatcher σ} (underway : dispatcher.Underway) :
    (unfinished dispatcher.settleNext.hooks).length = (unfinished dispatcher.hooks).length - 1 := by
  rcases dispatcher.hooks_settleNext with
    ⟨nothing, same⟩ | ⟨index, event, process, result, found, -, same⟩
  · have none : unfinished dispatcher.hooks = [] := by
      rw [unfinished_eq_nil_iff]
      rintro ⟨event, phase⟩ member
      rcases underway _ member with finished | ⟨process, running⟩
      · exact finished
      · obtain ⟨place, found⟩ := List.mem_iff_getElem?.1 member
        obtain rfl : phase = .running process := running
        have running := mem_running.2 ⟨event, found⟩
        rw [nothing] at running
        cases running
    rw [same, none]
    rfl
  · have member : index ∈ unfinished dispatcher.hooks := mem_unfinished.2 ⟨_, found, rfl⟩
    have ended : Hook.isFinished ⟨event, .finished result⟩ = true := rfl
    rw [same, unfinished_set found rfl, if_pos ended, List.length_erase_of_mem member]

section Waits

variable (holds : Dispatcher σ → Bool)

theorem foldl_settle_of_holds {dispatcher : Dispatcher σ} (done : holds dispatcher = true)
    (turns : List Hook) : turns.foldl (fun dispatcher _ =>
      if holds dispatcher then dispatcher else dispatcher.settleNext) dispatcher = dispatcher := by
  induction turns with
  | nil => rfl
  | cons turn rest ih => rw [List.foldl_cons, if_pos done, ih]

/-- With a turn for every hook that has not ended, a wait ends when what it waits for holds, or
    when all hooks have ended. -/
theorem foldl_settle_ends (turns : List Hook) {dispatcher : Dispatcher σ}
    (underway : dispatcher.Underway)
    (enough : (unfinished dispatcher.hooks).length ≤ turns.length) :
    let last := turns.foldl (fun dispatcher _ =>
      if holds dispatcher then dispatcher else dispatcher.settleNext) dispatcher
    holds last = true ∨ unfinished last.hooks = [] := by
  induction turns generalizing dispatcher with
  | nil => exact .inr (List.eq_nil_of_length_eq_zero (Nat.le_zero.1 enough))
  | cons turn rest ih =>
    rw [List.foldl_cons]
    by_cases done : holds dispatcher = true
    · rw [if_pos done, foldl_settle_of_holds holds done]
      exact .inl done
    · rw [if_neg done]
      have fewer := length_unfinished_settleNext underway
      rw [List.length_cons] at enough
      exact ih (underway_settleNext underway) (by omega)

theorem settleUntil_ends {dispatcher : Dispatcher σ} (underway : dispatcher.Underway) :
    holds (dispatcher.settleUntil holds) = true ∨
      unfinished (dispatcher.settleUntil holds).hooks = [] := by
  refine foldl_settle_ends holds _ underway ?_
  rw [length_unfinished]
  exact List.countP_le_length

theorem crash?_settleUntil (dispatcher : Dispatcher σ) (place : Nat) :
    (dispatcher.settleUntil holds).crash? place = dispatcher.crash? place :=
  settleUntil_keeps (motive := fun later => later.crash? place = dispatcher.crash? place)
    (fun later same => (crash?_settleNext later place).trans same) rfl holds

end Waits

/-! ## The drain of the program -/

/-- No hook relays. -/
def Still (dispatcher : Dispatcher σ) : Prop :=
  ∀ hook ∈ dispatcher.hooks, ∀ output, hook.phase ≠ .relaying output

theorem still_launch {dispatcher : Dispatcher σ} (still : dispatcher.Still) (index : Nat) :
    (dispatcher.launch index).Still := by
  rcases dispatcher.launch_cases index with
    ⟨same, -⟩ | ⟨event, files, system, result, found, -, same⟩
  · rw [same]
    exact still
  · have advance := launched_of_queued
      (show (dispatcher.beside files system).hooks[index]? = _ from found) result
    intro hook member output relays
    rw [same, advance.hooks] at member
    rcases List.mem_or_eq_of_mem_set member with earlier | rfl
    · exact still hook earlier output relays
    · rcases result with (error | refusal) | process <;> cases relays

/-- A hook that is queued after a launch was queued before, at another place. -/
theorem queued_launch {dispatcher : Dispatcher σ} {index place : Nat} {event : Event}
    (queued : (dispatcher.launch index).hooks[place]? = some ⟨event, .queued⟩) :
    place ≠ index ∧ dispatcher.hooks[place]? = some ⟨event, .queued⟩ := by
  rcases dispatcher.launch_cases index with
    ⟨same, other⟩ | ⟨_, files, system, result, found, -, same⟩
  · rw [same] at queued
    refine ⟨?_, queued⟩
    rintro rfl
    exact other event queued
  · have advance := launched_of_queued
      (show (dispatcher.beside files system).hooks[index]? = _ from found) result
    rw [same, hook_advance advance] at queued
    split_ifs at queued with own
    · exact absurd (Hook.mk.inj (Option.some.inj queued)).2 advance.started
    · exact ⟨own, queued⟩

theorem queued_foldl_launch (indices : List Nat) {dispatcher : Dispatcher σ} {place : Nat}
    {event : Event}
    (queued : (indices.foldl launch dispatcher).hooks[place]? = some ⟨event, .queued⟩) :
    place ∉ indices ∧ dispatcher.hooks[place]? = some ⟨event, .queued⟩ := by
  induction indices generalizing dispatcher with
  | nil => exact ⟨List.not_mem_nil, queued⟩
  | cons index rest ih =>
    obtain ⟨notLater, afterFirst⟩ := ih queued
    obtain ⟨notFirst, before⟩ := queued_launch afterFirst
    exact ⟨by simp [notFirst, notLater], before⟩

theorem still_launchAll {dispatcher : Dispatcher σ} (still : dispatcher.Still) :
    dispatcher.launchAll.Still :=
  launchAll_keeps (fun _ index still => still_launch still index) still

/-- Once all hooks are launched, each runs or has ended. -/
theorem underway_launchAll {dispatcher : Dispatcher σ} (still : dispatcher.Still) :
    dispatcher.launchAll.Underway := by
  rintro ⟨event, phase⟩ member
  obtain ⟨place, found⟩ := List.mem_iff_getElem?.1 member
  cases phase with
  | queued =>
    obtain ⟨outside, before⟩ := queued_foldl_launch _ found
    have inside := (List.getElem?_eq_some_iff.1 before).1
    exact absurd (List.mem_range.2 inside) outside
  | running process => exact .inr ⟨process, rfl⟩
  | relaying output => exact absurd rfl (still_launchAll still _ member output)
  | finished result => exact .inl rfl

/-- A wait without crashes that lets hooks settle until all have ended is over after it. -/
theorem resume_settleUntil {shell command : String} {host : Host σ} {dispatcher : Dispatcher σ}
    {indices : List Nat} (books : dispatcher.Accounted shell command host)
    (underway : dispatcher.Underway) (waits : ∀ index ∈ dispatcher.pending, index ∈ indices)
    (goesOn : dispatcher.resume (.awaiting indices) = .awaiting indices) :
    (dispatcher.settleUntil fun dispatcher => indices.all dispatcher.hasFinished).resume
      (.awaiting indices) = .over none := by
  have settles := leads_settleUntil (fun dispatcher => indices.all dispatcher.hasFinished)
    dispatcher
  have crash : indices.findSome? dispatcher.crash? = none := by
    simp only [resume] at goesOn
    split at goesOn
    · cases goesOn
    · assumption
  have ends := settleUntil_ends (fun dispatcher => indices.all dispatcher.hasFinished) underway
  have same := funext (crash?_settleUntil (fun dispatcher => indices.all dispatcher.hasFinished)
    dispatcher)
  generalize dispatcher.settleUntil (fun dispatcher => indices.all dispatcher.hasFinished) = last
    at settles ends same
  have done : indices.all last.hasFinished = true := by
    rcases ends with holds | none
    · exact holds
    · exact all_hasFinished none indices
  have nothing := pending_of_hasFinished (settles.books books)
    (fun index member => waits index (settles.fewer index member)) done
  simp [resume, same, crash, done, Dispatcher.look, nothing]

/-- The drain of the program is a drain of the event loop, from its first look to its return. -/
theorem drain_served {shell command : String} {host : Host σ} {dispatcher : Dispatcher σ}
    (books : dispatcher.Accounted shell command host) (still : dispatcher.Still) :
    ∃ moves, HookRun.Served ⟨dispatcher, .draining dispatcher.look⟩ moves
      ⟨dispatcher.drain.2, .draining (.over dispatcher.drain.1)⟩ := by
  have launches := leads_launchAll dispatcher
  obtain ⟨moves, launched⟩ := launches.served (.draining dispatcher.look)
  rcases look : dispatcher.look with indices | refusal?
  · have waits : ∀ index ∈ dispatcher.launchAll.pending, index ∈ indices := by
      intro index member
      have pending : dispatcher.pending = indices := by
        unfold Dispatcher.look at look
        split_ifs at look
        exact Drain.awaiting.inj look
      exact pending ▸ launches.fewer index member
    rw [look] at launched
    rcases resume_awaiting (launches.books books) waits with goesOn | ⟨refusal?, returned, -⟩
    · have drained : dispatcher.drain = (none, dispatcher.launchAll.settleUntil
          fun dispatcher => indices.all dispatcher.hasFinished) := by
        simp [drain, look, goesOn]
      have returned :=
        resume_settleUntil (launches.books books) (underway_launchAll still) waits goesOn
      obtain ⟨more, settled⟩ := (leads_settleUntil (fun dispatcher =>
        indices.all dispatcher.hasFinished) dispatcher.launchAll).served
          (.draining (.awaiting indices))
      have changes : (dispatcher.launchAll.settleUntil fun dispatcher =>
          indices.all dispatcher.hasFinished).resume (.awaiting indices) ≠ .awaiting indices := by
        simp [returned]
      rw [drained, ← returned]
      exact ⟨_, (launched.append settled).own (.resume changes) rfl⟩
    · have drained : dispatcher.drain = (refusal?, dispatcher.launchAll) := by
        simp [drain, look, returned]
      have changes : dispatcher.launchAll.resume (.awaiting indices) ≠ .awaiting indices := by
        simp [returned]
      rw [drained, ← returned]
      exact ⟨_, launched.own (.resume changes) rfl⟩
  · have drained : dispatcher.drain = (refusal?, dispatcher.launchAll) := by
      simp [drain, look, resume]
    rw [drained]
    exact ⟨moves, look ▸ launched⟩

end Systems

end Dispatcher

/-! ## The run of the program -/

theorem still_start (shell command : String) (sink : Sink) (host : Host σ) :
    (Dispatcher.start shell command sink host).Still :=
  fun _ member => nomatch member

theorem still_dispatch {dispatcher : Dispatcher σ} (still : dispatcher.Still) (event : Event) :
    (dispatcher.dispatch event).Still := by
  intro hook member output relays
  rcases List.mem_append.1 member with earlier | own
  · exact still hook earlier output relays
  · rw [List.mem_singleton.1 own] at relays
    cases relays

section Runs

open CommandLine Text

variable [OperatingSystem σ] {raws : List String} {items : List StreamItem}
  {stop : Option LineFault}

/-- Taking in an event dispatches it and launches its hook. -/
theorem served_dispatch (dispatcher : Dispatcher σ) (event : Event) (rest : List Event) :
    ∃ moves, HookRun.Served ⟨dispatcher, .reading (event :: rest)⟩ moves
      ⟨(dispatcher.dispatch event).launchAll, .reading rest⟩ := by
  obtain ⟨moves, launched⟩ :=
    (Dispatcher.leads_launchAll (dispatcher.dispatch event)).served (.reading rest)
  have dispatched := HookRun.Served.nil.own (.dispatch dispatcher event rest) rfl
  exact ⟨_, dispatched.append launched⟩

/-- Reading a stream is a run of moves that ends with nothing relaying. -/
theorem served_of_taken (taken : Taken raws items stop) (run : EventRun σ)
    (goesOn : run.stop = none) (still : run.dispatcher.Still) (rest : List Event) :
    (∃ moves, HookRun.Served
      ⟨run.dispatcher, .reading (items.filterMap StreamItem.event? ++ rest)⟩ moves
      ⟨((contentsOf raws).foldl EventRun.next run).dispatcher, .reading rest⟩) ∧
      ((contentsOf raws).foldl EventRun.next run).dispatcher.Still := by
  induction taken generalizing run with
  | done => exact ⟨⟨[], .nil⟩, still⟩
  | blank nothing _ ih =>
    rw [contentsOf_blank nothing]
    exact ih run goesOn still
  | @item raw line _ item items _ trimmed something gives _ ih =>
    rw [contentsOf_cons trimmed something, List.foldl_cons]
    cases item with
    | event event =>
      have next := next_event goesOn (readLine_of_event gives)
      obtain ⟨moves, first⟩ := served_dispatch run.dispatcher event
        (items.filterMap StreamItem.event? ++ rest)
      rw [next]
      obtain ⟨⟨more, later⟩, ends⟩ := ih { run with
        dispatcher := (run.dispatcher.dispatch event).launchAll } goesOn
        (Dispatcher.still_launchAll (still_dispatch still event))
      exact ⟨⟨_, first.append later⟩, ends⟩
    | invalid given fault =>
      obtain ⟨rfl, failed, invalid⟩ := readLine_of_invalid gives
      rw [next_invalid goesOn failed invalid]
      let logged : Dispatcher σ := { run.dispatcher with
        host := run.dispatcher.host.log .error .commandLine (Stream.invalidMessage given fault) }
      have spoken (stage : RunPhase) :
          HookRun.Served ⟨run.dispatcher, stage⟩ [] ⟨logged, stage⟩ :=
        HookRun.Served.nil.log .error (by decide) _
      obtain ⟨⟨more, later⟩, ends⟩ := ih { run with
        dispatcher := logged
        invalid := run.invalid + 1 } goesOn still
      exact ⟨⟨_, (spoken _).append later⟩, ends⟩
  | @stop raw line _ fault trimmed something overflows =>
    obtain ⟨failed, ends⟩ := readLine_of_overflows overflows
    rw [contentsOf_cons trimmed something, List.foldl_cons, next_overflow goesOn failed ends,
      foldl_run_of_stopped _ rfl]
    exact ⟨⟨[], .nil⟩, still⟩

/-- What the program does with a stream that is read to its end, up to the return of its drain, is
one of the runs over the events of the stream that the system serves. -/
theorem stream_run_served {text : String} (whole : (Stream.read text).stop = none)
    (shell command : String) (sink : Sink) (host : Host σ) :
    let drained := ((Stream.contents text).foldl EventRun.next
      { dispatcher := .start shell command sink host }).dispatcher.drain
    ∃ moves, HookRun.Served ⟨.start shell command sink host,
        .reading ((Stream.read text).items.filterMap StreamItem.event?)⟩ moves
      ⟨drained.2, .draining (.over drained.1)⟩ := by
  intro drained
  have taken : Taken (lines text) (Stream.read text).items none := taken_iff.2 ⟨rfl, whole.symm⟩
  obtain ⟨⟨moves, reading⟩, still⟩ := served_of_taken taken
    { dispatcher := Dispatcher.start shell command sink host } rfl (still_start _ _ _ _) []
  rw [List.append_nil] at reading
  obtain ⟨more, draining⟩ := Dispatcher.drain_served (accounted_path reading.path) still
  exact ⟨_, (reading.own (.endOfEvents _) rfl).append draining⟩

end Runs

end EventHooks
