import EventHooks.Proofs.HookLaunches
import EventHooks.Proofs.RunnerAgreement
import EventHooks.Proofs.SettingsInForce

/-!
# The exit status of a run over events

A run over events ends with the status two if it cannot begin, and then it has launched nothing.
Otherwise it has the system launch one hook for every event and waits for all of them, and the
status tells whether a line was invalid or a hook has failed, in whatever order the hooks come to
their end (`event_mode_status`).
-/
namespace EventHooks

open CommandLine Text

/-- The exit status that tells of failures among some moves of hooks, or of invalid lines among
some items. -/
def streamStatus (moves : List RunMove) (items : List StreamItem) : Nat :=
  if failing moves = [] ∧ items.filterMap StreamItem.record? = [] then 0 else 1

theorem streamStatus_ne_two (moves : List RunMove) (items : List StreamItem) :
    streamStatus moves items ≠ 2 := by
  unfold streamStatus
  split_ifs <;> simp

section Runs

variable {σ : Type} {moves : List RunMove} {items : List StreamItem}

/-- A run that has counted all failures and invalid lines tells of them. -/
theorem fst_conclude {run : EventRun σ}
    (counted : run.dispatcher.failures = (failing moves).length)
    (invalid : run.invalid = (items.filterMap StreamItem.record?).length) (host : Host σ) :
    (run.conclude host).1 = streamStatus moves items := by
  unfold EventRun.conclude streamStatus
  simp only [counted, invalid, List.length_eq_zero_iff]
  split_ifs <;> rfl

theorem files_conclude (run : EventRun σ) (host : Host σ) :
    (run.conclude host).2.files = host.files := by
  unfold EventRun.conclude
  split_ifs <;> simp [Host.files_log]

theorem system_conclude (run : EventRun σ) (host : Host σ) :
    (run.conclude host).2.system = host.system := by
  unfold EventRun.conclude
  split_ifs <;> simp

/-- Whatever the order in which hooks start, exit and relay, a run over events that comes to its
end has isolated every failure, and the status tells of them. -/
theorem status_of_complete {shell command : String} {host : Host σ} {sink : Sink}
    {run : HookRun σ} (clean : host.environment.Clean) (plainShell : hasNull shell = false)
    (plainCommand : hasNull command = false)
    (plainEvents : ∀ event ∈ items.filterMap StreamItem.event?, ¬ event.CarriesNull)
    (path : HookRun.Path
      ⟨.start shell command sink host, .reading (items.filterMap StreamItem.event?)⟩ moves run)
    (complete : run.Complete) :
    run.Isolated (items.filterMap StreamItem.event?) moves ∧
      (EventRun.conclude ⟨run.dispatcher, (items.filterMap StreamItem.record?).length, none⟩
        run.dispatcher.host).1 = streamStatus moves items := by
  have isolated := isolated_of_plain (sound_path plainShell plainCommand clean path) plainEvents
    complete
  exact ⟨isolated, fst_conclude isolated.counted rfl _⟩

variable [OperatingSystem σ]

/-- The dispatcher of the program at the end of its drain over a text. -/
def drained (shell command : String) (host : Host σ) (input : String) : Dispatcher σ :=
  ((Stream.contents input).foldl EventRun.next
    { dispatcher := .start shell command .memory host }).dispatcher.drain.2

/-- The program has launched one hook for each event of a text, in order, and nothing else, and
waited for all of them; the system has served each launch and each exit, and has not been touched
otherwise. The exit status tells of the failures. -/
structure Finish.Waited (shell command : String) (items : List StreamItem) (input : String)
    (begun : Host σ) (moves : List RunMove) (finish : Finish σ) : Prop where
  launches : finish.launches = hookLaunches shell command begun.environment
    (items.filterMap StreamItem.event?)
  served : HookRun.Served
    ⟨.start shell command .memory begun, .reading (items.filterMap StreamItem.event?)⟩ moves
    ⟨drained shell command begun input, .draining (.over none)⟩
  waited : ∀ index < (items.filterMap StreamItem.event?).length, WaitedFor moves index
  nothingElse : ∀ index, (items.filterMap StreamItem.event?).length ≤ index →
    launchResults moves index = []
  isolated : HookRun.Isolated (items.filterMap StreamItem.event?) moves
    ⟨drained shell command begun input, .draining (.over none)⟩
  files : finish.host.files = (drained shell command begun input).host.files
  system : finish.host.system = (drained shell command begun input).host.system
  ending : finish.ending = .exit (streamStatus moves items)

theorem runEvents_of_no_command {settings : Settings} (lacks : settings.LacksCommand)
    (host : Host σ) (input : String) :
    (runEvents settings host input).ending = .exit 2 ∧
      (runEvents settings host input).launches = [] ∧
      (runEvents settings host input).host.system = host.system := by
  rw [Settings.lacksCommand_iff] at lacks
  simp [runEvents, lacks]

theorem runEvents_of_command {settings : Settings} {command input : String} {begun : Host σ}
    (given : Given.filled? settings.onevent = some command)
    (taken : Taken (lines input) items none) (clean : begun.environment.Clean)
    (plainShell : hasNull (settings.effectiveShell begun.environment) = false)
    (plainCommand : hasNull command = false)
    (plainEvents : ∀ event ∈ items.filterMap StreamItem.event?, ¬ event.CarriesNull) :
    ∃ moves, (runEvents settings begun input).Waited (settings.effectiveShell begun.environment)
      command items input begun moves := by
  obtain ⟨isItems, isStop⟩ := taken_iff.1 taken
  have read : (Stream.read input).items = items := isItems.symm
  obtain ⟨moves, served⟩ := stream_run_served isStop.symm
    (settings.effectiveShell begun.environment) command .memory begun
  rw [read] at served
  have launches := launches_runEvents taken settings begun
  have ran := runsTo_of_taken taken
    ⟨.start (settings.effectiveShell begun.environment) command .memory begun, 0, none⟩ rfl
  change RunsTo _ ((Stream.contents input).foldl EventRun.next _) items none at ran
  have sound := sound_path plainShell plainCommand clean served.path
  -- No event keeps its hook from the system, so the drain has nothing to raise.
  have normal := (sound.normal rfl plainEvents).1
  rw [normal] at served sound
  have isolated := isolated_of_plain sound plainEvents (complete_of_plain sound rfl plainEvents)
  have inPhase := inPhase_path served.path
  have length := congrArg List.length isolated.events
  rw [List.length_map] at length
  rw [given] at launches
  refine ⟨moves, launches, served, fun index inside => ?_, fun index outside => ?_, isolated,
    ?_, ?_, ?_⟩
  · have found := List.getElem?_eq_getElem (length.symm ▸ inside)
    exact inPhase.waitedFor found (isolated.ended _ (List.mem_of_getElem? found))
  · exact inPhase.unlaunched (length.symm ▸ outside)
  · simp only [runEvents, given, ran.stop, normal, files_conclude, Host.write, drained]
  · simp only [runEvents, given, ran.stop, normal, system_conclude, Host.write, drained]
  · simp only [runEvents, given, ran.stop, normal]
    refine congrArg Ending.exit (fst_conclude ?_ ?_ _)
    · exact isolated.counted
    · exact ran.invalid.trans (Nat.zero_add _)

/-- A run over events ends with the status two exactly if the stored level is bad or there is no
command in force, and then it has launched nothing. Otherwise the system has launched one hook for
each event, as far as it could, and each has been waited for; the status is one exactly if a line
was invalid or a hook has failed. So would it be in any other order of what happens to the hooks. -/
theorem event_mode_status {arguments : List String} {options : Options} {host : Host σ}
    {input : String} {file : Path} {present : Bool}
    (accepted : Options.read arguments = .ok options) (eventMode : options.run = none)
    (clean : host.environment.Clean)
    (located : StoredSettings.fileFor (Given.filled? options.configDir) host.environment =
      some file)
    (plainPath : hasNull file.toText = false)
    (checked : StoredSettings.exists? host.files file = .ok present)
    (taken : Taken (lines input) items none)
    (plainShell : hasNull (((StoredSettings.storedAt host.files file).override
      options).effectiveShell host.environment) = false)
    (plainCommand : ∀ command, ((StoredSettings.storedAt host.files file).override
      options).onevent = some (.value command) → hasNull command = false)
    (plainEvents : ∀ event ∈ items.filterMap StreamItem.event?, ¬ event.CarriesNull) :
    let stored := StoredSettings.storedAt host.files file
    let inForce := stored.override options
    let shell := inForce.effectiveShell host.environment
    let finish := run arguments host input
    (finish.ending = .exit 2 ↔ stored.HasBadLevel ∨ inForce.LacksCommand) ∧
      (finish.ending = .exit 2 → finish.launches = [] ∧ finish.host.system = host.system) ∧
      (finish.ending ≠ .exit 2 → ∃ command begun moves,
        inForce.onevent = some (.value command) ∧ GoesOn options stored file host begun ∧
          finish.Waited shell command items input begun moves) ∧
      ∀ (command : String) (sink : Sink) (begun : Host σ) (moves : List RunMove)
        (last : HookRun σ), inForce.onevent = some (.value command) →
          begun.environment = host.environment →
            HookRun.Path ⟨.start shell command sink begun,
              .reading (items.filterMap StreamItem.event?)⟩ moves last → last.Complete →
                last.Isolated (items.filterMap StreamItem.event?) moves ∧
                  (EventRun.conclude ⟨last.dispatcher,
                    (items.filterMap StreamItem.record?).length, none⟩ last.dispatcher.host).1 =
                      streamStatus moves items := by
  intro stored inForce shell finish
  rw [← and_assoc, ← and_assoc]
  refine ⟨?_, fun command sink begun moves last given same path complete =>
    status_of_complete (same ▸ clean) plainShell (plainCommand command given) plainEvents path
      complete⟩
  by_cases bad : stored.HasBadLevel
  · obtain ⟨two, nothing⟩ := bad_level_ends input accepted located checked bad
    exact ⟨⟨⟨fun _ => .inl bad, fun _ => two⟩, fun _ => nothing⟩, fun other => absurd two other⟩
  obtain ⟨begun, goesOn, performed⟩ := run_of_good_level input accepted located checked bad
    fun _ _ => Settings.writeTo_ne_refused plainPath _ _
  have ran : finish = runEvents inForce begun input := by
    rw [show finish = _ from performed, perform, eventMode]
  rw [ran]
  by_cases lacks : inForce.LacksCommand
  · obtain ⟨two, launches, system⟩ := runEvents_of_no_command lacks begun input
    exact ⟨⟨⟨fun _ => .inr lacks, fun _ => two⟩, fun _ => ⟨launches, system.trans goesOn.system⟩⟩,
      fun other => absurd two other⟩
  · obtain ⟨command, given⟩ := Option.ne_none_iff_exists'.1 (mt Settings.lacksCommand_iff.2 lacks)
    have isCommand := Given.filled?_eq_some given
    obtain ⟨moves, waited⟩ := runEvents_of_command given taken (goesOn.environment ▸ clean)
      (goesOn.environment ▸ plainShell) (plainCommand command isCommand) plainEvents
    have notTwo : (runEvents inForce begun input).ending ≠ .exit 2 := by
      rw [waited.ending]
      exact fun same => streamStatus_ne_two moves items (Ending.exit.inj same)
    rw [goesOn.environment] at waited
    exact ⟨⟨⟨fun two => absurd two notTwo, fun either => (either.elim bad lacks).elim⟩,
      fun two => absurd two notTwo⟩, fun _ => ⟨command, begun, moves, isCommand, goesOn, waited⟩⟩

end Runs

/-! ## A command that fails -/

/-- On a system with one outcome, each command that exits leaves that outcome behind. -/
theorem HookRun.Served.scripted {outcome : Except OsError Completion}
    {start run : HookRun Scripted} {moves : List RunMove} (served : HookRun.Served start moves run)
    (isOutcome : start.dispatcher.host.system = ⟨outcome⟩) :
    run.dispatcher.host.system = ⟨outcome⟩ ∧ ∀ index completion,
      .exit index completion ∈ moves → completion = outcome.toOption.getD ⟨0, [], []⟩ := by
  induction served with
  | nil => exact ⟨isOutcome, fun _ _ isMove => absurd isMove List.not_mem_nil⟩
  | own _ moved unasked ih =>
    refine ⟨?_, fun index completion isMove => ?_⟩
    · cases moved with
      | dispatch | endOfEvents | resume => exact ih.1
      | relay found => exact (Dispatcher.system_step _ _).trans ih.1
      | launch | exit => cases unasked
    · rcases List.mem_append.1 isMove with earlier | own
      · exact ih.2 index completion earlier
      · rw [← List.mem_singleton.1 own] at unasked
        cases unasked
  | launch _ found asks ih =>
    refine ⟨?_, fun index completion isMove => ?_⟩
    · rw [Dispatcher.system_step]
      cases asks with
      | refused refused => exact ih.1
      | @answered answer _ system plain answered =>
        have closed : Dispatcher.closing answer system = system := by
          cases answer <;> rfl
        cases answered
        exact closed.trans ih.1
    · exact ih.2 index completion (by simpa using isMove)
  | exit _ found collects ih =>
    cases collects with
    | collected running answered own =>
      cases answered
      refine ⟨(Dispatcher.system_step _ _).trans ih.1, fun index completion isMove => ?_⟩
      rcases List.mem_append.1 isMove with earlier | own
      · exact ih.2 index completion earlier
      · cases List.mem_singleton.1 own
        rw [ih.1]
  | log _ level other message ih => exact ⟨(Host.system_log _ _ _ _).trans ih.1, ih.2⟩

/-- Where every command fails, each hook that was waited for has failed. -/
theorem HookRun.Served.fails {outcome : Except OsError Completion} {start run : HookRun Scripted}
    {moves : List RunMove} {index : Nat} (served : HookRun.Served start moves run)
    (isOutcome : start.dispatcher.host.system = ⟨outcome⟩)
    (bad : (outcome.toOption.getD ⟨0, [], []⟩).status ≠ 0) (waited : WaitedFor moves index) :
    index ∈ failing moves := by
  cases waited with
  | started process completion launched exited =>
    have isMove := mem_completions.1 (exited ▸ List.mem_singleton_self completion)
    obtain rfl := (served.scripted isOutcome).2 index completion isMove
    exact List.mem_filterMap.2 ⟨_, isMove, if_neg bad⟩
  | unstarted error launched exited =>
    have isMove : RunMove.launch index (.error error) ∈ moves :=
      mem_launchResults.1 (launched ▸ List.mem_singleton_self _)
    exact List.mem_filterMap.2 ⟨_, isMove, rfl⟩

/-- A line with an event. -/
def eventInput : String := "\x7b\"event\":\"VolumeChanged\",\"volume\":5\x7d\n"

/-- The line is fine, but the command of its hook fails. -/
theorem failed_hook_status :
    let finish := run ["--config-dir", "cfg", "--onevent", "false"]
      (Host.scripted (.ok ⟨1, [], []⟩)) eventInput
    finish.ending = .exit 1 ∧
      finish.launches = hookLaunches "/bin/sh" "false" [] [.volumeChanged 5] := by
  intro finish
  have events : (Stream.read eventInput).items.filterMap StreamItem.event? =
      [.volumeChanged 5] := by
    decide +kernel
  have whole : (Stream.read eventInput).stop.isNone = true := by decide +kernel
  have taken : Taken (lines eventInput) (Stream.read eventInput).items none :=
    taken_iff.2 ⟨rfl, (Option.isNone_iff_eq_none.1 whole).symm⟩
  have clean : (Host.scripted (.ok ⟨1, [], []⟩)).environment.Clean := by
    simp [Host.scripted, Environment.Clean]
  have checked : StoredSettings.exists? (Host.scripted (.ok ⟨1, [], []⟩)).files settingsPath =
    .ok false := rfl
  have plainCommand (command : String)
      (given : some (Given.value "false") = some (.value command)) : hasNull command = false := by
    cases given
    decide
  obtain ⟨isTwo, -, waits, -⟩ := event_mode_status
    (show Options.read ["--config-dir", "cfg", "--onevent", "false"] = .ok _ from rfl) rfl clean
    located_settingsPath (by decide +kernel) checked taken (by decide +kernel) plainCommand
    (by rw [events]; decide)
  have begins : finish.ending ≠ .exit 2 := by
    rw [Ne, show finish.ending = .exit 2 ↔ _ from isTwo]
    rintro (⟨text, given, -⟩ | lacks)
    · cases given
    · exact absurd (lacks "false" rfl) (by decide)
  obtain ⟨command, begun, moves, given, goesOn, waited⟩ := waits begins
  cases given
  refine ⟨?_, ?_⟩
  · have inside : 0 < ((Stream.read eventInput).items.filterMap StreamItem.event?).length := by
      rw [events]
      decide
    have failed := waited.served.fails goesOn.system (by decide) (waited.waited 0 inside)
    rw [show finish.ending = _ from waited.ending, streamStatus,
      if_neg fun both => List.ne_nil_of_mem failed both.1]
  · rw [show finish.launches = _ from waited.launches, events, goesOn.environment]
    rfl

end EventHooks
