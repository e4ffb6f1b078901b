import EventHooks.Proofs.HookLaunches
import EventHooks.Proofs.KeptSettings

/-!
# Options before stored settings

A shell and a command that are given as options hide the stored ones. Two runs whose files store
different settings then launch the same hooks and end alike, except that a stored level that is bad
ends its own run before that (`given_options_prevail`).
-/
namespace EventHooks

open CommandLine Text

variable {σ : Type} {options : Options} {stored otherStored : Settings}

theorem Settings.override_shell (given : options.shell.isSome) (stored : Settings) :
    (stored.override options).shell = options.shell :=
  Option.or_of_isSome given

theorem Settings.override_onevent (given : options.onevent.isSome) (stored : Settings) :
    (stored.override options).onevent = options.onevent :=
  Option.or_of_isSome given

/-- Files and systems stay alike when settings are written to a file on one side. -/
def Overlooks (alike : FileStore × σ → FileStore × σ → Prop) (file : Path) : Prop :=
  ∀ {files others : FileStore} {system other : σ}, alike (files, system) (others, other) →
    ∀ settings : Settings, alike ((settings.writeTo files file).2, system) (others, other) ∧
      alike (files, system) ((settings.writeTo others file).2, other)

/-- Hosts are still alike when two runs have gone on with settings of their own. -/
theorem GoesOn.alike {alike : FileStore × σ → FileStore × σ → Prop} {file : Path}
    {first second begun otherBegun : Host σ} (goesOn : GoesOn options stored file first begun)
    (otherGoesOn : GoesOn options otherStored file second otherBegun)
    (overlooks : Overlooks alike file) (hosts : first.Alike alike second) :
    begun.Alike alike otherBegun := by
  refine ⟨?_, ?_⟩
  · rw [goesOn.environment, otherGoesOn.environment, hosts.environment]
  · rw [goesOn.files, goesOn.system, otherGoesOn.files, otherGoesOn.system]
    have world := hosts.world
    split_ifs
    · exact (overlooks (overlooks world _).1 _).2
    · exact (overlooks world _).1
    · exact (overlooks world _).2
    · exact world

section Runs

variable [OperatingSystem σ]

/-- A run looks at no settings but the shell and the command for events. -/
theorem perform_congr {settings others : Settings} (shell : settings.shell = others.shell)
    (onevent : settings.onevent = others.onevent) (host : Host σ) (input : String) :
    perform options settings host input = perform options others host input := by
  unfold perform runSingle runEvents Settings.effectiveShell
  rw [shell, onevent]

theorem launches_runSingle (settings : Settings) (host : Host σ) (given : Given String) :
    (runSingle settings host given).launches = [] := by
  unfold runSingle
  cases given with
  | nothing => rfl
  | value command =>
    dsimp only
    split <;> rfl

/-- What a run launches is known without the files and the system. -/
theorem launches_perform {settings : Settings} {host other : Host σ}
    (environment : host.environment = other.environment) (input : String) :
    (perform options settings host input).launches =
      (perform options settings other input).launches := by
  unfold perform
  cases options.run with
  | some given => rw [launches_runSingle, launches_runSingle]
  | none =>
    obtain ⟨items, stop, taken⟩ := exists_taken (lines input)
    rw [launches_runEvents taken, launches_runEvents taken, environment]

/-- Where shell and command are given, two runs that differ in what their files store launch the
same hooks, with the same shell, command and environments, and end alike if the command overlooks
the file of settings; but a run whose stored level is bad ends with the status two before its first
launch. -/
theorem given_options_prevail {arguments : List String} {first second : Host σ} {file : Path}
    {present otherPresent : Bool} (input : String) (accepted : Options.read arguments = .ok options)
    (shell : options.shell.isSome) (onevent : options.onevent.isSome)
    (environment : first.environment = second.environment)
    (located : StoredSettings.fileFor (Given.filled? options.configDir) first.environment =
      some file)
    (plainPath : hasNull file.toText = false)
    (checked : StoredSettings.exists? first.files file = .ok present)
    (otherChecked : StoredSettings.exists? second.files file = .ok otherPresent) :
    let stored := StoredSettings.storedAt first.files file
    let otherStored := StoredSettings.storedAt second.files file
    let finish := run arguments first input
    let otherFinish := run arguments second input
    (stored.HasBadLevel → finish.ending = .exit 2 ∧ finish.launches = [] ∧
      finish.host.system = first.system) ∧
    (otherStored.HasBadLevel → otherFinish.ending = .exit 2 ∧ otherFinish.launches = [] ∧
      otherFinish.host.system = second.system) ∧
    (¬ stored.HasBadLevel → ¬ otherStored.HasBadLevel →
      finish.launches = otherFinish.launches ∧
      ∀ alike : FileStore × σ → FileStore × σ → Prop, Overlooks alike file →
        first.Alike alike second →
          (∀ command, options.command? (stored.override options) = some command →
            OperatingSystem.Indifferent alike
              ((stored.override options).effectiveShell first.environment) command) →
            finish.Alike alike otherFinish) := by
  intro stored otherStored finish otherFinish
  have otherLocated := located
  rw [environment] at otherLocated
  refine ⟨bad_level_ends input accepted located checked,
    bad_level_ends input accepted otherLocated otherChecked, fun good otherGood => ?_⟩
  obtain ⟨begun, goesOn, performed⟩ := run_of_good_level input accepted located checked good
    fun _ _ => Settings.writeTo_ne_refused plainPath _ _
  obtain ⟨otherBegun, otherGoesOn, otherPerformed⟩ :=
    run_of_good_level input accepted otherLocated otherChecked otherGood
      fun _ _ => Settings.writeTo_ne_refused plainPath _ _
  -- Both runs go on with the same shell and the same command.
  have masked : otherFinish = perform options (stored.override options) otherBegun input := by
    rw [show otherFinish = _ from otherPerformed]
    exact perform_congr (by rw [Settings.override_shell shell, Settings.override_shell shell])
      (by rw [Settings.override_onevent onevent, Settings.override_onevent onevent]) _ _
  rw [show finish = _ from performed, masked]
  refine ⟨launches_perform ?_ input, fun alike overlooks hosts indifferent => ?_⟩
  · rw [goesOn.environment, otherGoesOn.environment, environment]
  · refine (goesOn.alike otherGoesOn overlooks hosts).perform (fun command isCommand => ?_) input
    rw [goesOn.environment]
    exact indifferent command isCommand

end Runs

/-! ## Masked settings -/

/-- Options that give a shell and a command, and a level. -/
def maskingArguments : List String :=
  ["--config-dir", "cfg", "--shell", "/bin/sh", "--onevent", "echo", "--log-level", "INFO"]

theorem read_maskingArguments : Options.read maskingArguments = .ok
    { shell := some (.value "/bin/sh"), onevent := some (.value "echo"),
      configDir := some (.value "cfg"), logLevel := some (.value .info) } :=
  rfl

/-- A line with an event. -/
def volumeLine : String := "\x7b\"event\":\"VolumeChanged\",\"volume\":7\x7d"

theorem overlooks_scripted :
    Overlooks (fun first second : FileStore × Scripted => first.2 = second.2) settingsPath :=
  fun same _ => ⟨same, same⟩

theorem indifferent_scripted (shell command : String) :
    OperatingSystem.Indifferent (fun first second : FileStore × Scripted => first.2 = second.2)
      shell command where
  launch := by
    rintro files others system _ ⟨⟩ environment input
    exact ⟨rfl, rfl⟩
  closeInput := by
    rintro files others system _ ⟨⟩ process
    rfl
  collect := by
    rintro files others system _ ⟨⟩ process rest
    exact ⟨rfl, rfl⟩
  kill := by
    rintro files others system _ ⟨⟩ process
    exact ⟨rfl, rfl⟩

/-- A stored command that is hidden changes nothing. -/
theorem stored_command_is_hidden :
    let finish := run maskingArguments (Host.withSettings commandText) volumeLine
    let plain := run maskingArguments (Host.withSettings "") volumeLine
    finish.launches = plain.launches ∧ finish.ending = plain.ending := by
  intro finish plain
  have located : StoredSettings.fileFor (some "cfg") (Host.withSettings commandText).environment =
    some settingsPath := located_settingsPath
  have environment : (Host.withSettings commandText).environment =
    (Host.withSettings "").environment := rfl
  have prevail := (given_options_prevail volumeLine read_maskingArguments rfl rfl environment
    located (by decide +kernel) (checked_withSettings commandText) (checked_withSettings "")).2.2
  have good : ¬ (StoredSettings.storedAt (Host.withSettings commandText).files
      settingsPath).HasBadLevel := by
    simp [stored_commandText, Settings.HasBadLevel]
  have otherGood : ¬ (StoredSettings.storedAt (Host.withSettings "").files
      settingsPath).HasBadLevel := by
    have defaults : StoredSettings.storedAt (Host.withSettings "").files settingsPath = {} := by
      decide +kernel
    simp [defaults, Settings.HasBadLevel]
  obtain ⟨launches, alike⟩ := prevail good otherGood
  exact ⟨launches, (alike _ overlooks_scripted ⟨rfl, rfl⟩
    fun command _ => indifferent_scripted _ command).ending⟩

/-- The text of a file with a level that is none. -/
def verboseText : String := "\x7b\"log_level\":\"verbose\"\x7d"

/-- A stored level that is none keeps the hook from being launched, though a level is given. -/
theorem stored_level_is_not_hidden :
    let finish := run maskingArguments (Host.withSettings verboseText) volumeLine
    let plain := run maskingArguments (Host.withSettings "") volumeLine
    finish.ending = .exit 2 ∧ finish.launches = [] ∧
      plain.launches = hookLaunches "/bin/sh" "echo" [] [.volumeChanged 7] := by
  intro finish plain
  have located : StoredSettings.fileFor (some "cfg") (Host.withSettings verboseText).environment =
    some settingsPath := located_settingsPath
  have bad : (StoredSettings.storedAt (Host.withSettings verboseText).files
      settingsPath).HasBadLevel := by
    have stored : StoredSettings.storedAt (Host.withSettings verboseText).files settingsPath =
        { logLevel := some (.value "verbose") } := by
      decide +kernel
    rw [stored]
    exact ⟨"verbose", rfl, fun level => by cases level <;> decide +kernel⟩
  obtain ⟨two, launches, -⟩ :=
    bad_level_ends volumeLine read_maskingArguments located (checked_withSettings verboseText) bad
  exact ⟨two, launches, by decide +kernel⟩

end EventHooks
