import EventHooks.Proofs.AlikeHosts
import EventHooks.Proofs.RunnerAgreement
import EventHooks.Proofs.SettingsInForce

/-!
# Settings that are kept

A run that is to save its settings leaves a file from which the settings in force load again, also
where nothing was written, as nothing had changed. If an option was given nothing, a value is
written that no load takes, and the stored settings are lost. A run that is not to save leaves the
file alone (`saved_settings_stay`).
-/
namespace EventHooks

open CommandLine

/-- A command under a shell leaves the entry at a path alone, on a system that is harmless and
stays so. -/
def OperatingSystem.Spares {σ : Type} [OperatingSystem σ] (path : String) (harmless : σ → Prop)
    (shell command : String) : Prop :=
  ∀ entry, Keeps (fun world : FileStore × σ => world.1.status path = entry ∧ harmless world.2)
    shell command

theorem Settings.AreTexts.override {settings : Settings} (texts : settings.AreTexts)
    {options : Options} (isShell : options.shell ≠ some .nothing)
    (isOnevent : options.onevent ≠ some .nothing) : (settings.override options).AreTexts := by
  intro setting
  have own := texts setting
  cases setting with
  | shell =>
    cases given : options.shell with
    | none => simpa [Settings.override, Settings.get, given] using own
    | some value => simpa [Settings.override, Settings.get, given] using isShell
  | onevent =>
    cases given : options.onevent with
    | none => simpa [Settings.override, Settings.get, given] using own
    | some value => simpa [Settings.override, Settings.get, given] using isOnevent
  | username | usernameCmd | passwordCmd | logLevel => exact own

theorem Settings.exists_nothing_override (settings : Settings) {options : Options}
    (nothing : options.shell = some .nothing ∨ options.onevent = some .nothing) :
    ∃ setting, (settings.override options).get setting = some .nothing := by
  rcases nothing with shell | onevent
  · exact ⟨.shell, by simp [Settings.override, Settings.get, shell]⟩
  · exact ⟨.onevent, by simp [Settings.override, Settings.get, onevent]⟩

/-- Settings of which one is no text are written as an object that no load takes. -/
theorem Settings.ofContents_written_nothing {settings : Settings} {setting : Setting}
    (nothing : settings.get setting = some .nothing) :
    ∃ fault, ofContents (Utf8.encode settings.written) = .error fault := by
  cases read : ofContents (Utf8.encode settings.written) with
  | error fault => exact ⟨fault, rfl⟩
  | ok loaded =>
    simp only [ofContents, Utf8.decode_encode,
      Text.universalNewlines_of_plain settings.isPlain_written, String.ofList_toList, ofText,
      read_written] at read
    have stored := StoredSettings.storedValue_of_ofMembers read setting
    rw [storedValue, get?_members, nothing] at stored
    cases stored

namespace StoredSettings

section Files

variable {files : FileStore} {path : Path}

/-- A file stores what its contents do, and no settings where these cannot be read. -/
theorem storedAt_of_holds {contents : Bytes} (plain : hasNull path.toText = false)
    (holds : files.Holds path contents) :
    storedAt files path = (Settings.ofContents contents).toOption.getD {} := by
  rw [storedAt, exists?_of_holds plain holds, readFile_of_holds holds]
  cases Settings.ofContents contents <;> rfl

end Files

/-- A save that writes its file leaves the text of its settings there. -/
theorem Saves.written {σ : Type} {settings : Settings} {file : Path} {host : Host σ}
    {contents : Bytes} (saves : Saves ⟨settings, some file⟩ host file contents) :
    hasNull file.toText = false ∧
      (settings.writeTo host.files file).2.Holds file (Utf8.encode settings.written) := by
  have holds := saves.holds
  obtain ⟨same, plain⟩ := saves.contents
  obtain ⟨-, -, after, wrote, -⟩ := Settings.writeTo_eq_ok saves.noError
  rw [same, save_files rfl wrote] at holds
  exact ⟨plain, by rw [wrote]; exact holds⟩

end StoredSettings

section Runs

variable {σ : Type} {options : Options} {host begun : Host σ} {file : Path} {stored : Settings}

section Saved

variable {present : Bool}
  (saves : options.save → stored.override options ≠ stored → ∃ contents,
    StoredSettings.Saves ⟨stored.override options, some file⟩ host file contents)
  (goesOn : GoesOn options stored file host begun)

include saves goesOn

/-- When a run has gone on whose write has succeeded, the path of its file can still be checked. -/
theorem exists?_goesOn (checked : StoredSettings.exists? host.files file = .ok present) :
    ∃ present, StoredSettings.exists? begun.files file = .ok present := by
  rw [goesOn.files]
  split_ifs with writes
  · obtain ⟨contents, saves⟩ := saves writes.1 writes.2
    exact ⟨true, StoredSettings.exists?_of_holds saves.written.1 saves.written.2⟩
  · exact ⟨present, checked⟩

/-- When a run that saves has gone on, its file stores the settings in force, or no settings if an
option was given nothing. Where nothing was written, it has stored the settings in force before. -/
theorem storedAt_goesOn (isStored : StoredSettings.storedAt host.files file = stored)
    (isSaving : options.save) : StoredSettings.storedAt begun.files file =
      if options.shell = some .nothing ∨ options.onevent = some .nothing then {}
      else stored.override options := by
  have texts := StoredSettings.areTexts_storedAt host.files file
  rw [isStored] at texts
  rw [goesOn.files]
  by_cases changed : stored.override options = stored
  · have noneNothing : ¬ (options.shell = some .nothing ∨ options.onevent = some .nothing) := by
      intro nothing
      obtain ⟨setting, isNothing⟩ := stored.exists_nothing_override nothing
      rw [changed] at isNothing
      exact texts setting isNothing
    rw [if_neg fun writes => writes.2 changed, if_neg noneNothing, isStored, changed]
  · obtain ⟨contents, saves⟩ := saves isSaving changed
    rw [if_pos ⟨isSaving, changed⟩,
      StoredSettings.storedAt_of_holds saves.written.1 saves.written.2]
    split_ifs with nothing
    · obtain ⟨setting, isNothing⟩ := stored.exists_nothing_override nothing
      obtain ⟨fault, failed⟩ := Settings.ofContents_written_nothing isNothing
      rw [failed]
      rfl
    · rw [not_or] at nothing
      rw [Settings.ofContents_written (texts.override nothing.1 nothing.2)]
      rfl

end Saved

variable [OperatingSystem σ] {arguments : List String} {harmless : σ → Prop}

/-- A command that spares the file leaves it to the run as it was when the run went on. -/
theorem status_perform
    (spares : ∀ command, options.command? (stored.override options) = some command →
      OperatingSystem.Spares file.toText harmless
        ((stored.override options).effectiveShell host.environment) command)
    (isHarmless : harmless host.system) (goesOn : GoesOn options stored file host begun)
    (input : String) :
    (perform options (stored.override options) begun input).host.files.status file.toText =
      begun.files.status file.toText := by
  rw [← goesOn.environment] at spares
  rw [← goesOn.system] at isHarmless
  exact (kept_perform (fun command isCommand => spares command isCommand _) ⟨rfl, isHarmless⟩
    input).1

section Accepted

variable (input : String) (accepted : Options.read arguments = .ok options)
  (located : StoredSettings.fileFor (Given.filled? options.configDir) host.environment = some file)
  (isStored : StoredSettings.storedAt host.files file = stored)
  (spares : ∀ command, options.command? (stored.override options) = some command →
    OperatingSystem.Spares file.toText harmless
      ((stored.override options).effectiveShell host.environment) command)
  (isHarmless : harmless host.system)

include accepted located isStored spares isHarmless

/-- After a run that saves its settings, with success if it writes at all, its file can be loaded
again. -/
theorem load_after_save {present : Bool}
    (checked : StoredSettings.exists? host.files file = .ok present) (isSaving : options.save)
    (good : ¬ stored.HasBadLevel)
    (saves : stored.override options ≠ stored → ∃ contents,
      StoredSettings.Saves ⟨stored.override options, some file⟩ host file contents) :
    (∃ begun, GoesOn options stored file host begun ∧
      run arguments host input = perform options (stored.override options) begun input) ∧
    ∃ records, ({ file? := some file } : StoredSettings).load (run arguments host input).host =
      (.ok (), ⟨if options.shell = some .nothing ∨ options.onevent = some .nothing then {}
        else stored.override options, some file⟩,
        { (run arguments host input).host with records := records }) := by
  subst isStored
  obtain ⟨begun, goesOn, performed⟩ := run_of_good_level input accepted located checked good
    fun _ changed refusal => by
      obtain ⟨contents, saves⟩ := saves changed
      rw [saves.noError]
      simp
  have same : (run arguments host input).host.files.status file.toText =
      begun.files.status file.toText := by
    rw [performed]
    exact status_perform spares isHarmless goesOn input
  obtain ⟨present, stillChecked⟩ := exists?_goesOn (fun _ => saves) goesOn checked
  rw [← StoredSettings.exists?_congr same] at stillChecked
  obtain ⟨records, loaded⟩ := StoredSettings.load_fresh (run arguments host input).host stillChecked
  rw [StoredSettings.storedAt_congr same,
    storedAt_goesOn (fun _ => saves) goesOn rfl isSaving] at loaded
  exact ⟨⟨begun, goesOn, performed⟩, records, loaded⟩

/-- A run that is not to save, or that ends with the check of the stored level, leaves its file as
it was. -/
theorem status_of_unsaved (unsaved : options.save = false ∨ stored.HasBadLevel) :
    (run arguments host input).host.files.status file.toText =
      host.files.status file.toText := by
  subst isStored
  cases checked : StoredSettings.exists? host.files file with
  | error error => rw [run_of_unchecked input accepted located checked]
  | ok present =>
    by_cases bad : (StoredSettings.storedAt host.files file).HasBadLevel
    · obtain ⟨threshold, records, ended⟩ := run_of_bad_level input accepted located checked bad
      rw [ended]
    · have notSaving := unsaved.resolve_right bad
      obtain ⟨begun, goesOn, performed⟩ := run_of_good_level input accepted located checked bad
        (by simp [notSaving])
      have untouched : begun.files = host.files := by
        rw [goesOn.files, if_neg (by simp [notSaving])]
      rw [performed]
      exact (status_perform spares isHarmless goesOn input).trans (by rw [untouched])

end Accepted

/-- A run that is to save its settings, and gets past the check of the stored level with any write
it makes, goes on with the settings in force, and afterwards its file can be loaded; what is loaded
are the settings in force, or no settings if an option that is saved was given nothing. A run that
is not to save, or that ends with the check, leaves its file as it was. -/
theorem saved_settings_stay (input : String) (accepted : Options.read arguments = .ok options)
    (located : StoredSettings.fileFor (Given.filled? options.configDir) host.environment =
      some file)
    (spares : ∀ command, options.command?
      ((StoredSettings.storedAt host.files file).override options) = some command →
        OperatingSystem.Spares file.toText harmless (((StoredSettings.storedAt host.files
          file).override options).effectiveShell host.environment) command)
    (isHarmless : harmless host.system) :
    let stored := StoredSettings.storedAt host.files file
    let inForce := stored.override options
    let finish := run arguments host input
    (∀ present, StoredSettings.exists? host.files file = .ok present → options.save →
      ¬ stored.HasBadLevel →
        (inForce ≠ stored → ∃ contents,
          StoredSettings.Saves ⟨inForce, some file⟩ host file contents) →
            (∃ begun, GoesOn options stored file host begun ∧
              finish = perform options inForce begun input) ∧
            ∃ records, ({ file? := some file } : StoredSettings).load finish.host =
              (.ok (), ⟨if options.shell = some .nothing ∨ options.onevent = some .nothing then {}
                else inForce, some file⟩, { finish.host with records := records })) ∧
      (options.save = false ∨ stored.HasBadLevel →
        finish.host.files.status file.toText = host.files.status file.toText) := by
  intro stored inForce finish
  refine ⟨fun present checked isSaving good saves => ?_, fun unsaved => ?_⟩
  · exact load_after_save input accepted located rfl spares isHarmless checked isSaving good saves
  · exact status_of_unsaved input accepted located rfl spares isHarmless unsaved

end Runs

/-! ## A file of settings -/

/-- A host on which the file holds a text, and every command succeeds. -/
def Host.withSettings (text : String) : Host Scripted where
  environment := []
  files := ⟨[(["cfg"], .directory), (["cfg", "settings.json"], .file (Utf8.encode text) false)], []⟩
  system := ⟨.ok ⟨0, [], []⟩⟩

/-- The files after other settings were written there. -/
def FileStore.withSettings (settings : Settings) : FileStore :=
  ⟨[(["cfg"], .directory),
    (["cfg", "settings.json"], .file (Utf8.encode settings.written) false)], []⟩

theorem spares_scripted (path shell command : String) :
    OperatingSystem.Spares path (fun _ : Scripted => True) shell command :=
  fun _ => ⟨fun holds _ _ => holds, fun holds _ => holds, fun holds _ _ => holds,
    fun holds _ => holds⟩

theorem checked_withSettings (text : String) :
    StoredSettings.exists? (Host.withSettings text).files settingsPath = .ok true := rfl

theorem writeTo_withSettings (text : String) (settings : Settings) :
    settings.writeTo (Host.withSettings text).files settingsPath =
      (.ok (), .withSettings settings) := by
  have made : (Host.withSettings text).files.ensureDirectory settingsPath.parent =
      .ok (Host.withSettings text).files := FileStore.ensureDirectory_of_directory rfl
  have notNull : hasNull settingsPath.parent.toText = false := by decide +kernel
  unfold Settings.writeTo
  rw [notNull, made]
  rfl

theorem saves_withSettings (text : String) (settings : Settings) :
    StoredSettings.Saves ⟨settings, some settingsPath⟩ (Host.withSettings text) settingsPath
      (Utf8.encode settings.written) := by
  have wrote := writeTo_withSettings text settings
  have file : (⟨settings, some settingsPath⟩ : StoredSettings).file? = some settingsPath := rfl
  refine ⟨file, by rw [wrote], false, ?_⟩
  rw [StoredSettings.save_files file wrote]
  rfl

/-- The text of a file with a command for events. -/
def commandText : String := "\x7b\"onevent\":\"true\"\x7d"

theorem stored_commandText :
    StoredSettings.storedAt (Host.withSettings commandText).files settingsPath =
      { onevent := some (.value "true") } := by
  decide +kernel

/-- A shell that is given and saved is loaded again, and so is the stored command. -/
theorem given_shell_is_kept :
    ∃ records,
      let host := (run ["--config-dir", "cfg", "--save", "--shell", "/bin/dash"]
        (Host.withSettings commandText) "").host
      ({ file? := some settingsPath } : StoredSettings).load host =
        (.ok (), ⟨{ shell := some (.value "/bin/dash"), onevent := some (.value "true") },
          some settingsPath⟩, { host with records := records }) := by
  have accepted : Options.read ["--config-dir", "cfg", "--save", "--shell", "/bin/dash"] =
      .ok { configDir := some (.value "cfg"), shell := some (.value "/bin/dash"), save := true } :=
    rfl
  have located : StoredSettings.fileFor (some "cfg") (Host.withSettings commandText).environment =
    some settingsPath := located_settingsPath
  have kept := (saved_settings_stay "" accepted located
    (fun command _ => spares_scripted _ _ command) trivial).1 true
    (checked_withSettings commandText) rfl
  rw [stored_commandText] at kept
  have good : ¬ Settings.HasBadLevel { onevent := some (.value "true") } := by
    simp [Settings.HasBadLevel]
  exact (kept good fun _ => ⟨_, saves_withSettings commandText _⟩).2

/-- Two dashes given as the shell are written as a value that no load takes. The stored command,
with which the run went on, is lost with it. -/
theorem nothing_given_is_lost :
    let host := Host.withSettings commandText
    let options : Options :=
      { shell := some .nothing, configDir := some (.value "cfg"), save := true }
    let stored := StoredSettings.storedAt host.files settingsPath
    let inForce := stored.override options
    let finish := run ["--config-dir", "cfg", "--save", "--shell=--"] host ""
    Options.read ["--config-dir", "cfg", "--save", "--shell=--"] = .ok options ∧
      ¬ stored.HasBadLevel ∧
      StoredSettings.Saves ⟨inForce, some settingsPath⟩ host settingsPath
        (Utf8.encode inForce.written) ∧
      inForce.onevent = some (.value "true") ∧
      ∃ records, ({ file? := some settingsPath } : StoredSettings).load finish.host =
        (.ok (), ⟨{}, some settingsPath⟩, { finish.host with records := records }) := by
  intro host options stored inForce finish
  have accepted : Options.read ["--config-dir", "cfg", "--save", "--shell=--"] = .ok options := rfl
  have located : StoredSettings.fileFor (Given.filled? options.configDir) host.environment =
    some settingsPath := located_settingsPath
  have isStored : stored = { onevent := some (.value "true") } := stored_commandText
  have good : ¬ stored.HasBadLevel := by
    simp [isStored, Settings.HasBadLevel]
  have onevent : inForce.onevent = some (.value "true") := by
    simp [inForce, isStored, Settings.override, options]
  have saves := saves_withSettings commandText inForce
  obtain ⟨begun, goesOn, performed⟩ := run_of_good_level "" accepted located
    (checked_withSettings commandText) good fun _ _ refusal => by
      rw [saves.noError]
      simp
  have same : finish.host.files.status settingsPath.toText =
      begun.files.status settingsPath.toText := by
    rw [show finish = _ from performed]
    exact status_perform (fun command _ => spares_scripted _ _ command) trivial goesOn ""
  obtain ⟨present, checked⟩ :=
    exists?_goesOn (fun _ _ => ⟨_, saves⟩) goesOn (checked_withSettings commandText)
  rw [← StoredSettings.exists?_congr same] at checked
  obtain ⟨records, loaded⟩ := StoredSettings.load_fresh finish.host checked
  rw [StoredSettings.storedAt_congr same, storedAt_goesOn (fun _ _ => ⟨_, saves⟩) goesOn rfl rfl]
    at loaded
  exact ⟨accepted, good, saves, onevent, records, loaded⟩

end EventHooks
