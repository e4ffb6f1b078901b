import EventHooks.CommandLine
import EventHooks.Proofs.FieldReading
import EventHooks.Proofs.HookSteps
import EventHooks.Proofs.SettingsUpdate
import EventHooks.Proofs.StoredSettings

/-!
# The settings in force

A run takes the settings that its file stores, or the defaults, and puts the values that the options
give in their place. A stored level that is no level ends it before that (`run_of_bad_level`);
otherwise it does what is asked for with the settings in force, once these are saved if they are to
be (`run_of_good_level`).
-/
namespace EventHooks

open CommandLine

namespace Settings

/-- The settings with the values that the options give in place of their own. -/
def override (settings : Settings) (options : Options) : Settings :=
  { settings with
    shell := options.shell.or settings.shell
    onevent := options.onevent.or settings.onevent }

/-- The stored level is a text that names no level in any case. -/
def HasBadLevel (settings : Settings) : Prop :=
  ∃ text, settings.logLevel = some (.value text) ∧
    ∀ level : LogLevel, Text.upperCase text ≠ level.name

/-- There is no command for events, or an empty one. -/
def LacksCommand (settings : Settings) : Prop :=
  ∀ command, settings.onevent = some (.value command) → command = ""

theorem update_changes (settings : Settings) (options : Options) :
    settings.update (changes options) =
      (settings.override options, .ok (decide (settings.override options ≠ settings))) := by
  have known : Changes.AreKnown (changes options) := by
    simp [Changes.AreKnown, Changes.names, changes]
  have distinct : (Changes.names (changes options)).Nodup := by
    simp [Changes.names, changes, Setting.name]
  have updated : (settings.update (changes options)).1 = settings.override options := by
    refine ext_get fun setting => ?_
    rw [get_update settings known]
    simp only [changes, Changes.given_cons]
    cases setting <;> simp [Changes.given, Setting.name, override, get]
  refine Prod.ext updated ?_
  rw [snd_update settings known distinct, updated]

end Settings

theorem LogLevel.ofName?_eq_none_iff {name : String} :
    ofName? name = none ↔ ∀ level : LogLevel, name ≠ level.name := by
  have listed (level : LogLevel) : level ∈ all := by cases level <;> decide
  simp only [ofName?, List.find?_eq_none, beq_iff_eq]
  exact ⟨fun none level same => none level (listed level) same.symm,
    fun none level _ same => none level same.symm⟩

/-- The stored level is read, unless it is bad. -/
theorem storedLevel_cases (settings : Settings) :
    (settings.HasBadLevel ∧ ∃ text, storedLevel settings = .error text) ∨
      (¬ settings.HasBadLevel ∧ ∃ level?, storedLevel settings = .ok level?) := by
  unfold storedLevel Settings.HasBadLevel
  match stored : settings.logLevel with
  | none | some .nothing => exact .inr ⟨by simp, none, rfl⟩
  | some (.value text) =>
    simp only [Option.bind_some, Given.value?]
    cases found : LogLevel.ofName? (Text.upperCase text) with
    | none => exact .inl ⟨⟨text, rfl, LogLevel.ofName?_eq_none_iff.1 found⟩, text, rfl⟩
    | some level =>
      refine .inr ⟨?_, some level, rfl⟩
      rintro ⟨other, same, bad⟩
      cases same
      simp [LogLevel.ofName?_eq_none_iff.2 bad] at found

theorem Given.filled?_eq_some {given : Option (Given String)} {text : String}
    (filled : filled? given = some text) : given = some (.value text) := by
  unfold filled? at filled
  split at filled
  · split_ifs at filled
    rw [Option.some.inj filled]
  · cases filled

theorem Settings.lacksCommand_iff {settings : Settings} :
    settings.LacksCommand ↔ Given.filled? settings.onevent = none := by
  unfold LacksCommand Given.filled?
  match settings.onevent with
  | none | some .nothing => simp
  | some (.value command) => simp [String.isEmpty_iff]

/-! ## What a file stores -/

namespace StoredSettings

/-- The settings that the file at a path stores. They are the defaults if it is missing or
corrupt. -/
def storedAt (files : FileStore) (path : Path) : Settings :=
  match exists? files path, readFile files path with
  | .ok true, .ok settings => settings
  | _, _ => {}

section Loads

variable {files others : FileStore} {path : Path}

theorem exists?_congr (same : files.status path.toText = others.status path.toText) :
    exists? files path = exists? others path := by
  unfold exists?
  rw [same]

/-- What a file stores depends on the entry at its path alone. -/
theorem storedAt_congr (same : files.status path.toText = others.status path.toText) :
    storedAt files path = storedAt others path := by
  unfold storedAt
  rw [exists?_congr same, readFile, readFile, FileStore.readFile, FileStore.readFile, same]

theorem storedValue_of_ofMembers {members : Json.Members} {settings : Settings}
    (read : Settings.ofMembers members = .ok settings) (setting : Setting) :
    Settings.storedValue members setting = .ok (settings.get setting) := by
  simp only [Settings.ofMembers, bind_eq_ok_iff] at read
  obtain ⟨_, shell, _, onevent, _, username, _, usernameCmd, _, passwordCmd, _, logLevel, same⟩ :=
    read
  cases same
  cases setting <;> assumption

/-- What is read from a file is texts, where it is given. -/
theorem areTexts_of_ofContents {contents : Bytes} {settings : Settings}
    (read : Settings.ofContents contents = .ok settings) : settings.AreTexts := by
  unfold Settings.ofContents Settings.ofText at read
  split at read
  · cases read
  · split at read
    · cases read
    · intro setting nothing
      have stored := storedValue_of_ofMembers read setting
      rw [nothing, Settings.storedValue] at stored
      split at stored <;> cases stored
    · cases read

theorem areTexts_storedAt (files : FileStore) (path : Path) : (storedAt files path).AreTexts := by
  have defaults : Settings.AreTexts {} := by
    intro setting
    cases setting <;> simp [Settings.get]
  unfold storedAt
  split
  · rename_i read
    unfold readFile at read
    split at read
    · cases read
    · exact areTexts_of_ofContents read
  · exact defaults

/-- A fresh load takes what the file stores, if its path can be checked. -/
theorem load_fresh {σ : Type} (host : Host σ) {present : Bool}
    (checked : exists? host.files path = .ok present) :
    ∃ records, ({ file? := some path } : StoredSettings).load host =
      (.ok (), ⟨storedAt host.files path, some path⟩, { host with records := records }) := by
  unfold load storedAt
  simp only [checked]
  cases present with
  | false =>
    obtain ⟨records, logged⟩ := host.exists_log .debug .settings
      s!"Settings file does not exist: {fileName ⟨{}, some path⟩}"
    exact ⟨records, by rw [logged]⟩
  | true =>
    cases read : readFile host.files path with
    | ok settings =>
      obtain ⟨records, logged⟩ := host.exists_log .info .settings
        s!"Loaded settings from {path.toText}"
      exact ⟨records, by simp only [logged]⟩
    | error fault =>
      obtain ⟨records, logged⟩ := host.exists_log .warning .settings
        s!"Failed to load settings from {path.toText}: {fault.message}"
      exact ⟨records, by simp only [logged]⟩

end Loads

end StoredSettings

/-! ## Saves -/

theorem mem_intercalate {c : Char} (other : c ≠ '/') (names : List String) :
    c ∈ ['/'].intercalate (names.map String.toList) ↔ ∃ name ∈ names, c ∈ name.toList := by
  induction names with
  | nil => simp
  | cons name rest ih =>
    cases rest with
    | nil => simp
    | cons next rest =>
      rw [List.map_cons, List.map_cons, List.intercalate_cons_cons, ← List.map_cons,
        List.mem_append, List.mem_append, ih]
      simp [other]

/-- A null character in the path of a directory is in the paths of its entries. -/
theorem Path.hasNull_parent {path : Path} (plain : hasNull path.toText = false) :
    hasNull path.parent.toText = false := by
  have absent {path : Path} : hasNull path.toText = false ↔
      '\x00' ∉ path.root.toList ∧ ∀ name ∈ path.names, '\x00' ∉ name.toList := by
    obtain ⟨root, names⟩ := path
    unfold hasNull toText
    split_ifs with empty
    · simp_all
    · simp [mem_intercalate]
  rw [absent] at plain ⊢
  exact ⟨plain.1, fun name member => plain.2 name (List.mem_of_mem_dropLast member)⟩

/-- A path without null characters may be written to. -/
theorem Settings.writeTo_ne_refused {path : Path} (plain : hasNull path.toText = false)
    (settings : Settings) (files : FileStore) (refusal : Refusal) :
    (settings.writeTo files path).1 ≠ .error (.refused refusal) := by
  unfold writeTo
  rw [Path.hasNull_parent plain]
  simp only [Bool.false_eq_true, if_false, plain]
  split
  · simp
  · split <;> simp

namespace StoredSettings

/-- A save that is not refused leaves the files as its write does, and nothing else is changed but
the records. -/
theorem exists_save {σ : Type} {settings : Settings} {file : Path} (host : Host σ)
    (unrefused : ∀ refusal, (settings.writeTo host.files file).1 ≠ .error (.refused refusal)) :
    ∃ records, save ⟨settings, some file⟩ host = (none, ⟨settings, some file⟩,
      { host with files := (settings.writeTo host.files file).2, records := records }) := by
  unfold save
  rcases wrote : settings.writeTo host.files file with ⟨(error | refusal) | done, files⟩
  · obtain ⟨records, logged⟩ := Host.exists_log { host with files := files } .warning .settings
      s!"Failed to save settings to {file.toText}: {error.message}"
    exact ⟨records, by simp only [wrote, logged]⟩
  · exact absurd (by rw [wrote]) (unrefused refusal)
  · obtain ⟨records, logged⟩ := Host.exists_log { host with files := files } .debug .settings
      s!"Saved settings to {file.toText}"
    exact ⟨records, by simp only [wrote, logged]⟩

end StoredSettings

/-! ## Silence -/

/-- The records that report errors, in order. -/
def Host.reports {σ : Type} (host : Host σ) : List LogRecord :=
  host.records.filter (·.level = .error)

/-- Nothing was written in between and no error was reported. -/
structure Host.Silent {σ : Type} (earlier later : Host σ) : Prop where
  output : later.output = earlier.output
  reports : later.reports = earlier.reports

section Silence

variable {σ : Type} (host : Host σ)

theorem Host.Silent.trans {host middle later : Host σ} (first : host.Silent middle)
    (second : middle.Silent later) : host.Silent later :=
  ⟨second.output.trans first.output, second.reports.trans first.reports⟩

/-- A record of another level is no report of an error. -/
theorem Host.silent_log {level : LogLevel} (other : level ≠ .error) (source : LogSource)
    (message : String) : host.Silent (host.log level source message) := by
  unfold log
  split
  · exact ⟨rfl, by simp [reports, other]⟩
  · exact ⟨rfl, rfl⟩

/-- No threshold holds back the report of an error. -/
theorem Host.reports_log_error (source : LogSource) (message : String) :
    (host.log .error source message).reports = host.reports ++ [⟨.error, source, message⟩] := by
  have passes : LogLevel.passes .error host.threshold = true := by
    cases host.threshold <;> rfl
  simp [log, reports, passes]

theorem StoredSettings.silent_load (stored : StoredSettings) :
    host.Silent (stored.load host).2.2 := by
  unfold load
  split
  · exact host.silent_log (by decide) _ _
  · split
    · exact ⟨rfl, rfl⟩
    · exact host.silent_log (by decide) _ _
    · split <;> exact host.silent_log (by decide) _ _

theorem StoredSettings.silent_save (stored : StoredSettings) :
    host.Silent (stored.save host).2.2 := by
  unfold save
  split
  · exact ⟨rfl, rfl⟩
  · rename_i path _
    have written (files : FileStore) : host.Silent { host with files := files } := ⟨rfl, rfl⟩
    rcases stored.values.writeTo host.files path with ⟨(error | refusal) | done, files⟩
    · refine (written files).trans (Host.silent_log _ ?_ _ _)
      decide
    · exact written files
    · refine (written files).trans (Host.silent_log _ ?_ _ _)
      decide

end Silence

/-! ## Runs -/

section Runs

variable {σ : Type} {arguments : List String} {options : Options} {host : Host σ} {file : Path}

/-- What a run goes on with, when the stored level is good: the settings in force are saved if that
is wanted and they are not the stored ones, and besides, only the log has changed. -/
structure GoesOn (options : Options) (stored : Settings) (file : Path) (host later : Host σ) :
    Prop where
  environment : later.environment = host.environment
  system : later.system = host.system
  files : later.files =
    if options.save ∧ stored.override options ≠ stored then
      ((stored.override options).writeTo host.files file).2
    else host.files

theorem exists_goesOn {stored : Settings} (host : Host σ)
    (unrefused : options.save → stored.override options ≠ stored → ∀ refusal,
      ((stored.override options).writeTo host.files file).1 ≠ .error (.refused refusal)) :
    ∃ later, GoesOn options stored file host later ∧ host.Silent later ∧
      (if decide (stored.override options ≠ stored) && options.save then
          StoredSettings.save ⟨stored.override options, some file⟩ host
        else (none, ⟨stored.override options, some file⟩, host)) =
        (none, ⟨stored.override options, some file⟩, later) := by
  by_cases saves : options.save ∧ stored.override options ≠ stored
  · obtain ⟨records, saved⟩ := StoredSettings.exists_save host (unrefused saves.1 saves.2)
    have silent := StoredSettings.silent_save host ⟨stored.override options, some file⟩
    rw [saved] at silent
    refine ⟨{ host with
      files := ((stored.override options).writeTo host.files file).2
      records := records }, ⟨rfl, rfl, (if_pos saves).symm⟩, silent, ?_⟩
    rw [if_pos (by simp [saves]), saved]
  · refine ⟨host, ⟨rfl, rfl, (if_neg saves).symm⟩, ⟨rfl, rfl⟩, if_neg ?_⟩
    simpa [and_comm] using saves

variable [OperatingSystem σ] {present : Bool} (input : String)

theorem continueWith_of_bad_level {stored : Settings} (bad : stored.HasBadLevel)
    (host : Host σ) : ∃ records, continueWith options ⟨stored, some file⟩ host input =
      { ending := .exit 2, host := { host with records := records } } := by
  rcases storedLevel_cases stored with ⟨-, text, level⟩ | ⟨good, -⟩
  · obtain ⟨records, logged⟩ := host.exists_log .error .commandLine (invalidLevelMessage text)
    exact ⟨records, by simp only [continueWith, level, logged]⟩
  · exact absurd bad good

theorem continueWith_of_good_level {stored : Settings} (host : Host σ) (good : ¬ stored.HasBadLevel)
    (unrefused : options.save → stored.override options ≠ stored → ∀ refusal,
      ((stored.override options).writeTo host.files file).1 ≠ .error (.refused refusal)) :
    ∃ later, GoesOn options stored file host later ∧ host.Silent later ∧
      continueWith options ⟨stored, some file⟩ host input =
        perform options (stored.override options) later input := by
  rcases storedLevel_cases stored with ⟨bad, -⟩ | ⟨-, level?, level⟩
  · exact absurd bad good
  obtain ⟨later, goesOn, silent, saved⟩ := exists_goesOn host unrefused
  -- Where the options give no level, the threshold becomes that of the stored one.
  cases given : options.logLevel with
  | some given =>
    exact ⟨later, goesOn, silent,
      by simp only [continueWith, level, Settings.update_changes, given, saved]⟩
  | none =>
    cases level? with
    | none =>
      exact ⟨later, goesOn, silent,
        by simp only [continueWith, level, Settings.update_changes, given, saved]⟩
    | some threshold =>
      obtain ⟨later, ⟨environment, system, files⟩, ⟨output, reports⟩, saved⟩ :=
        exists_goesOn { host with threshold := threshold } unrefused
      exact ⟨later, ⟨environment, system, files⟩, ⟨output, reports⟩,
        by simp only [continueWith, level, Settings.update_changes, given, saved]⟩

section Accepted

variable (accepted : Options.read arguments = .ok options)
  (located : StoredSettings.fileFor (Given.filled? options.configDir) host.environment =
    some file)

include accepted located

/-- A run whose path of settings cannot be checked ends with that. -/
theorem run_of_unchecked {error : OsError}
    (unchecked : StoredSettings.exists? host.files file = .error error) :
    run arguments host input = { ending := .broken (.unreadable error),
                                 host := { host with threshold := givenLevel options } } := by
  simp only [run, accepted, runWith, located, StoredSettings.load, unchecked]

variable (checked : StoredSettings.exists? host.files file = .ok present)

include checked

/-- A run whose path of settings can be checked goes on with what the file stores. -/
theorem run_eq_continueWith : ∃ records,
    host.Silent { host with threshold := givenLevel options, records := records } ∧
      run arguments host input =
        continueWith options ⟨StoredSettings.storedAt host.files file, some file⟩
          { host with threshold := givenLevel options, records := records } input := by
  obtain ⟨records, loaded⟩ :=
    StoredSettings.load_fresh { host with threshold := givenLevel options } checked
  have silent := StoredSettings.silent_load { host with threshold := givenLevel options }
    { file? := some file }
  rw [loaded] at silent
  refine ⟨records, ⟨rfl, silent.reports⟩, ?_⟩
  simp only [run, accepted, runWith, located, loaded]

/-- A run whose stored level is bad ends with the status two, and only the log has changed. -/
theorem run_of_bad_level (bad : (StoredSettings.storedAt host.files file).HasBadLevel) :
    ∃ threshold records, run arguments host input =
      { ending := .exit 2, host := { host with threshold := threshold, records := records } } := by
  obtain ⟨records, -, continued⟩ := run_eq_continueWith input accepted located checked
  obtain ⟨later, ended⟩ := continueWith_of_bad_level input bad
    { host with threshold := givenLevel options, records := records }
  exact ⟨_, later, continued.trans ended⟩

theorem bad_level_ends (bad : (StoredSettings.storedAt host.files file).HasBadLevel) :
    (run arguments host input).ending = .exit 2 ∧ (run arguments host input).launches = [] ∧
      (run arguments host input).host.system = host.system := by
  obtain ⟨threshold, records, ended⟩ := run_of_bad_level input accepted located checked bad
  rw [ended]
  exact ⟨rfl, rfl, rfl⟩

section Good

variable (good : ¬ (StoredSettings.storedAt host.files file).HasBadLevel)
  (unrefused : options.save →
    (StoredSettings.storedAt host.files file).override options ≠
      StoredSettings.storedAt host.files file → ∀ refusal,
    (((StoredSettings.storedAt host.files file).override options).writeTo host.files file).1 ≠
      .error (.refused refusal))

include good unrefused

/-- A run whose stored level is good does what is asked for with the settings in force. Until then
it has written nothing and reported no error. -/
theorem run_silently_of_good_level :
    ∃ later, GoesOn options (StoredSettings.storedAt host.files file) file host later ∧
      host.Silent later ∧ run arguments host input =
        perform options ((StoredSettings.storedAt host.files file).override options) later
          input := by
  obtain ⟨records, silent, continued⟩ := run_eq_continueWith input accepted located checked
  obtain ⟨later, ⟨environment, system, files⟩, laterSilent, performed⟩ :=
    continueWith_of_good_level input
      { host with threshold := givenLevel options, records := records } good unrefused
  exact ⟨later, ⟨environment, system, files⟩, silent.trans laterSilent,
    continued.trans performed⟩

theorem run_of_good_level :
    ∃ later, GoesOn options (StoredSettings.storedAt host.files file) file host later ∧
      run arguments host input =
        perform options ((StoredSettings.storedAt host.files file).override options) later
          input := by
  obtain ⟨later, goesOn, -, performed⟩ :=
    run_silently_of_good_level input accepted located checked good unrefused
  exact ⟨later, goesOn, performed⟩

end Good

end Accepted

end Runs

/-! ## A directory of settings -/

/-- The path of a file of settings in a directory. -/
def settingsPath : Path := ⟨"", ["cfg", "settings.json"]⟩

theorem located_settingsPath :
    StoredSettings.fileFor (some "cfg") [] = some settingsPath := by
  decide +kernel

end EventHooks
