import EventHooks.Proofs.Precedence

/-!
# Running a single command

A run for a single command asks the system for nothing but this command, which gets nothing to read,
and does not look at the standard input. If the command succeeds and its output is the bytes of a
text, the run writes exactly these bytes. Otherwise it writes nothing and reports one error, in the
words for the failure (`single_command_transparent`).
-/
namespace EventHooks

open CommandLine

variable {σ : Type}

/-! ## What there is to tell -/

/-- What a run has to tell when a command has come to its end: the output of a command that has
succeeded, if this is the bytes of a text, and one failure otherwise. -/
inductive Tells (shell command : String) : Except OsError Completion → Except Failure Bytes → Prop
  | output {completion : Completion} {text : String} (success : completion.status = 0)
    (written : Utf8.encode text = completion.output) :
    Tells shell command (.ok completion) (.ok completion.output)
  | launch (error : OsError) :
    Tells shell command (.error error) (.error (.spawn shell command error))
  | status {completion : Completion} {failure : Failure} (failed : completion.status ≠ 0)
    (reports : completion.Reports shell command failure) :
    Tells shell command (.ok completion) (.error failure)
  | bytes {completion : Completion} (success : completion.status = 0)
    (unwritten : ∀ text, Utf8.encode text ≠ completion.output) :
    Tells shell command (.ok completion) (.error (.undecodable shell command))

/-- A run that was begun on a host has told that much: it has written the output and nothing else,
or it has written nothing and reported the failure as its one error. -/
def Finish.Conveys (begun : Host σ) (finish : Finish σ) : Except Failure Bytes → Prop
  | .ok output => finish.ending = .exit 0 ∧ finish.host.output = begun.output ++ output ∧
      finish.host.reports = begun.reports
  | .error failure => finish.ending = .exit 1 ∧ finish.host.output = begun.output ∧
      finish.host.reports = begun.reports ++ [⟨.error, .commandLine, failure.message⟩]

/-- What was silent before does not count. -/
theorem Finish.Conveys.of_silent {host begun : Host σ} {finish : Finish σ}
    {result : Except Failure Bytes} (conveys : finish.Conveys begun result)
    (silent : host.Silent begun) : finish.Conveys host result := by
  cases result with
  | ok output => rwa [Conveys, ← silent.output, ← silent.reports]
  | error failure => rwa [Conveys, ← silent.output, ← silent.reports]

variable [OperatingSystem σ]

/-- The files and the system after one command, which was launched with nothing to read and, where
that succeeded, run to its end. -/
def Host.aftermath (host : Host σ) (shell command : String) : FileStore × σ :=
  match OperatingSystem.launch (shellInvocation shell command host.environment) .empty
    host.files host.system with
  | (.error _, files, system) => (files, system)
  | (.ok process, files, system) => (OperatingSystem.collect process [] files system).2

section Runs

variable {shell command : String}

/-- The answer to a command that was run is what there is to tell, as a text. -/
theorem exists_tells (shell command : String) (completion : Completion) :
    ∃ result, Tells shell command (.ok completion) result ∧
      (completion.text shell command).map Utf8.encode = result := by
  unfold Completion.text
  by_cases success : completion.status = 0
  · rw [Completion.verdict_eq_ok_iff.2 ⟨success, rfl⟩]
    cases decoded : Utf8.decode? completion.output with
    | some text =>
      have written := Utf8.decode?_eq_some_iff.1 decoded
      exact ⟨_, .output success written, by simp only [decoded, Except.map, written]⟩
    | none =>
      have unwritten := Utf8.decode?_eq_none_iff.1 decoded
      exact ⟨_, .bytes success unwritten, by simp only [decoded]; rfl⟩
  · obtain ⟨failure, reports, verdict⟩ := Completion.exists_reports shell command success
    exact ⟨_, .status success reports, by rw [verdict]; rfl⟩

variable (plainShell : hasNull shell = false) (plainCommand : hasNull command = false)

include plainShell plainCommand

theorem Host.run_tells (host : Host σ) (clean : host.environment.Clean) :
    ∃ result, Tells shell command (host.outcome shell command) result ∧
      (host.run shell command).1.map Utf8.encode = result.mapError .failed := by
  rw [host.fst_run plainShell plainCommand clean]
  cases host.outcome shell command with
  | error error => exact ⟨_, .launch error, rfl⟩
  | ok completion =>
    obtain ⟨result, tells, same⟩ := exists_tells shell command completion
    refine ⟨result, tells, ?_⟩
    rw [← same]
    cases answer : completion.text shell command <;> simp only [answer] <;> rfl

/-- A command that is run leaves its traces on the files and the system, and none in what is written
and reported. -/
theorem Host.run_leaves (host : Host σ) (clean : host.environment.Clean) :
    host.Silent (host.run shell command).2 ∧
      ((host.run shell command).2.files, (host.run shell command).2.system) =
        host.aftermath shell command := by
  obtain ⟨records, logged⟩ := host.exists_log .info .process (runningMessage shell command)
  have silent := host.silent_log (show LogLevel.info ≠ .error by decide) .process
    (runningMessage shell command)
  rw [logged] at silent
  have unrefused := refusal?_of_clean plainShell plainCommand clean
  simp only [run, aftermath, logged, launch, unrefused]
  rcases OperatingSystem.launch (shellInvocation shell command host.environment) .empty
    host.files host.system with ⟨error | process, files, system⟩
  · exact ⟨⟨silent.output, silent.reports⟩, rfl⟩
  · exact ⟨⟨silent.output, silent.reports⟩, rfl⟩

/-- A run of one command conveys what there is to tell of it. -/
theorem conveys_runSingle {settings : Settings} (host : Host σ) (clean : host.environment.Clean)
    (isShell : settings.effectiveShell host.environment = shell) :
    ((runSingle settings host (.value command)).host.files,
        (runSingle settings host (.value command)).host.system) = host.aftermath shell command ∧
      ∃ result, Tells shell command (host.outcome shell command) result ∧
        (runSingle settings host (.value command)).Conveys host result := by
  obtain ⟨result, tells, answer⟩ := host.run_tells plainShell plainCommand clean
  obtain ⟨silent, leaves⟩ := host.run_leaves plainShell plainCommand clean
  rcases ran : host.run shell command with ⟨(failure | refusal) | text, later⟩ <;>
    simp only [ran] at answer leaves silent <;> simp only [runSingle, isShell, ran]
  · obtain ⟨records, logged⟩ := later.exists_log .error .commandLine failure.message
    have reports := later.reports_log_error .commandLine failure.message
    cases result with
    | ok output => cases answer
    | error told =>
      cases answer
      rw [silent.reports] at reports
      rw [logged] at reports ⊢
      exact ⟨leaves, _, tells, rfl, silent.output, reports⟩
  · cases result <;> cases answer
  · cases result with
    | error told => cases answer
    | ok output =>
      cases answer
      have written := congrArg (· ++ Utf8.encode text) silent.output
      exact ⟨leaves, _, tells, rfl, written, silent.reports⟩

end Runs

/-- A run for a single command does not look at the standard input. -/
theorem run_single_congr {arguments : List String} {options : Options} {command : String}
    (accepted : Options.read arguments = .ok options)
    (single : options.run = some (.value command)) (host : Host σ) (input other : String) :
    run arguments host input = run arguments host other := by
  simp only [run, accepted, runWith, continueWith, perform, single]

/-- A run for a single command that gets past the check of the stored level does not look at the
standard input and launches no hook. It asks the system for this command alone, with nothing to
read, and tells what comes of it: it ends with the status zero and has written exactly the output of
the command, where this has succeeded and its output is the bytes of a text; otherwise it ends with
the status one, has written nothing, and has reported the failure as its one error. -/
theorem single_command_transparent {arguments : List String} {options : Options} {host : Host σ}
    {command : String} {file : Path} {present : Bool} (input : String)
    (accepted : Options.read arguments = .ok options)
    (single : options.run = some (.value command)) (clean : host.environment.Clean)
    (located : StoredSettings.fileFor (Given.filled? options.configDir) host.environment =
      some file)
    (checked : StoredSettings.exists? host.files file = .ok present)
    (good : ¬ (StoredSettings.storedAt host.files file).HasBadLevel)
    (plainPath : options.save → hasNull file.toText = false)
    (plainShell : hasNull (((StoredSettings.storedAt host.files file).override
      options).effectiveShell host.environment) = false)
    (plainCommand : hasNull command = false) :
    let stored := StoredSettings.storedAt host.files file
    let shell := (stored.override options).effectiveShell host.environment
    let finish := run arguments host input
    (∀ other, run arguments host other = finish) ∧ finish.launches = [] ∧
      ∃ begun result, GoesOn options stored file host begun ∧
        (finish.host.files, finish.host.system) = begun.aftermath shell command ∧
        Tells shell command (begun.outcome shell command) result ∧ finish.Conveys host result := by
  intro stored shell finish
  obtain ⟨begun, goesOn, silent, performed⟩ :=
    run_silently_of_good_level input accepted located checked good
      fun isSaving _ => Settings.writeTo_ne_refused (plainPath isSaving) _ _
  have ran : finish = runSingle (stored.override options) begun (.value command) := by
    rw [show finish = _ from performed, perform, single]
  have isShell : (stored.override options).effectiveShell begun.environment = shell := by
    rw [goesOn.environment]
  obtain ⟨leaves, result, tells, conveys⟩ :=
    conveys_runSingle plainShell plainCommand begun (goesOn.environment ▸ clean) isShell
  refine ⟨fun other => run_single_congr accepted single host other input, ?_, ?_⟩
  · rw [ran, launches_runSingle]
  · rw [ran]
    exact ⟨begun, result, goesOn, leaves, tells, conveys.of_silent silent⟩

/-! ## Output with and without a text -/

theorem Host.outcome_of_script (host : Host Scripted) (shell command : String) :
    host.outcome shell command = host.system.outcome := by
  unfold outcome
  cases script : host.system.outcome <;> simp [OperatingSystem.launch, OperatingSystem.collect,
    script, Except.map, Except.toOption]

/-- A command that prints an accented letter and a line ending of two characters. -/
def accented : Completion := ⟨0, [0xC3, 0xA9, 0x0D, 0x0A], []⟩

/-- A command that prints the first half of a letter. -/
def halved : Completion := ⟨0, [0xC3], []⟩

/-- The letter and the line ending are written as they are; the half of a letter is not written but
reported. -/
theorem accented_letter_is_conveyed :
    let arguments := ["--config-dir", "cfg", "--run", "cat"]
    let finish := run arguments (Host.scripted (.ok accented)) "unread"
    let failed := run arguments (Host.scripted (.ok halved)) "unread"
    finish.ending = .exit 0 ∧ finish.host.output = [0xC3, 0xA9, 0x0D, 0x0A] ∧
      finish.host.reports = [] ∧ failed.ending = .exit 1 ∧ failed.host.output = [] ∧
      failed.host.reports =
        [⟨.error, .commandLine, "Failed to run 'cat' using '/bin/sh'"⟩] := by
  intro arguments finish failed
  have clean : Environment.Clean [] := by simp [Environment.Clean]
  have stored : StoredSettings.storedAt ⟨[], []⟩ settingsPath = {} := by decide +kernel
  have good : ¬ (StoredSettings.storedAt ⟨[], []⟩ settingsPath).HasBadLevel := by
    simp [stored, Settings.HasBadLevel]
  have conveys (completion : Completion) : ∃ result, Tells "/bin/sh" "cat" (.ok completion) result ∧
      (run arguments (Host.scripted (.ok completion)) "unread").Conveys
        (Host.scripted (.ok completion)) result := by
    obtain ⟨-, -, begun, result, goesOn, -, tells, conveys⟩ :=
      @single_command_transparent Scripted _ arguments _ (.scripted (.ok completion)) "cat"
        settingsPath false "unread" rfl rfl clean located_settingsPath rfl good
        (fun isSaving => absurd isSaving (by decide))
        (by decide +kernel : hasNull "/bin/sh" = false) (by decide)
    rw [begun.outcome_of_script, goesOn.system] at tells
    exact ⟨result, tells, conveys⟩
  have letter : Utf8.encode "é\r\n" = accented.output := by decide +kernel
  have noText (text : String) : Utf8.encode text ≠ halved.output :=
    Utf8.decode?_eq_none_iff.1 (by decide +kernel) text
  obtain ⟨result, tells, told⟩ := conveys accented
  obtain ⟨other, otherTells, otherTold⟩ := conveys halved
  cases tells with
  | status unsuccessful _ => exact absurd rfl unsuccessful
  | bytes _ unwritten => exact absurd letter (unwritten _)
  | output =>
    cases otherTells with
    | status unsuccessful _ => exact absurd rfl unsuccessful
    | output _ written => exact absurd written (noText _)
    | bytes =>
      obtain ⟨ending, output, reports⟩ := told
      obtain ⟨otherEnding, otherOutput, otherReports⟩ := otherTold
      exact ⟨ending, output, reports, otherEnding, otherOutput, otherReports⟩

end EventHooks
