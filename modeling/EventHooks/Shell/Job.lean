import EventHooks.Shell.Session

/-!
# Processes of a shell

A shell starts processes that go on with a copy of its session, and waits for them. A process in
the foreground that was ended by a signal is reported.
-/
namespace EventHooks.Shell

/-! ## Starting -/

/-- The status with which a shell ends, for a reason to stop. -/
def Session.statusAt (session : Session) : Stop → Nat
  | .exit status | .failure status | .returned status => status
  | .leave _ | .next _ => session.status

/-- What the process of a session comes to that runs commands. -/
def processOf (body : Run Nat) (session : Session) : Program ProcessEnd := do
  let (result, session) ← body.run.run session
  match result with
  | .ok status => return .exited (status % 256)
  | .error stop => return .exited (session.statusAt stop % 256)

/-- The session of a process that a session starts: it knows neither its traps nor its jobs. -/
def Session.copy (session : Session) : Session :=
  { session with traps := session.traps.filter (·.2.isEmpty), jobs := [] }

/-- Starts a process that goes on with a copy of the session. -/
def forkSession (body : Run Nat) : Run ProcessId := do
  let session ← get
  perform (Program.fork (processOf body session.copy))

/-- The first descriptor that only a shell itself uses. -/
def innerDescriptor : Nat := 10

/-- Closes the descriptors that only the shell itself uses. -/
def closeInner : Run Unit :=
  alter fun process world => world.modifyRecord process fun record =>
    { record with descriptors := record.descriptors.filter (·.1 < innerDescriptor) }

/-- Lets a descriptor refer to what another one refers to. -/
def duplicate (descriptor source : Nat) : Run Unit :=
  alter fun process world =>
    match world.handleOf process source with
    | some handle => world.attach process descriptor handle
    | none => world

/-- Opens a pipe for descriptors that only the shell itself uses. -/
def openInnerPipe (reader writer : Nat) : Run Unit :=
  alter fun process world =>
    let (readEnd, writeEnd, world) := world.openPipe (some 65536)
    (world.attach process reader readEnd).attach process writer writeEnd

/-- How many microseconds pass until a program runs. -/
def launchTime : Nat := 500

/-- Becomes another program: what only the shell itself uses is closed, and no signal is caught any
more. -/
def become {α : Type} (program : Program ProcessEnd) : Run α := do
  alter fun process world => world.modifyRecord process fun record =>
    { record with
      descriptors := record.descriptors.filter (·.1 < innerDescriptor), saved := [], caught := [] }
  perform do
    Program.sleep launchTime
    fun _ => program .done

/-! ## Waiting -/

/-- Writes the words for a process that was ended by a signal. An interruption and a broken pipe go
without saying. -/
def announceEnd (ending : ProcessEnd) : Run Unit := do
  match ending with
  | .killed signal =>
    if signal != Signal.interrupt && signal != Signal.brokenPipe then
      let _ ← say 2 (Signal.words signal ++ "\n")
  | .exited _ => return ()

/-- Waits until one of some processes has ended, and forgets it. -/
def awaitOne (processes : List ProcessId) : Run (ProcessId × ProcessEnd) := do
  perform (Program.waitUntil none fun _ world => processes.any fun process =>
    !world.isAlive process)
  perform (Program.act fun _ world =>
    match processes.find? fun process => !world.isAlive process with
    | some process =>
      ((process, ((world.record? process).bind (·.ending?)).getD (.exited 0)),
        world.forget process)
    | none => ((processes.headD 0, .exited 0), world))

/-- Waits for processes in the foreground. The status is that of the last one. -/
def awaitAll (last : ProcessId) : Nat → List ProcessId → Nat → Run Nat
  | 0, _, status => return status
  | fuel + 1, processes, status => do
    if processes.isEmpty then return status
    else
      let (process, ending) ← awaitOne processes
      announceEnd ending
      awaitAll last fuel (processes.filter (· != process))
        (if process == last then ending.shellStatus else status)

/-! ## Jobs -/

/-- The least number that no job has. A job that is over and was waited for gives its number
away. -/
def Session.freeNumber (session : Session) : Nat :=
  let taken := session.jobs.filter fun job => job.end?.isNone || !job.isWaited
  ((List.range (taken.length + 1)).map (· + 1)).find? (fun number =>
    !taken.any (·.number == number)) |>.getD 1

/-- Takes in a job. -/
def addJob (processes : List ProcessId) : Run Unit :=
  modify fun session =>
    let number := session.freeNumber
    { session with
      jobs := { number := number, processes := processes } ::
        session.jobs.filter (·.number != number)
      lastJob := processes.getLast? }

/-- Changes a job. -/
def Session.onJob (session : Session) (number : Nat) (change : Job → Job) : Session :=
  { session with
    jobs := session.jobs.map fun job => if job.number == number then change job else job }

/-- Takes note of the processes of jobs that have ended before a time that is reckoned from the
present one. -/
def noteEndsBefore (limit : Nat → Nat) : Run Unit := do
  let session ← get
  let running := session.jobs.flatMap fun job =>
    job.processes.filter fun process => !job.ends.any (·.1 == process)
  if running.isEmpty then return ()
  let ends ← perform (Program.act fun _ world =>
    let ends := running.filterMap fun process =>
      match world.record? process with
      | some record =>
        if record.endTime < limit world.now then record.ending?.map (process, ·) else none
      | none => some (process, .exited 0)
    (ends, ends.foldl (fun world found => world.forget found.1) world))
  modify fun session =>
    { session with
      jobs := session.jobs.map fun job =>
        { job with ends := job.ends ++ ends.filter fun found => job.processes.contains found.1 } }

/-- Takes note of the processes of jobs that have ended. -/
def noteEnds : Run Unit := noteEndsBefore (· + 1)

/-- Waits for processes in the foreground, and takes note of those of jobs that have ended
meanwhile. The status is that of the last one. -/
def awaitForeground (processes : List ProcessId) : Run Nat := do
  let status ← awaitAll (processes.getLastD 0) processes.length processes 0
  noteEnds
  return status

/-- How long a shell that a signal has woken looks for processes that end at the same time. -/
def wakingTime : Nat := 400

/-- Takes note of the processes of jobs that have ended, and answers those of a job that were not
noted before. -/
def noteEndsOf (job : Job) : Run (List ProcessEnd) := do
  noteEnds
  let noted := ((← get).jobs.find? (·.number == job.number)).getD job
  return (noted.ends.drop job.ends.length).map (·.2)

/-- Waits until a job is over, and reports those of its processes that a signal has ended meanwhile,
if wanted. The result tells whether no signal has come before. -/
def awaitJob (announces : Bool) : Nat → Nat → Run Bool
  | 0, _ => return true
  | fuel + 1, number => do
    match (← get).jobs.find? (·.number == number) with
    | none => return true
    | some job =>
      if job.end?.isSome then
        noteEnds
        return true
      else
        let running := job.processes.filter fun process => !job.ends.any (·.1 == process)
        perform (Program.waitUntil none fun process world =>
          world.hasPending process || running.any fun other => !world.isAlive other)
        let isWoken ← look fun process world => world.hasPending process
        if isWoken then perform (Program.sleep wakingTime)
        let ends ← noteEndsOf job
        if announces then
          for ending in ends do announceEnd ending
        if ends.isEmpty then return false
        else awaitJob announces fuel number

end EventHooks.Shell
