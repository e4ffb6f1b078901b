import EventHooks.Shell.Builtin.Variable

/-!
# Builtin commands for signals and jobs

Signals are sent and handled; jobs are listed and waited for.
-/
namespace EventHooks.Shell

/-! ## Signals -/

/-- The words for a use of `kill` that is none. -/
def killUsage : String :=
  "Usage: kill [-s sigspec | -signum | -sigspec] [pid | job]... or\nkill -l [exitstatus]"

/-- The signal that a text names, apart from the end of the shell. -/
def sendable? (text : String) : Option Nat :=
  match number? text, signalNamed? text with
  | none, some 0 => none
  | _, signal? => signal?

/-- The processes that a target concerns. -/
def targetsOf (world : World) (self target : Int) : List ProcessId :=
  if target = 0 ∨ target = -1 then
    (world.processes.filter fun record => Int.ofNat record.number ≠ self).map (·.number) ++
      [self.toNat]
  else if target < 0 then []
  else (world.processes.filter fun record => Int.ofNat record.number = target).map (·.number)

/-- Sends a signal to a target. The result tells whether there is one. -/
def sendSignal (signal : Nat) (target : Int) : Run Bool := do
  perform (Program.act fun process world =>
    let targets := targetsOf world process target
    (!targets.isEmpty, if signal = 0 then world
      else targets.foldl (fun world target => world.signal target signal) world))

/-- The job that a text names. -/
def jobNamed (text? : Option String) : Run Job := do
  let jobs := (← get).jobs
  let name := text?.getD "(null)"
  let missing (words : String) : Run Job := abort words
  let chars := ((text?.getD "%").toList)
  match chars with
  | ['%'] | ['%', '+'] | ['%', '%'] =>
    match jobs with
    | job :: _ => return job
    | [] => missing "No current job"
  | ['%', '-'] =>
    match jobs with
    | _ :: job :: _ => return job
    | _ => missing "No previous job"
  | '%' :: digits =>
    match (number? (String.ofList digits)).bind fun number =>
      jobs.find? (·.number == number) with
    | some job => return job
    | none => missing s!"No such job: {name}"
  | _ => missing s!"No such job: {name}"

/-- The signal, whether a list is wanted, and the operands of `kill`. -/
def killOptions (arguments : List String) : Run (Option Nat × Bool × List String) := do
  let named? := match arguments with
    | first :: _ =>
      match first.toList with
      | '-' :: name => sendable? (String.ofList name)
      | _ => none
    | [] => none
  match named? with
  | some signal => return (some signal, false, arguments.drop 1)
  | none =>
    let isOptions := ((arguments.head?).map (·.toList.head? == some '-')).getD false
    if !isOptions then return (none, false, arguments)
    else
      let (options, rest) ← optionsOf "ls:" arguments
      let mut signal? : Option Nat := none
      for (letter, value) in options do
        if letter == 's' then
          match sendable? value with
          | some signal => signal? := some signal
          | none => abort s!"invalid signal number or name: {value}"
      return (signal?, options.any (·.1 == 'l'), rest)

/-- Sends a signal, or lists the names of signals. -/
def killCommand (arguments : List String) : Run Nat := do
  if arguments.isEmpty then abort killUsage
  let (signal?, isList, operands) ← killOptions arguments
  if isList then
    if signal?.isSome then abort killUsage
    match operands with
    | [] =>
      let names := (List.range Signal.count).map fun number =>
        if number = 0 then "0\n" else Signal.name number ++ "\n"
      output (String.join names)
    | text :: _ =>
      let number ← numberIn text
      let number := if 128 < number then number - 128 else number
      if 0 < number ∧ number < Signal.count then output (Signal.name number ++ "\n")
      else abort s!"invalid signal number or exit status: {text}"
  else
    if operands.isEmpty then abort killUsage
    let mut status := 0
    for operand in operands do
      let target : Int ← match operand.toList with
        | '%' :: _ => do
          let job ← jobNamed (some operand)
          pure (-(Int.ofNat (job.processes.headD 0)))
        | '-' :: digits => do
          let value ← numberIn (String.ofList digits)
          pure (-(Int.ofNat value))
        | _ => do
          let value ← numberIn operand
          pure (Int.ofNat value)
      if !(← sendSignal (signal?.getD Signal.terminate) target) then
        complain (Errno.noProcess.words ++ "\n")
        status := 1
    return status

/-- Sets, clears or lists what is done for signals. -/
def trapCommand (arguments : List String) : Run Nat := do
  let (_, arguments) ← optionsOf "" arguments
  match arguments with
  | [] =>
    let traps := (← get).traps.mergeSort fun first second => first.1 ≤ second.1
    output (String.join (traps.map fun (signal, action) =>
      s!"trap -- {singleQuoted action} {signalName signal}\n"))
  | first :: rest =>
    let isReset := rest.isEmpty || (number? first).any (· < Signal.count)
    let action? := if isReset || first == "-" then none else some first
    for name in if isReset then first :: rest else rest do
      match signalNamed? name with
      | none =>
        let _ ← say 2 s!"trap: {name}: bad trap\n"
        announceTraps
        return 1
      | some signal =>
        modify fun session =>
          let others := session.traps.filter (·.1 != signal)
          { session with traps := others ++ (action?.map (signal, ·)).toList }
    announceTraps
    return 0

/-! ## Jobs -/

/-- Waits for processes or jobs, or for all. -/
def waitCommand (arguments : List String) : Run Nat := do
  let (_, operands) ← optionsOf "" arguments
  let signalled : Run Nat := do
    let pending ← look fun process world => ((world.record? process).map (·.pending)).getD []
    return 128 + pending.headD 0
  let mark (number : Nat) : Run Unit :=
    modify fun session => session.onJob number fun job => { job with isWaited := true }
  match operands with
  | [] =>
    for job in (← get).jobs do
      if !(← awaitJob false Program.patience job.number) then return ← signalled
      mark job.number
    return 0
  | operands =>
    let mut status := 0
    for operand in operands do
      let job? ← if operand.toList.head? == some '%' then some <$> jobNamed (some operand)
        else do
          let process ← numberIn operand
          pure ((← get).jobs.find? fun job => job.processes.getLast? == some process)
      match job? with
      | none => status := 127
      | some job =>
        if !(← awaitJob true Program.patience job.number) then return ← signalled
        mark job.number
        let ended := ((← get).jobs.find? (·.number == job.number)).bind (·.end?)
        status := (ended.getD (.exited 0)).shellStatus
    return status

/-- The words for the state of a job. -/
def Job.state (job : Job) : String :=
  match job.end? with
  | none => "Running"
  | some (.exited status) => if status = 0 then "Done" else s!"Done({status})"
  | some (.killed signal) => Signal.words signal

/-- The line for a job that is listed at some place. -/
def Job.line (job : Job) (place : Nat) (showsProcess : Bool) : String :=
  let mark := if place = 0 then "+" else if place = 1 then "-" else " "
  let process := if showsProcess then s!"{job.processes.headD 0} " else ""
  let start := s!"[{job.number}] {mark} {process}{job.state}"
  ({ width := 33, left := true } : Layout).pad start ++
    String.join (job.processes.drop 1 |>.map fun process =>
      if showsProcess then s!"\n    | {process}" else " | ") ++ "\n"

/-- Lists jobs. Those that are over are listed once; a process that has ended just now still seems
to run. -/
def jobsCommand (arguments : List String) : Run Nat := do
  let (options, operands) ← optionsOf "lp" arguments
  noteEndsBefore id
  let chosen ← match operands with
    | [] => pure (← get).jobs
    | operands => operands.mapM fun operand => jobNamed (some operand)
  let mut text := ""
  for job in chosen do
    let place := (((← get).jobs).map (·.number)).idxOf job.number
    if (options.getLast?.map (·.1)) == some 'p' then
      text := text ++ s!"{job.processes.headD 0}\n"
    else text := text ++ job.line place (options.any (·.1 == 'l'))
    if job.end?.isSome then
      modify fun session =>
        { session with jobs := session.jobs.filter (·.number != job.number) }
  output text

/-- Refuses to move a job: jobs stay where they are started. -/
def moveJobCommand (arguments : List String) : Run Nat := do
  let (_, operands) ← optionsOf "" arguments
  let _ ← jobNamed operands.head?
  let job := operands.headD "(null)"
  abort s!"job {job} not created under job control"

end EventHooks.Shell
