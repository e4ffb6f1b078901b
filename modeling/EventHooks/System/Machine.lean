import EventHooks.System.Process

/-!
# Running processes side by side

A machine runs processes on a world with a clock of its own. Whichever process can go on first has
the next turn; every step takes a microsecond, and starting a process some more. Time passes only
while processes run or wait.
-/
namespace EventHooks

/-- A process that has not ended, with the time from which it may go on. -/
structure Task where
  process : ProcessId
  time : Nat
  rest : Process

/-- The world and the processes in it. -/
structure Machine where
  world : World
  tasks : List Task := []

namespace Machine

/-- How many microseconds a new process takes to begin. -/
def forkTime : Nat := 200

/-- How many steps a turn has at most. -/
def turnLength : Nat := 200

/-- When a task can go on, if it can. -/
def readyTime? (world : World) (task : Task) : Option Nat :=
  if (world.record? task.process).any (·.isStopped) then none
  else
    match task.rest with
    | .wait until? mayGoOn _ =>
      if mayGoOn task.process world then some (max task.time world.now)
      else until?.map (max task.time)
    | _ => some task.time

/-- The task that can go on first, with the time and its place. -/
def first? (world : World) (tasks : List Task) : Option (Nat × Nat) :=
  (tasks.zipIdx.foldl (fun found (task, place) =>
    match found, readyTime? world task with
    | found, none => found
    | none, some time => some (time, place)
    | some (least, chosen), some time =>
      if time < least then some (time, place) else some (least, chosen))
    (none : Option (Nat × Nat)))

/-- Gives a process a turn. The tasks that come out of it are what is left of the process and the
processes it has started. -/
def turn : Nat → ProcessId → Nat → Process → World → List Task × World
  | 0, process, time, rest, world => ([⟨process, time, rest⟩], world)
  | fuel + 1, process, time, rest, world =>
    if !world.isAlive process then ([], world)
    else
      match rest with
      | .done ending => ([], world.finish process ending)
      | .act step =>
        let (rest, world) := step process world
        turn fuel process (time + 1) rest world
      | .wait .. => ([⟨process, time, rest⟩], world)
      | .fork child next =>
        let (number, world) := world.addFork process
        ([⟨process, time + 1, next number⟩, ⟨number, time + forkTime, child⟩], world)

/-- Lets the wait at which a task stands be over. -/
def resume : Process → Process
  | .wait _ _ next => next
  | process => process

/-- Runs processes until something holds of the world, until a time has come, or until none can go
on. -/
def run : Nat → (World → Bool) → Option Nat → Machine → Machine
  | 0, _, _, machine => machine
  | fuel + 1, holds, limit, machine =>
    if holds machine.world then machine
    else
      let tasks := machine.tasks.filter (machine.world.isAlive ·.process)
      match first? machine.world tasks with
      | none => { machine with tasks := tasks }
      | some (time, place) =>
        if limit.any (· < time) then { machine with tasks := tasks }
        else
          match tasks[place]? with
          | none => { machine with tasks := tasks }
          | some task =>
            let world := { machine.world with now := max machine.world.now time }
            let (next, world) := turn turnLength task.process time (resume task.rest) world
            run fuel holds limit ⟨world, tasks.eraseIdx place ++ next⟩

/-- Lets microseconds pass. -/
def elapse (machine : Machine) (duration : Nat) : Machine :=
  let time := machine.world.now + duration
  let machine := machine.run Program.patience (fun _ => false) (some time)
  { machine with world := { machine.world with now := max machine.world.now time } }

end Machine

end EventHooks
