import EventHooks.System.World

/-!
# Processes

A process is what it does next and how it goes on. It acts on the world in one step, waits until
something holds or a time has come, starts another process, or ends. Programs are written with
their continuation, so that each of their steps becomes one of these.
-/
namespace EventHooks

/-- What a process does next. -/
inductive Process
  /-- The process ends. -/
  | done (ending : ProcessEnd)
  /-- The process acts on the world. -/
  | act (step : ProcessId → World → Process × World)
  /-- The process waits until it may go on, or until a time at the latest. -/
  | wait (until? : Option Nat) (mayGoOn : ProcessId → World → Bool) (next : Process)
  /-- The process starts another one. -/
  | fork (child : Process) (next : ProcessId → Process)

/-- A program with a result. -/
def Program (α : Type) := (α → Process) → Process

namespace Program

instance : Monad Program where
  pure result next := next result
  bind program rest next := program fun result => rest result next

/-- Acts on the world. -/
def act {α : Type} (step : ProcessId → World → α × World) : Program α := fun next =>
  .act fun process world =>
    let (result, world) := step process world
    (next result, world)

/-- Looks at the world. -/
def observe {α : Type} (view : ProcessId → World → α) : Program α :=
  act fun process world => (view process world, world)

/-- Changes the world. -/
def change (step : ProcessId → World → World) : Program Unit :=
  act fun process world => ((), step process world)

/-- Lets others have a turn. -/
def breathe : Program Unit :=
  change fun _ world => world

/-- Ends the process. -/
def exit {α : Type} (ending : ProcessEnd) : Program α := fun _ =>
  .done ending

/-- Waits until something holds, or until a time at the latest. -/
def waitUntil (until? : Option Nat) (holds : ProcessId → World → Bool) : Program Unit := fun next =>
  .wait until? holds (next ())

/-- Lets microseconds pass. -/
def sleep (duration : Nat) : Program Unit := do
  let now ← observe fun _ world => world.now
  waitUntil (some (now + duration)) fun _ _ => false

/-- Starts a process, and answers its number. -/
def fork (child : Program ProcessEnd) : Program ProcessId := fun next =>
  .fork (child .done) next

/-- How many steps a program may take that ends some time. -/
def patience : Nat := 1000000000000

/-! ## Descriptors -/

/-- Reads at most some bytes from a handle, and waits for them. -/
def readFrom (handle count : Nat) : Nat → Program (Except Errno Bytes)
  | 0 => return .ok []
  | fuel + 1 => do
    let attempt : Program (Option (Except Errno Bytes)) := act fun _ world =>
      match world.read handle count with
      | .bytes bytes world => (some (.ok bytes), world)
      | .failed errno => (some (.error errno), world)
      | .blocked => (none, world)
    match ← attempt with
    | some result => return result
    | none =>
      waitUntil none fun _ world => world.canRead handle
      readFrom handle count fuel

/-- Reads at most some bytes from a descriptor, and waits for them. No bytes mean that there are
none to come. -/
def readSome (descriptor count : Nat) : Program (Except Errno Bytes) := do
  match ← observe fun process world => world.handleOf process descriptor with
  | none => return .error .badDescriptor
  | some handle => readFrom handle count patience

/-- Writes bytes to a handle as long as some are left. Writing where nobody reads raises a
signal. -/
def writeTo (handle : Nat) : Nat → Bytes → Program (Except Errno Unit)
  | 0, _ => return .ok ()
  | fuel + 1, bytes => do
    let attempt : Program (Except Errno Nat) := act fun process world =>
      match world.write handle bytes with
      | .written count world => (.ok count, world)
      | .failed .brokenPipe =>
        (.error .brokenPipe, world.signal process Signal.brokenPipe)
      | .failed errno => (.error errno, world)
      | .blocked => (.ok 0, world)
    match ← attempt with
    | .error errno => return .error errno
    | .ok count =>
      if bytes.length ≤ count then return .ok ()
      else
        waitUntil none fun _ world => world.canWrite handle
        writeTo handle fuel (bytes.drop count)

/-- Writes bytes to a descriptor, and waits until all have found room. -/
def write (descriptor : Nat) (bytes : Bytes) : Program (Except Errno Unit) := do
  match ← observe fun process world => world.handleOf process descriptor with
  | none => return .error .badDescriptor
  | some handle => writeTo handle patience bytes

/-- Reads a descriptor to its end. -/
def readRest (descriptor : Nat) : Nat → List Bytes → Program (Except Errno Bytes)
  | 0, pieces => return .ok pieces.reverse.flatten
  | fuel + 1, pieces => do
    match ← readSome descriptor 65536 with
    | .error errno => return .error errno
    | .ok [] => return .ok pieces.reverse.flatten
    | .ok bytes => readRest descriptor fuel (bytes :: pieces)

/-- Reads a descriptor to its end. -/
def readAll (descriptor : Nat) : Program (Except Errno Bytes) :=
  readRest descriptor patience []

/-! ## Other processes -/

/-- Waits until a process has ended, and forgets it. -/
def awaitEnd (process : ProcessId) : Program ProcessEnd := do
  waitUntil none fun _ world => !world.isAlive process
  act fun _ world =>
    (((world.record? process).bind (·.ending?)).getD (.exited 0), world.forget process)

end Program

end EventHooks
