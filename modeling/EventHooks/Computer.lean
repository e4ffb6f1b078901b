import EventHooks.Shell.Start
import EventHooks.System.Machine
import EventHooks.System.OperatingSystem
import EventHooks.Utility

/-!
# A computer

An operating system with a shell and utilities. Its processes run side by side on a machine. What a
launched program writes is kept in pipes until the program has ended and nobody else can write to
them.
-/
namespace EventHooks

/-! ## Programs -/

/-- What an image does. Programs that it becomes or starts come from one level further down. -/
def performImage : Nat → Image → Program ProcessEnd
  | 0, _ => return .exited 126
  | depth + 1, image =>
    if Shell.shellNames.contains image.program then Shell.start (performImage depth) image
    else
      match Utility.tool? image.program with
      | some tool => do
        let status ← tool
          { name := image.words.headD image.program, arguments := image.words.drop 1
            environment := image.environment, exec := performImage depth }
        return .exited (status % 256)
      | none => return .exited 0

/-! ## Files -/

namespace Computer

/-- The directories of a system. -/
def directories : List Location :=
  [["bin"], ["dev"], ["etc"], ["home"], ["proc"], ["root"], ["sbin"], ["tmp"], ["usr"],
    ["usr", "bin"], ["usr", "lib"], ["usr", "local"], ["usr", "local", "bin"],
    ["usr", "local", "sbin"], ["usr", "sbin"], ["var"]]

/-- The device files of a system. -/
def devices : List (Location × Node) :=
  [(["dev", "null"], .device .null), (["dev", "zero"], .device .zero),
    (["dev", "full"], .device .full), (["dev", "tty"], .device .terminal),
    (["dev", "urandom"], .device .zero), (["dev", "random"], .device .zero),
    (["dev", "stdin"], .device (.stream 0)), (["dev", "stdout"], .device (.stream 1)),
    (["dev", "stderr"], .device (.stream 2))]

/-- The programs of a system. -/
def programs : List (Location × Node) :=
  (Shell.shellNames ++ Utility.tools.map (·.1)).flatMap fun name =>
    [(["bin", name], .program name), (["usr", "bin", name], .program name)]

/-- The files of a system with an empty working directory. -/
def files : FileStore :=
  { entries := directories.map (·, .directory) ++ devices ++ programs ++
      [(["etc", "passwd"], .file (Utf8.encode "root:x:0:0:root:/root:/bin/sh\n") false),
        (["work"], .directory)]
    workingDirectory := ["work"] }

end Computer

/-! ## Running -/

/-- A launched process: the end of its input that is held, and the pipes of its output. -/
structure Launched where
  process : ProcessId
  input? : Option Nat
  output : Nat
  errors : Nat

/-- A machine with the processes that were launched on it. -/
structure Computer where
  machine : Machine := { world := { files := Computer.files } }
  launched : List Launched := []

namespace Computer

/-- How many microseconds whoever launches a process takes for it. -/
def launchTime : Nat := 2000

/-- How deep programs may run programs. -/
def depthLimit : Nat := Program.patience

/-- Opens a pipe that takes everything. -/
def openPipe (world : World) : Nat × Nat × Nat × World :=
  let pipe := world.pipes.size
  let (reader, writer, world) := world.openPipe none
  (pipe, reader, writer, { world with kept := reader :: world.kept })

/-- Opens what a launched process reads. -/
def openInput (world : World) : StandardInput → Nat × Option Nat × World
  | .empty =>
    let (handle, world) := world.openHandle (.device .null)
    (handle, none, world)
  | .held =>
    let (reader, writer, world) := world.openPipe none
    (reader, some writer, { world with kept := writer :: world.kept })

/-- Starts a process for an image. -/
def startImage (computer : Computer) (image : Image) (input : StandardInput) :
    ProcessId × Computer :=
  let world := computer.machine.world
  let (inputHandle, held?, world) := openInput world input
  let (output, _, outputWriter, world) := openPipe world
  let (errors, _, errorsWriter, world) := openPipe world
  let (process, world) := world.addFork World.launcherId
  let world := world.modifyRecord process fun record =>
    { record with
      directory := world.files.workingDirectory
      descriptors := [(0, inputHandle), (1, outputWriter), (2, errorsWriter)] }
  let task : Task :=
    ⟨process, world.now + Machine.forkTime, performImage depthLimit image .done⟩
  (process, { computer with
    machine := { world := world, tasks := computer.machine.tasks ++ [task] }
    launched := ⟨process, held?, output, errors⟩ :: computer.launched })

/-- The launched process with a number. -/
def launched? (computer : Computer) (process : ProcessId) : Option Launched :=
  computer.launched.find? (·.process == process)

/-- Whether a process has ended and nobody else can write to its output. -/
def isOver (launched : Launched) (world : World) : Bool :=
  !world.isAlive launched.process && !world.hasWriter launched.output &&
    !world.hasWriter launched.errors

/-- How a process has ended. -/
def endOf (world : World) (process : ProcessId) : Int :=
  (((world.record? process).bind (·.ending?)).getD (.exited 0)).status

/-- What a process has left behind. -/
def completionOf (launched : Launched) (world : World) : Completion :=
  let contents (pipe : Nat) : Bytes := ((world.pipes[pipe]?).map (·.contents)).getD []
  ⟨endOf world launched.process, contents launched.output, contents launched.errors⟩

/-- A computer on given files. -/
def onFiles (computer : Computer) (files : FileStore) : Computer :=
  { computer with machine := { computer.machine with
      world := { computer.machine.world with files := files } } }

/-- Launches a program. -/
def launch (invocation : Invocation) (input : StandardInput) (files : FileStore)
    (computer : Computer) : Except OsError ProcessId × FileStore × Computer :=
  let fail (errno : Errno) : Except OsError ProcessId × FileStore × Computer :=
    (.error (.ofErrno errno (some invocation.program)), files, computer)
  if !invocation.fits then fail .argumentsTooLong
  else
    match invocation.image files with
    | .error errno => fail errno
    | .ok image =>
      if !image.fits then fail .argumentsTooLong
      else
        let (process, computer) := (computer.onFiles files).startImage image input
        let machine := computer.machine.elapse launchTime
        (.ok process, machine.world.files, { computer with machine := machine })

/-- Closes the input of a process. -/
def closeInput (process : ProcessId) (computer : Computer) : Computer :=
  match (computer.launched? process).bind (·.input?) with
  | some handle =>
    let world := computer.machine.world
    { computer with machine := { computer.machine with
        world := { world with kept := world.kept.filter (· != handle) } } }
  | none => computer

/-- Waits until the first one of some processes is over. -/
def collect (process : ProcessId) (others : List ProcessId) (files : FileStore)
    (computer : Computer) : (ProcessId × Completion) × FileStore × Computer :=
  let computer := computer.onFiles files
  let awaited := (process :: others).filterMap computer.launched?
  let machine := computer.machine.run Program.patience
    (fun world => awaited.any (isOver · world)) none
  let found? := (awaited.find? (isOver · machine.world)).or awaited.head?
  let result := match found? with
    | some launched => (launched.process, completionOf launched machine.world)
    | none => (process, ⟨0, [], []⟩)
  (result, machine.world.files, { computer with machine := machine })

/-- Kills a process, unless it has ended, and answers its status. -/
def kill (process : ProcessId) (computer : Computer) : Int × Computer :=
  let world := computer.machine.world.signal process Signal.kill
  (endOf world process, { computer with machine := { computer.machine with world := world } })

/-- Lets microseconds pass. -/
def elapse (duration : Nat) (files : FileStore) (computer : Computer) : FileStore × Computer :=
  let machine := (computer.onFiles files).machine.elapse duration
  (machine.world.files, { computer with machine := machine })

instance : OperatingSystem Computer where
  launch := launch
  closeInput := closeInput
  collect := collect
  kill := kill
  elapse := elapse

end Computer

end EventHooks
