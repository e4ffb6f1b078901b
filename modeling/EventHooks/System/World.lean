import EventHooks.System.FileStore
import EventHooks.System.Signal

/-!
# What processes share

Processes share the files, everything that is open, and a clock. What is open is a file with the
place up to which it was read or written, an end of a pipe, or a device; the descriptors of a
process refer to it. An end of a pipe is held as long as some process has a descriptor for it.
-/
namespace EventHooks

/-- The number of a process. -/
abbrev ProcessId := Nat

/-- How a process ends: with a status of its own, or by a signal. -/
inductive ProcessEnd
  | exited (status : Nat)
  | killed (signal : Nat)
  deriving DecidableEq, Repr

/-- The status that a shell gives to the end of a process. -/
def ProcessEnd.shellStatus : ProcessEnd → Nat
  | .exited status => status
  | .killed signal => 128 + signal

/-- The status of the end of a process, less than zero for a signal. -/
def ProcessEnd.status : ProcessEnd → Int
  | .exited status => status
  | .killed signal => -signal

/-! ## What is open -/

/-- What waits in a pipe: the bytes to be read next, and behind them those written later, the last
ones first. A pipe without a capacity takes everything. -/
structure Pipe where
  front : Bytes := []
  back : List Bytes := []
  size : Nat := 0
  capacity : Option Nat := some 65536

/-- Puts bytes into a pipe. -/
def Pipe.put (pipe : Pipe) (bytes : Bytes) : Pipe :=
  { pipe with back := bytes :: pipe.back, size := pipe.size + bytes.length }

/-- All that waits in a pipe. -/
def Pipe.contents (pipe : Pipe) : Bytes :=
  pipe.front ++ pipe.back.reverse.flatten

/-- Takes at most some bytes out of a pipe. -/
def Pipe.take (pipe : Pipe) (count : Nat) : Bytes × Pipe :=
  let front := if pipe.front.isEmpty then pipe.contents else pipe.front
  let back := if pipe.front.isEmpty then [] else pipe.back
  let taken := front.take count
  (taken, { pipe with
    front := front.drop taken.length, back := back, size := pipe.size - taken.length })

/-- How many bytes a pipe has room for, if there is a limit. -/
def Pipe.room (pipe : Pipe) : Option Nat :=
  pipe.capacity.map (· - pipe.size)

/-- What an open file is used for. -/
structure Access where
  reads : Bool
  writes : Bool
  appends : Bool
  deriving DecidableEq, Repr

/-- Something that is open. -/
inductive Handle
  | reader (pipe : Nat)
  | writer (pipe : Nat)
  | file (location : Location) (offset : Nat) (access : Access)
  | directory (location : Location)
  | device (device : Device)
  deriving DecidableEq, Repr

/-! ## Processes -/

/-- What the system knows of a process. `saved` are descriptors that it has put aside, and `endTime`
tells when it has ended. A process without a parent is nobody's concern; the signals it catches wait
until it looks at them. -/
structure ProcessRecord where
  number : ProcessId
  parent : Option ProcessId
  directory : Location
  descriptors : List (Nat × Nat) := []
  saved : List (List (Nat × Nat)) := []
  ignored : List Nat := []
  caught : List Nat := []
  pending : List Nat := []
  isStopped : Bool := false
  mask : Nat := 18
  ending? : Option ProcessEnd := none
  endTime : Nat := 0

/-- Lets a signal that a process catches wait, unless it waits already. -/
def ProcessRecord.await (record : ProcessRecord) (signal : Nat) : ProcessRecord :=
  if record.pending.contains signal then record
  else { record with pending := record.pending ++ [signal] }

/-- The handle of a descriptor. -/
def ProcessRecord.handle? (record : ProcessRecord) (descriptor : Nat) : Option Nat :=
  (record.descriptors.find? (·.1 == descriptor)).map (·.2)

/-- Whether a process has a descriptor for a handle that passes a test. -/
def ProcessRecord.holds (record : ProcessRecord) (test : Nat → Bool) : Bool :=
  record.descriptors.any (test ·.2) || record.saved.any (·.any (test ·.2))

/-- What processes share. `kept` are the handles that whoever launched the processes holds, `stamps`
tell when entries were changed last, and `modes` are the permission bits that entries have against
the rule. -/
structure World where
  files : FileStore
  handles : Array Handle := #[]
  pipes : Array Pipe := #[]
  processes : List ProcessRecord := []
  kept : List Nat := []
  stamps : List (Location × Int) := []
  modes : List (Location × Nat) := []
  now : Nat := 0
  nextProcess : Nat := 1000

namespace World

/-- The number that stands for whoever launches the first processes. -/
def launcherId : ProcessId := 999

/-- What is known of a process. -/
def record? (world : World) (process : ProcessId) : Option ProcessRecord :=
  world.processes.find? (·.number == process)

/-- Changes what is known of a process. -/
def modifyRecord (world : World) (process : ProcessId) (change : ProcessRecord → ProcessRecord) :
    World :=
  { world with
    processes := world.processes.map fun record =>
      if record.number == process then change record else record }

/-- Whether a process has not ended. -/
def isAlive (world : World) (process : ProcessId) : Bool :=
  (world.record? process).any (·.ending?.isNone)

/-- Whether a signal that a process catches waits. -/
def hasPending (world : World) (process : ProcessId) : Bool :=
  (world.record? process).any (!·.pending.isEmpty)

/-- The files as a process sees them: relative paths start at its own directory. -/
def filesOf (world : World) (process : ProcessId) : FileStore :=
  match world.record? process with
  | some record => { world.files with workingDirectory := record.directory }
  | none => world.files

/-- Changes the files. -/
def withFiles (world : World) (files : FileStore) : World :=
  { world with files := { files with workingDirectory := world.files.workingDirectory } }

/-- Notes when an entry was changed last. -/
def setStamp (world : World) (location : Location) (time : Int) : World :=
  { world with stamps := (location, time) :: world.stamps.filter (·.1 != location) }

/-- Notes that an entry has changed. -/
def stamp (world : World) (location : Location) : World :=
  world.setStamp location world.now

/-- Puts an entry at a location. The directory of a new one changes, too. -/
def putNode (world : World) (location : Location) (node : Node) : World :=
  let isNew := (world.files.node? location).isNone
  let world := ({ world with files := world.files.put location node }).stamp location
  if isNew then world.stamp location.dropLast else world

/-- The permission bits of an entry. -/
def modeOf (world : World) (location : Location) (node : Node) : Nat :=
  ((world.modes.find? (·.1 == location)).map (·.2)).getD node.usualMode

/-- Gives an entry permission bits. -/
def setMode (world : World) (location : Location) (mode : Nat) : World :=
  let others := world.modes.filter (·.1 != location)
  match world.files.node? location with
  | none => world
  | some node =>
    let node := match node with
      | .file content _ => .file content (mode &&& 73 != 0)
      | node => node
    { world with
      files := if location.isEmpty then world.files else world.files.put location node
      modes := if mode = node.usualMode then others else (location, mode) :: others }

/-- Puts a new entry at a location, with the permission bits that the mask of a process leaves of
those that are wished for. -/
def create (world : World) (process : ProcessId) (location : Location) (node : Node)
    (wished : Nat) : World :=
  let mask := ((world.record? process).map (·.mask)).getD 18
  (world.putNode location node).setMode location (wished &&& (4095 ^^^ mask))

/-- A location for a file that is open but has no name any more. No path leads there. -/
def namelessLocation (files : FileStore) : Location :=
  let others := files.entries.filter fun entry => entry.1.head? == some "\x00"
  ["\x00", toString others.length]

/-- Lets what is open below a location be at another one. -/
def moveHandles (world : World) (location target : Location) : World :=
  { world with
    handles := world.handles.map fun handle =>
      match handle with
      | .file place offset access =>
        if location.isPrefixOf place then
          .file (target ++ place.drop location.length) offset access
        else handle
      | handle => handle }

/-- Whether a file is open. -/
def isOpen (world : World) (location : Location) : Bool :=
  world.handles.any fun
    | .file place .. => place == location
    | _ => false

/-- Removes the entry at a location and all below it. A file that is open stays without a name. -/
def removeNode (world : World) (location : Location) : World :=
  let kept := if world.isOpen location then world.files.node? location else none
  let isThere := (world.files.node? location).isSome
  let world := { world with
    files := world.files.remove location
    modes := world.modes.filter (!location.isPrefixOf ·.1) }
  let world := if isThere then world.stamp location.dropLast else world
  match kept with
  | some node =>
    let nameless := namelessLocation world.files
    { world.moveHandles location nameless with files := world.files.put nameless node }
  | none => world

/-- Moves the entry at a location and all below it to another one. -/
def moveNode (world : World) (location target : Location) : World :=
  let world := world.removeNode target
  let moved := (world.files.subtree location).map fun (place, node) =>
    (target ++ place.drop location.length, node)
  let files := world.files.remove location
  let follow {α : Type} (notes : List (Location × α)) : List (Location × α) :=
    notes.map fun (place, value) =>
      if location.isPrefixOf place then (target ++ place.drop location.length, value)
      else (place, value)
  let world := { world.moveHandles location target with
    files := { files with entries := files.entries ++ moved }
    stamps := follow world.stamps
    modes := follow world.modes }
  (world.stamp location.dropLast).stamp target.dropLast

/-- When an entry was changed last. -/
def stampOf (world : World) (location : Location) : Int :=
  ((world.stamps.find? (·.1 == location)).map (·.2)).getD 0

/-! ## Handles -/

/-- Opens something. -/
def openHandle (world : World) (handle : Handle) : Nat × World :=
  (world.handles.size, { world with handles := world.handles.push handle })

/-- Makes a pipe, and opens its ends. -/
def openPipe (world : World) (capacity : Option Nat) : Nat × Nat × World :=
  let pipe := world.pipes.size
  let world := { world with pipes := world.pipes.push { capacity := capacity } }
  let (reader, world) := world.openHandle (.reader pipe)
  let (writer, world) := world.openHandle (.writer pipe)
  (reader, writer, world)

/-- Whether somebody holds a handle that passes a test. -/
def isHeld (world : World) (test : Handle → Bool) : Bool :=
  let passes (handle : Nat) : Bool := (world.handles[handle]?).any test
  world.kept.any passes || world.processes.any (·.holds passes)

/-- Whether somebody can still write to a pipe. -/
def hasWriter (world : World) (pipe : Nat) : Bool :=
  world.isHeld (· == .writer pipe)

/-- Whether somebody can still read from a pipe. -/
def hasReader (world : World) (pipe : Nat) : Bool :=
  world.isHeld (· == .reader pipe)

/-- The handle that a descriptor of a process refers to. -/
def handleOf (world : World) (process : ProcessId) (descriptor : Nat) : Option Nat :=
  (world.record? process).bind (·.handle? descriptor)

/-- Lets a descriptor of a process refer to a handle. -/
def attach (world : World) (process : ProcessId) (descriptor handle : Nat) : World :=
  world.modifyRecord process fun record =>
    { record with
      descriptors := (descriptor, handle) :: record.descriptors.filter (·.1 != descriptor) }

/-- Closes a descriptor of a process. -/
def detach (world : World) (process : ProcessId) (descriptor : Nat) : World :=
  world.modifyRecord process fun record =>
    { record with descriptors := record.descriptors.filter (·.1 != descriptor) }

/-- The contents of a file. -/
def fileContent (world : World) (location : Location) : Bytes :=
  match world.files.node? location with
  | some (.file content _) => content
  | _ => []

/-- Changes a handle. -/
def setHandle (world : World) (index : Nat) (handle : Handle) : World :=
  { world with handles := world.handles.setIfInBounds index handle }

/-- What a read of a handle comes to at the moment: bytes, an error, or nothing yet. -/
inductive Reading
  | bytes (bytes : Bytes) (world : World)
  | failed (errno : Errno)
  | blocked

/-- Reads at most some bytes from a handle. No bytes mean that there are none to come. -/
def read (world : World) (index count : Nat) : Reading :=
  match world.handles[index]? with
  | some (.reader pipe) =>
    match world.pipes[pipe]? with
    | some found =>
      if found.size = 0 then
        if world.hasWriter pipe then .blocked else .bytes [] world
      else
        let (taken, rest) := found.take count
        .bytes taken { world with pipes := world.pipes.setIfInBounds pipe rest }
    | none => .bytes [] world
  | some (.file location offset access) =>
    if access.reads then
      let taken := ((world.fileContent location).drop offset).take count
      .bytes taken (world.setHandle index (.file location (offset + taken.length) access))
    else .failed .badDescriptor
  | some (.directory _) => .failed .isDirectory
  | some (.device .zero) | some (.device .full) => .bytes (List.replicate count 0) world
  | some (.device _) => .bytes [] world
  | some (.writer _) | none => .failed .badDescriptor

/-- Whether a read of a handle would not have to wait. -/
def canRead (world : World) (index : Nat) : Bool :=
  match world.handles[index]? with
  | some (.reader pipe) => (world.pipes[pipe]?).any (0 < ·.size) || !world.hasWriter pipe
  | _ => true

/-- What a write to a handle comes to at the moment: how many bytes found room, an error, or nothing
yet. -/
inductive Writing
  | written (count : Nat) (world : World)
  | failed (errno : Errno)
  | blocked

/-- Writes bytes to a handle. -/
def write (world : World) (index : Nat) (bytes : Bytes) : Writing :=
  match world.handles[index]? with
  | some (.writer pipe) =>
    match world.pipes[pipe]? with
    | some found =>
      if !world.hasReader pipe then .failed .brokenPipe
      else
        let room := found.room.getD bytes.length
        if room = 0 && !bytes.isEmpty then .blocked
        else
          let count := min room bytes.length
          .written count { world with
            pipes := world.pipes.setIfInBounds pipe (found.put (bytes.take count)) }
    | none => .failed .brokenPipe
  | some (.file location offset access) =>
    if !access.writes then .failed .badDescriptor
    else
      match world.files.node? location with
      | some (.file content executable) =>
        let start := if access.appends then content.length else offset
        let written := if start = content.length then content ++ bytes
          else content.take start ++ List.replicate (start - content.length) 0 ++ bytes ++
            content.drop (start + bytes.length)
        .written bytes.length
          ((world.putNode location (.file written executable)).setHandle index
            (.file location (start + bytes.length) access))
      | _ => .written bytes.length world
  | some (.device .full) =>
    if bytes.isEmpty then .written 0 world else .failed .noSpace
  | some (.device _) => .written bytes.length world
  | some (.directory _) | some (.reader _) | none => .failed .badDescriptor

/-- Whether a write to a handle would not have to wait. -/
def canWrite (world : World) (index : Nat) : Bool :=
  match world.handles[index]? with
  | some (.writer pipe) =>
    (world.pipes[pipe]?).any (fun found => found.room != some 0) || !world.hasReader pipe
  | _ => true

/-! ## Starting and ending processes -/

/-- Adds a process that starts like another one: with its descriptors, its directory and what it
ignores. -/
def addFork (world : World) (parent : ProcessId) : ProcessId × World :=
  let number := world.nextProcess
  let start := (world.record? parent).getD
    { number := parent, parent := none, directory := world.files.workingDirectory }
  let record := { start with
    number := number, parent := some parent, caught := [], pending := [], isStopped := false }
  (number, { world with
    nextProcess := number + 1, processes := world.processes ++ [record] })

/-- Forgets a process. -/
def forget (world : World) (process : ProcessId) : World :=
  { world with processes := world.processes.filter (·.number != process) }

/-- Ends a process. Its parent may catch the signal of that; its children are nobody's concern any
more, and neither is a process without a parent. -/
def finish (world : World) (process : ProcessId) (ending : ProcessEnd) : World :=
  let parent? := if world.isAlive process then (world.record? process).bind (·.parent) else none
  let processes := world.processes.filterMap fun record =>
    if record.number == process then
      if record.parent.isNone then none
      else if record.ending?.isSome then some record
      else some { record with
        ending? := some ending, endTime := world.now, descriptors := [], saved := [] }
    else if record.parent == some process then
      if record.ending?.isSome then none else some { record with parent := none }
    else if parent? == some record.number && record.caught.contains Signal.child then
      some (record.await Signal.child)
    else some record
  { world with processes := processes }

/-- Sends a signal to a process. -/
def signal (world : World) (process : ProcessId) (number : Nat) : World :=
  match world.record? process with
  | none => world
  | some record =>
    if record.ending?.isSome then world
    else if number = Signal.kill then world.finish process (.killed number)
    else if record.caught.contains number then
      world.modifyRecord process fun record =>
        { record.await number with isStopped := false }
    else if record.ignored.contains number then world
    else
      match Signal.effect number with
      | .ends => world.finish process (.killed number)
      | .stops => world.modifyRecord process fun record => { record with isStopped := true }
      | .continues => world.modifyRecord process fun record => { record with isStopped := false }
      | .nothing => world

end World

end EventHooks
