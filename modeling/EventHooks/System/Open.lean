import EventHooks.System.Process
import EventHooks.Text.ByteText

/-!
# Opening files

A process opens a path to read or to write it. Texts of programs stand for bytes; a path that is no
proper text leads nowhere but to itself.
-/
namespace EventHooks

/-- How a path is opened: for what, whether a missing file is created, whether one that is there is
emptied, and whether one that is there will not do. -/
structure Opening where
  reads : Bool := false
  writes : Bool := false
  appends : Bool := false
  creates : Bool := false
  empties : Bool := false
  onlyNew : Bool := false

namespace Opening

/-- Opening a file to read it. -/
def input : Opening := { reads := true }

/-- Opening a file to write it anew. -/
def output : Opening := { writes := true, creates := true, empties := true }

/-- Opening a file to write at its end. -/
def append : Opening := { writes := true, creates := true, appends := true }

/-- Opening a file to read it and to write it. -/
def update : Opening := { reads := true, writes := true, creates := true }

/-- What an open file is used for. -/
def access (opening : Opening) : Access :=
  ⟨opening.reads, opening.writes, opening.appends⟩

end Opening

namespace World

/-- Opens a path for a process. Opening a stream opens what the descriptor of the process refers
to. -/
def openPath (world : World) (process : ProcessId) (path : String) (opening : Opening) :
    Except Errno (Nat × World) :=
  match (world.filesOf process).follow (ByteText.toText path) with
  | .error errno => .error errno
  | .ok (.vacant location) =>
    if !opening.creates then .error .noEntry
    else if path.toList.getLast? = some '/' then .error .isDirectory
    else .ok ((world.create process location (.file [] false) 438).openHandle
      (.file location 0 opening.access))
  | .ok (.present location node) =>
    match node with
    | .file content executable =>
      if opening.onlyNew then .error .fileExists
      else
        let world := if opening.empties && !content.isEmpty then
            world.putNode location (.file [] executable)
          else world
        .ok (world.openHandle (.file location 0 opening.access))
    | .directory =>
      if opening.writes then .error .isDirectory
      else .ok (world.openHandle (.directory location))
    | .program _ =>
      if opening.writes then .error .permissionDenied
      else .ok (world.openHandle (.device .null))
    | .device .terminal => .error .noDevice
    | .device (.stream number) =>
      match world.handleOf process number with
      | some handle => .ok (handle, world)
      | none => .error .noEntry
    | .device device => .ok (world.openHandle (.device device))

end World

namespace Program

/-- Opens a path, and answers the handle. -/
def openPath (path : String) (opening : Opening) : Program (Except Errno Nat) :=
  act fun process world =>
    match world.openPath process path opening with
    | .ok (handle, world) => (.ok handle, world)
    | .error errno => (.error errno, world)

/-- Lets a descriptor refer to a handle. -/
def attach (descriptor handle : Nat) : Program Unit :=
  change fun process world => world.attach process descriptor handle

/-- Closes a descriptor. -/
def detach (descriptor : Nat) : Program Unit :=
  change fun process world => world.detach process descriptor

/-- The handle of a descriptor. -/
def handle? (descriptor : Nat) : Program (Option Nat) :=
  observe fun process world => world.handleOf process descriptor

/-- The files as the process sees them. -/
def seenFiles : Program FileStore :=
  observe fun process world => world.filesOf process

end Program

end EventHooks
