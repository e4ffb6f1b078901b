import EventHooks.Shell.Job
import EventHooks.System.Open

/-!
# Directing descriptors

Redirections whose words are expanded direct descriptors to files, to other descriptors and to
documents. Those of a command hold while it runs; what the descriptors referred to before is put
aside for that time.
-/
namespace EventHooks.Shell

/-- A redirection whose word is expanded. -/
inductive Direction
  | path (descriptor : Nat) (path : String) (opening : Opening)
  | copy (descriptor source : Nat)
  | closed (descriptor : Nat)
  | document (descriptor : Nat) (text : String)

/-- The descriptor that is directed. -/
def Direction.descriptor : Direction → Nat
  | .path descriptor .. | .copy descriptor _ | .closed descriptor | .document descriptor _ =>
    descriptor

/-- The words for a path that cannot be opened. -/
def openingMessage (path : String) (creates : Bool) (errno : Errno) : String :=
  let isMissing := errno = .noEntry ∨ errno = .notDirectory
  let words := if !isMissing then errno.words
    else if creates then "Directory nonexistent" else "No such file"
  let verb := if creates then "create" else "open"
  s!"cannot {verb} {path}: {words}"

/-- Directs a descriptor. -/
def direct : Direction → Run Unit
  | .path descriptor path opening => do
    match ← perform (Program.openPath path opening) with
    | .ok handle => perform (Program.attach descriptor handle)
    | .error errno => abort (openingMessage path opening.creates errno)
  | .copy descriptor source => do
    match ← perform (Program.handle? source) with
    | some handle => perform (Program.attach descriptor handle)
    | none => abort s!"{source}: {Errno.badDescriptor.words}"
  | .closed descriptor => perform (Program.detach descriptor)
  | .document descriptor text =>
    alter fun process world =>
      let (reader, writer, world) := world.openPipe none
      let world := match world.handles[writer]? with
        | some (.writer pipe) => { world with
            pipes := world.pipes.modify pipe (·.put (ByteText.toBytes text)) }
        | _ => world
      world.attach process descriptor reader

/-- Puts aside what descriptors refer to. -/
def putAside (descriptors : List Nat) : Run Unit :=
  alter fun process world => world.modifyRecord process fun record =>
    { record with
      saved := record.descriptors.filter (descriptors.contains ·.1) :: record.saved }

/-- Lets descriptors refer again to what was put aside last. -/
def putBackDescriptors (descriptors : List Nat) : Run Unit :=
  alter fun process world => world.modifyRecord process fun record =>
    { record with
      descriptors := record.saved.headD [] ++
        record.descriptors.filter (!descriptors.contains ·.1)
      saved := record.saved.drop 1 }

/-- Runs a command with some descriptors directed elsewhere. If that fails, the command does not
run, and its status is 2 unless the failure is to go on. -/
def directed (directions : List Direction) (isFatal : Bool) (body : Run Nat) : Run Nat := do
  if directions.isEmpty then body
  else
    let descriptors := directions.map (·.descriptor)
    putAside descriptors
    let begun ← tryCatch (do
      directions.forM direct
      return true) fun stop => do
        putBackDescriptors descriptors
        if isFatal then throw stop
        match stop with
        | .failure _ => return false
        | stop => throw stop
    if begun then
      let status ← tryCatch body fun stop => do
        putBackDescriptors descriptors
        throw stop
      putBackDescriptors descriptors
      return status
    else return 2

end EventHooks.Shell
