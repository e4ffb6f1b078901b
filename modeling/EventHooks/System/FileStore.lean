import EventHooks.System.OsError
import EventHooks.System.Path
import EventHooks.Text.Utf8

/-!
# Files

A store is a tree of directories, files, devices and programs. A path is followed name by name:
every name but the last needs a directory, two dots lead to the directory above, and names and
paths have a greatest length.
-/
namespace EventHooks

/-- A device file. `terminal` is one that is not there, and `stream` is a descriptor of whoever
opens it. -/
inductive Device
  | null
  | zero
  | full
  | terminal
  | stream (number : Nat)
  deriving DecidableEq, Repr

/-- An entry of a directory. A program is a file that only the system can execute. -/
inductive Node
  | directory
  | file (content : Bytes) (executable : Bool)
  | device (device : Device)
  | program (name : String)
  deriving DecidableEq, Repr

/-- The permission bits that an entry has as a rule. -/
def Node.usualMode : Node → Nat
  | .file _ false => 420
  | .device _ => 438
  | _ => 493

/-- The names on the way from the root. -/
abbrev Location := List String

/-- A tree of entries and the directory in which relative paths start. -/
structure FileStore where
  entries : List (Location × Node)
  workingDirectory : Location

/-- Where a path leads: to an entry, or to a free place in a directory. -/
inductive Place
  | present (location : Location) (node : Node)
  | vacant (location : Location)

namespace FileStore

/-- The most bytes of a name. -/
def nameLimit : Nat := 255

/-- The first number of bytes that a path may not have. -/
def pathLimit : Nat := 4096

/-- The entry at a location. -/
def node? (store : FileStore) (location : Location) : Option Node :=
  if location.isEmpty then some .directory
  else (store.entries.find? (·.1 == location)).map (·.2)

/-- Puts an entry at a location. -/
def put (store : FileStore) (location : Location) (node : Node) : FileStore :=
  { store with entries := store.entries.filter (·.1 != location) ++ [(location, node)] }

/-- Follows names from an entry. -/
def walk (store : FileStore) (location : Location) (node : Node) : List String → Except Errno Place
  | [] => .ok (.present location node)
  | name :: rest =>
    match node with
    | .directory =>
      if name = "" ∨ name = "." then store.walk location .directory rest
      else if name = ".." then store.walk location.dropLast .directory rest
      else if nameLimit < name.utf8ByteSize then .error .nameTooLong
      else
        match store.node? (location ++ [name]) with
        | some found => store.walk (location ++ [name]) found rest
        | none =>
          if rest.all (· == "") then .ok (.vacant (location ++ [name])) else .error .noEntry
    | _ => .error .notDirectory

/-- Follows a path. -/
def follow (store : FileStore) (path : String) : Except Errno Place :=
  if path.isEmpty then .error .noEntry
  else if pathLimit ≤ path.utf8ByteSize then .error .nameTooLong
  else
    let start := if path.toList.head? = some '/' then [] else store.workingDirectory
    match store.node? start with
    | some node => store.walk start node (Path.namesOf path)
    | none => .error .noEntry

/-- The entry at a path. -/
def status (store : FileStore) (path : String) : Except Errno Node :=
  match store.follow path with
  | .ok (.present _ node) => .ok node
  | .ok (.vacant _) => .error .noEntry
  | .error errno => .error errno

/-- The contents of the file at a path. -/
def readFile (store : FileStore) (path : String) : Except OsError Bytes :=
  match store.status path with
  | .ok (.file content _) => .ok content
  | .ok .directory => .error (.ofErrno .isDirectory (some path))
  | .ok _ => .ok []
  | .error errno => .error (.ofErrno errno (some path))

/-- Gives the file at a path its contents, and creates it if need be. `combine` makes the new
contents out of the old ones. -/
def updateFile (store : FileStore) (path : String) (combine : Bytes → Bytes) :
    Except OsError FileStore :=
  match store.follow path with
  | .ok (.present location (.file content executable)) =>
    .ok (store.put location (.file (combine content) executable))
  | .ok (.present _ .directory) => .error (.ofErrno .isDirectory (some path))
  | .ok (.present _ (.device .full)) =>
    if (combine []).isEmpty then .ok store else .error (.ofErrno .noSpace none)
  | .ok (.present ..) => .ok store
  | .ok (.vacant location) => .ok (store.put location (.file (combine []) false))
  | .error errno => .error (.ofErrno errno (some path))

/-- Replaces the contents of the file at a path. -/
def writeFile (store : FileStore) (path : String) (content : Bytes) : Except OsError FileStore :=
  store.updateFile path fun _ => content

/-- Makes a directory in a directory. -/
def makeDirectory (store : FileStore) (path : String) : Except Errno FileStore :=
  match store.follow path with
  | .ok (.present ..) => .error .fileExists
  | .ok (.vacant location) => .ok (store.put location .directory)
  | .error errno => .error errno

/-- Makes a directory of which the ones above exist; one that is there will do. -/
def ensureOneDirectory (store : FileStore) (path : Path) : Except OsError FileStore :=
  match store.makeDirectory path.toText with
  | .ok store => .ok store
  | .error errno =>
    match store.status path.toText with
    | .ok .directory => .ok store
    | _ => .error (.ofErrno errno (some path.toText))

/-- Makes a directory and those above it that are missing. -/
def ensureDirectory (store : FileStore) (path : Path) : Except OsError FileStore :=
  match store.makeDirectory path.toText with
  | .error .noEntry =>
    if path.names.isEmpty then .error (.ofErrno .noEntry (some path.toText))
    else
      match ensureDirectory store path.parent with
      | .ok store => store.ensureOneDirectory path
      | .error error => .error error
  | _ => store.ensureOneDirectory path
termination_by path.names.length
decreasing_by
  rename_i nonempty
  have : path.names ≠ [] := by simpa using nonempty
  have := List.length_pos_iff.2 this
  simp only [Path.parent, List.length_dropLast]
  omega

/-- The names of the entries of a directory, in order of their bytes. -/
def namesIn (store : FileStore) (location : Location) : List String :=
  let names := store.entries.filterMap fun (place, _) =>
    if place.dropLast == location then place.getLast? else none
  names.mergeSort fun a b => Utf8.bytesBefore (Utf8.encode a) (Utf8.encode b)

/-- The entries at a location and below it. -/
def subtree (store : FileStore) (location : Location) : List (Location × Node) :=
  store.entries.filter (location.isPrefixOf ·.1)

/-- Removes the entry at a location and all below it. -/
def remove (store : FileStore) (location : Location) : FileStore :=
  { store with entries := store.entries.filter (!location.isPrefixOf ·.1) }

/-- The files below the working directory, by their paths from there. -/
def files (store : FileStore) : List (String × Bytes) :=
  store.entries.filterMap fun
    | (location, .file content _) =>
      if store.workingDirectory.isPrefixOf location then
        some ("/".intercalate (location.drop store.workingDirectory.length), content)
      else none
    | _ => none

/-- Where a path without two dots leads. -/
def locate (store : FileStore) (path : Path) : Location :=
  (if path.root.isEmpty then store.workingDirectory else []) ++ path.names

/-- Puts a file or a directory at a path, with the directories above it. -/
def plant (store : FileStore) (path : String) (node : Node) : FileStore :=
  let location := store.locate (Path.ofText path)
  let above := (List.range location.length).filter (· ≠ 0)
  let store := above.foldl (fun store count =>
    let directory := location.take count
    if (store.node? directory).isSome then store else store.put directory .directory) store
  match node, store.node? location with
  | .directory, some .directory => store
  | _, _ => store.put location node

end FileStore

end EventHooks
