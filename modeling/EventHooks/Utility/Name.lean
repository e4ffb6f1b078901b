import EventHooks.Utility.FileTree

/-!
# Utilities about paths

The parts of paths, where they lead, and names that nothing has yet.
-/
namespace EventHooks.Utility

/-! ## Parts -/

/-- A name without an ending, unless it is nothing else. -/
def withoutEnding (ending name : String) : String :=
  if !ending.isEmpty && ending != name && ending.toList.isSuffixOf name.toList then
    String.ofList (name.toList.take (name.length - ending.length))
  else name

/-- Writes the last names of paths. -/
def basename : Tool := fun call => do
  let known : Known :=
    { letters := "as:z", stops := true
      long := [("multiple", 'a'), ("suffix", 's'), ("zero", 'z')] }
  let (options, words) ← call.parse known
  demand call "missing operand" words
  let ending := if given options 'z' then "\x00" else "\n"
  let isMany := given options 'a' || given options 's'
  match isMany, words with
  | false, _ :: _ :: extra :: _ => call.misuse s!"extra operand {quoted extra}"
  | false, [path, suffix] => call.print (withoutEnding suffix (lastName path) ++ ending)
  | _, paths =>
    let suffix := (valueOf? options 's').getD ""
    call.print (String.join (paths.map fun path =>
      withoutEnding suffix (lastName path) ++ ending))
  return 0

/-- Writes paths without their last names. -/
def dirname : Tool := fun call => do
  let known : Known := { letters := "z", long := [("zero", 'z')] }
  let (options, paths) ← call.parse known
  demand call "missing operand" paths
  let ending := if given options 'z' then "\x00" else "\n"
  call.print (String.join (paths.map (parentPath · ++ ending)))
  return 0

/-! ## Places -/

/-- The path of a location from the root. -/
def rootedPath (location : Location) : String :=
  "/" ++ ByteText.ofText ("/".intercalate location)

/-- Writes the working directory. -/
def pwd : Tool := fun call => do
  let known : Known := { letters := "LP", long := [("logical", 'L'), ("physical", 'P')] }
  let (_, words) ← call.parse known
  if !words.isEmpty then call.complain "ignoring non-option arguments"
  let files ← Program.seenFiles
  call.print (rootedPath files.workingDirectory ++ "\n")
  return 0

/-- Writes where paths lead. -/
def realpath : Tool := fun call => do
  let known : Known :=
    { letters := "eLmPqsz", long := [("canonicalize-existing", 'e'),
        ("canonicalize-missing", 'm'), ("quiet", 'q'), ("no-symlinks", 's'), ("zero", 'z')] }
  let (options, paths) ← call.parse known
  demand call "missing operand" paths
  forEach (fun path => do
    let files ← Program.seenFiles
    let refuse (errno : Errno) : Program Nat := do
      if !given options 'q' then call.complain s!"{quotedIfNeeded path}: {errno.words}"
      return 1
    match files.follow (ByteText.toText path) with
    | .ok (.present location _) =>
      call.print (rootedPath location ++ "\n")
      return 0
    | .ok (.vacant location) =>
      if given options 'e' then refuse .noEntry
      else
        call.print (rootedPath location ++ "\n")
        return 0
    | .error errno =>
      if given options 'm' then
        let start := if path.toList.head? == some '/' then [] else files.workingDirectory
        let location := (Path.namesOf (ByteText.toText path)).foldl (fun location name =>
          if name == "" || name == "." then location
          else if name == ".." then location.dropLast
          else location ++ [name]) start
        call.print (rootedPath location ++ "\n")
        return 0
      else refuse errno) paths 0

/-- Writes where paths lead, if that is asked for; there are no links to read. -/
def readlink : Tool := fun call => do
  let known : Known :=
    { letters := "efmnqsvz", long := [("canonicalize", 'f'), ("canonicalize-existing", 'e'),
        ("canonicalize-missing", 'm'), ("no-newline", 'n')] }
  let (options, paths) ← call.parse known
  demand call "missing operand" paths
  if ! ['e', 'f', 'm'].any (given options) then return 1
  forEach (fun path => do
    let ending := if given options 'n' && paths.length == 1 then "" else "\n"
    match ← placeOf path with
    | .ok (.present location _) =>
      call.print (rootedPath location ++ ending)
      return 0
    | .ok (.vacant location) =>
      if given options 'e' then return 1
      else
        call.print (rootedPath location ++ ending)
        return 0
    | .error _ => return 1) paths 0

/-! ## New names -/

/-- The characters of new names. -/
def nameCharacters : List Char :=
  ((List.range 26).map fun place => Char.ofNat (97 + place)) ++
    (List.range 10).map fun place => Char.ofNat (48 + place)

/-- A new ending made of a number. -/
def newEnding : Nat → Nat → List Char
  | 0, _ => []
  | count + 1, number =>
    (nameCharacters[(number * 7 + 11 * count) % 36]?).getD 'a' :: newEnding count (number / 36)

/-- The first of some paths at which there is nothing. -/
def vacantPath (start : List Char) (count : Nat) (rest : List Char) :
    Nat → Nat → Program (Except Errno (String × Location))
  | 0, _ => return .error .fileExists
  | fuel + 1, number => do
    let path := String.ofList (start ++ newEnding count number ++ rest)
    match ← placeOf path with
    | .ok (.vacant location) => return .ok (path, location)
    | .ok (.present ..) => vacantPath start count rest fuel (number + 1)
    | .error errno => return .error errno

/-- Makes a file or a directory with a new name. -/
def mktemp : Tool := fun call => do
  let known : Known :=
    { letters := "dp:qtu", long := [("directory", 'd'), ("tmpdir", 'p'), ("quiet", 'q'),
        ("dry-run", 'u')] }
  let (options, words) ← call.parse known
  let template := words.headD "tmp.XXXXXXXXXX"
  let directory? := if words.isEmpty || given options 't' || given options 'p' then
      some ((valueOf? options 'p').getD ((call.environment.get? "TMPDIR").getD "/tmp"))
    else none
  let chars := ((directory?.map (within · template)).getD template).toList
  let marks := (chars.reverse.dropWhile (· != 'X')).takeWhile (· == 'X')
  let rest := (chars.reverse.takeWhile (· != 'X')).reverse
  let start := chars.take (chars.length - rest.length - marks.length)
  if 1 < words.length then call.misuse "too many templates"
  if marks.length < 3 then
    call.complain s!"too few X's in template {quoted template}"
    return 1
  let now ← Program.observe fun _ world => world.now
  match ← vacantPath start marks.length rest 1000 now with
  | .error errno =>
    let kind := if given options 'd' then "directory" else "file"
    let path := String.ofList chars
    call.complain s!"failed to create {kind} via template {quoted path}: {errno.words}"
    return 1
  | .ok (path, location) =>
    if !given options 'u' then
      if given options 'd' then createEntry location .directory 448
      else createEntry location (.file [] false) 384
    call.print (path ++ "\n")
    return 0

end EventHooks.Utility
