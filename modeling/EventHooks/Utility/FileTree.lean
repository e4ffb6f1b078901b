import EventHooks.System.Mode
import EventHooks.Utility.Calendar
import EventHooks.Utility.Call

/-!
# Utilities for files and directories

Entries are made, removed, copied, moved and marked. A path that cannot be treated is complained of,
and the others are treated all the same.
-/
namespace EventHooks.Utility

/-! ## Entries -/

/-- Where a path leads. -/
def placeOf (path : String) : Program (Except Errno Place) := do
  return (← Program.seenFiles).follow (ByteText.toText path)

/-- The entry at a path. -/
def nodeAt (path : String) : Program (Except Errno Node) := do
  return (← Program.seenFiles).status (ByteText.toText path)

/-- Whether a path leads to a directory. -/
def isDirectory (path : String) : Program Bool := do
  match ← nodeAt path with
  | .ok .directory => return true
  | _ => return false

/-- Puts an entry at a location. -/
def putEntry (location : Location) (node : Node) : Program Unit :=
  Program.change fun _ world => world.putNode location node

/-- Puts a new entry at a location, with the permission bits that are left of those wished for. -/
def createEntry (location : Location) (node : Node) (wished : Nat) : Program Unit :=
  Program.change fun process world => world.create process location node wished

/-- Gives an entry permission bits. -/
def setMode (location : Location) (mode : Nat) : Program Unit :=
  Program.change fun _ world => world.setMode location mode

/-- Removes the entry at a location and all below it. -/
def removeEntry (location : Location) : Program Unit :=
  Program.change fun _ world => world.removeNode location

/-- The path of a name in a directory. -/
def within (directory name : String) : String :=
  if directory.toList.getLast? == some '/' then directory ++ name else directory ++ "/" ++ name

/-- A path without the slashes at its end. -/
def withoutSlashes (path : String) : String :=
  let kept := (path.toList.reverse.dropWhile (· == '/')).reverse
  if kept.isEmpty && !path.isEmpty then "/" else String.ofList kept

/-- The last name of a path. -/
def lastName (path : String) : String :=
  let chars := (withoutSlashes path).toList
  if chars == ['/'] then "/"
  else String.ofList ((chars.reverse.takeWhile (· != '/')).reverse)

/-- The path of what holds the entry at a path. -/
def parentPath (path : String) : String :=
  let chars := (withoutSlashes path).toList.reverse
  let above := ((chars.dropWhile (· != '/')).dropWhile (· == '/')).reverse
  if above.isEmpty then if chars.contains '/' then "/" else "." else String.ofList above

/-- The names in the directory at a location, in order, as texts that stand for bytes. -/
def namesAt (location : Location) : Program (List String) := do
  return ((← Program.seenFiles).namesIn location).map ByteText.ofText

/-- Takes at least one argument, or ends with the words for a missing one. -/
def demand (call : Call) (message : String) (words : List String) : Program Unit := do
  if words.isEmpty then call.misuse message

/-! ## Making and removing directories -/

/-- Makes a directory. -/
def makeDirectory (path : String) : Program (Except Errno Unit) := do
  match ← placeOf path with
  | .error errno => return .error errno
  | .ok (.present ..) => return .error .fileExists
  | .ok (.vacant location) =>
    createEntry location .directory Mode.all
    return .ok ()

/-- The paths from the first name of a path up to the whole of it. -/
def prefixes (path : String) : List String :=
  let chars := path.toList
  let places := (List.range (chars.length + 1)).filter fun place =>
    0 < place && chars[place - 1]? != some '/' && (chars[place]?).all (· == '/')
  places.map fun place => String.ofList (chars.take place)

/-- Makes directories one in the other. One that is there will do. -/
def makeDirectories (call : Call) (announces : Bool) : List String → Program Nat
  | [] => return 0
  | path :: rest => do
    match ← makeDirectory path with
    | .ok () =>
      if announces then call.print s!"{call.name}: created directory {quoted path}\n"
      makeDirectories call announces rest
    | .error errno =>
      if errno = .fileExists then
        if ← isDirectory path then makeDirectories call announces rest
        else
          let words := if rest.isEmpty then errno.words else Errno.notDirectory.words
          call.complain s!"cannot create directory {quoted path}: {words}"
          return 1
      else
        call.complain s!"cannot create directory {quoted path}: {errno.words}"
        return 1

/-- Makes directories. -/
def mkdir : Tool := fun call => do
  let known : Known :=
    { letters := "pm:vZ", long := [("parents", 'p'), ("mode", 'm'), ("verbose", 'v')] }
  let (options, paths) ← call.parse known
  demand call "missing operand" paths
  let wanted? := valueOf? options 'm'
  let mode? := wanted?.map (Mode.change? true · Mode.all)
  if mode? == some none then
    let wanted := quoted (wanted?.getD "")
    call.complain s!"invalid mode {wanted}"
    call.quit 1
  let limit (path : String) : Program Unit := do
    match mode?, ← placeOf path with
    | some (some mode), .ok (.present location _) => setMode location mode
    | _, _ => pure ()
  let announces := given options 'v'
  forEach (fun path => do
    if given options 'p' && !path.isEmpty then
      let wasThere := (← nodeAt path).isOk
      let status ← makeDirectories call announces (prefixes path)
      if !wasThere then limit path
      return status
    else
      match ← makeDirectory path with
      | .ok () =>
        limit path
        if announces then call.print s!"{call.name}: created directory {quoted path}\n"
        return 0
      | .error errno =>
        call.complain s!"cannot create directory {quoted path}: {errno.words}"
        return 1) paths 0

/-- Removes a directory without entries. -/
def removeDirectory (path : String) : Program (Except Errno Unit) := do
  match ← placeOf path with
  | .error errno => return .error errno
  | .ok (.vacant _) => return .error .noEntry
  | .ok (.present location .directory) =>
    if lastName path == "." then return .error .invalidArgument
    else if !(← namesAt location).isEmpty || lastName path == ".." then return .error .notEmpty
    else
      removeEntry location
      return .ok ()
  | .ok (.present ..) => return .error .notDirectory

/-- Removes directories. -/
def rmdir : Tool := fun call => do
  let known : Known :=
    { letters := "pv", long := [("parents", 'p'), ("verbose", 'v'),
        ("ignore-fail-on-non-empty", 'I')] }
  let (options, paths) ← call.parse { known with letters := "pvI" }
  demand call "missing operand" paths
  let removeOne (path : String) (isFirst : Bool) : Program Nat := do
    if given options 'v' then call.print s!"{call.name}: removing directory, {quoted path}\n"
    match ← removeDirectory path with
    | .ok () => return 0
    | .error errno =>
      if errno = .notEmpty && given options 'I' then return 0
      else
        let what := if isFirst then "failed to remove" else "failed to remove directory"
        call.complain s!"{what} {quoted path}: {errno.words}"
        return 1
  forEach (fun path => do
    let paths := if given options 'p' then (prefixes path).reverse else [path]
    let mut status := 0
    for path in paths.zipIdx do
      if status = 0 then status ← removeOne path.1 (path.2 == 0)
    return status) paths 0

/-! ## Removing -/

/-- How entries are removed. -/
structure Removal where
  recursive : Bool
  forced : Bool
  directories : Bool
  announces : Bool
  asks : Bool

/-- Removes a directory that should be empty. -/
def removeEmpty (call : Call) (removal : Removal) (path : String) (location : Location) :
    Program Nat := do
  if !(← namesAt location).isEmpty then
    call.complain s!"cannot remove {quoted path}: {Errno.notEmpty.words}"
    return 1
  removeEntry location
  if removal.announces then call.print s!"removed directory {quoted path}\n"
  return 0

/-- Removes the entry at a place, with all that is below it. -/
def removeTree (call : Call) (removal : Removal) : Nat → String → Location → Program Nat
  | 0, _, _ => return 1
  | fuel + 1, path, location => do
    let mayGoOn (question : String) : Program Bool :=
      if removal.asks then call.asks s!"{question} {quoted path}" else pure true
    match (← Program.seenFiles).node? location with
    | some .directory =>
      let names ← namesAt location
      let descends ← if names.isEmpty then pure true else mayGoOn "descend into directory"
      if !descends then return 0
      let status ← forEach (fun name =>
        let place := location ++ [ByteText.toText name]
        removeTree call removal fuel (within path name) place) names 0
      if !(← mayGoOn "remove directory") then return status
      return max status (← removeEmpty call removal path location)
    | some node =>
      let kind := match node with
        | .file [] _ => "remove regular empty file"
        | .file _ _ => "remove regular file"
        | _ => "remove character special file"
      if ← mayGoOn kind then
        removeEntry location
        if removal.announces then call.print s!"removed {quoted path}\n"
      return 0
    | none => return 0

/-- Removes the entry at a path. -/
def removePath (call : Call) (removal : Removal) (path : String) : Program Nat := do
  let refuse (words : String) : Program Nat := do
    call.complain s!"cannot remove {quoted path}: {words}"
    return 1
  match ← placeOf path with
  | .error errno =>
    if removal.forced && (errno = .noEntry || errno = .notDirectory) then return 0
    else refuse errno.words
  | .ok (.vacant _) => if removal.forced then return 0 else refuse Errno.noEntry.words
  | .ok (.present location .directory) =>
    if removal.recursive then
      if lastName path == "." || lastName path == ".." then
        call.complain
          s!"refusing to remove '.' or '..' directory: skipping {quoted (withoutSlashes path)}"
        return 1
      else if location.isEmpty then
        call.complain s!"it is dangerous to operate recursively on {quoted path}"
        call.complain "use --no-preserve-root to override this failsafe"
        return 1
      else removeTree call removal 1000 path location
    else if !removal.directories then refuse Errno.isDirectory.words
    else
      let mayGoOn ← if removal.asks then call.asks s!"remove directory {quoted path}" else pure true
      if mayGoOn then removeEmpty call removal path location else return 0
  | .ok (.present location _) => removeTree call removal 1 path location

/-- Removes entries. -/
def rm : Tool := fun call => do
  let known : Known :=
    { letters := "dfiIrRv", long := [("recursive", 'r'), ("force", 'f'), ("dir", 'd'),
        ("verbose", 'v'), ("interactive", 'i')] }
  let (options, paths) ← call.parse known
  let manner? := lastOf? options ['f', 'i', 'I']
  let removal : Removal :=
    { recursive := given options 'r' || given options 'R', forced := manner? == some 'f'
      directories := given options 'd', announces := given options 'v'
      asks := manner? == some 'i' }
  if paths.isEmpty && removal.forced then return 0
  demand call "missing operand" paths
  if manner? == some 'I' && (removal.recursive || 3 < paths.length) then
    let count := s!"{paths.length} argument" ++ if paths.length = 1 then "" else "s"
    let manner := if removal.recursive then " recursively" else ""
    if !(← call.asks s!"remove {count}{manner}") then return 0
  forEach (removePath call removal) paths 0

/-- Removes one file. -/
def unlink : Tool := fun call => do
  let (_, words) ← call.parse { letters := "" }
  match words with
  | [] => call.misuse "missing operand"
  | _ :: extra :: _ => call.misuse s!"extra operand {quoted extra}"
  | [path] =>
    let refuse (errno : Errno) : Program Nat := do
      call.complain s!"cannot unlink {quoted path}: {errno.words}"
      return 1
    match ← placeOf path with
    | .error errno => refuse errno
    | .ok (.vacant _) => refuse .noEntry
    | .ok (.present _ .directory) => refuse .isDirectory
    | .ok (.present location _) =>
      removeEntry location
      return 0

/-! ## Times and permissions -/

/-- The point in time. -/
def presentTime : Program Calendar.Time :=
  Program.observe fun _ world => ((Calendar.clockStart * 1000000 + world.now : Nat) : Int)

/-- The point in time that digits write: a month, a day, an hour and a minute, perhaps behind a year
and before the seconds. -/
def stampTime? (present : Calendar.Time) (text : String) : Option Calendar.Time :=
  let (digits, behind) := (text.toList.takeWhile (· != '.'), text.toList.dropWhile (· != '.'))
  let seconds := behind.drop 1
  let fields := digits.drop (digits.length - 8)
  let field (place : Nat) : Nat := FloatText.digitsValue 10 ((fields.drop place).take 2)
  let before := digits.take (digits.length - 8)
  let year : Int := if before.isEmpty then
      (Calendar.dateOfDay (present / 1000000 / 86400)).1
    else Calendar.yearOf before
  let isProper := [8, 10, 12].contains digits.length && (digits ++ seconds).all (·.isDigit) &&
    (behind.isEmpty || seconds.length == 2) && Calendar.isDate year (field 0) (field 2) &&
    field 4 < 24 && field 6 < 60 && FloatText.digitsValue 10 seconds ≤ 60
  let minutes := (Calendar.dayOfDate year (field 0) (field 2) * 24 + field 4) * 60 + field 6
  if isProper then some ((minutes * 60 + FloatText.digitsValue 10 seconds) * 1000000) else none

/-- Makes files, or notes that they have changed. -/
def touch : Tool := fun call => do
  let known : Known :=
    { letters := "acd:fhmr:t:", long := [("no-create", 'c'), ("date", 'd'), ("reference", 'r')] }
  let (options, paths) ← call.parse known
  let wrong (value : String) : Program Unit := do
    call.complain s!"invalid date format {quoted value}"
    call.quit 1
  let present ← presentTime
  let readBy (letter : Char) (read? : String → Option Calendar.Time) :
      Program (Option Calendar.Time) := do
    match valueOf? options letter with
    | none => return none
    | some value =>
      if (read? value).isNone then wrong value
      return read? value
  let stamp? ← readBy 't' (stampTime? present)
  let date? ← readBy 'd' (Calendar.read? present)
  if paths.isEmpty then call.misuse "missing file operand"
  let time ← match valueOf? options 'r' with
    | none => pure ((date?.or stamp?).getD present - Calendar.clockStart * 1000000)
    | some path =>
      match ← placeOf path with
      | .ok (.present location _) => Program.observe fun _ world => world.stampOf location
      | found =>
        let errno := match found with
          | .error errno => errno
          | .ok _ => .noEntry
        call.complain s!"failed to get attributes of {quoted path}: {errno.words}"
        call.quit 1
  forEach (fun path => do
    match ← placeOf path with
    | .ok (.present location _) =>
      Program.change fun _ world => world.setStamp location time
      return 0
    | .ok (.vacant location) =>
      if given options 'c' then return 0
      else if path.toList.getLast? == some '/' then
        call.complain s!"setting times of {quoted path}: {Errno.noEntry.words}"
        return 1
      else
        createEntry location (.file [] false) 438
        Program.change fun _ world => world.setStamp location time
        return 0
    | .error errno =>
      let verb := if path.toList.getLast? == some '/' then "setting times of" else "cannot touch"
      call.complain s!"{verb} {quoted path}: {errno.words}"
      return 1) paths 0

/-- The letters of a permission mode. -/
def modeLetters (mode : Nat) : String :=
  let three (bits : Nat) : List Char :=
    [if bits &&& 4 != 0 then 'r' else '-', if bits &&& 2 != 0 then 'w' else '-',
      if bits &&& 1 != 0 then 'x' else '-']
  String.ofList (three (mode / 64 % 8) ++ three (mode / 8 % 8) ++ three (mode % 8))

/-- Changes the permissions of entries. -/
def chmod : Tool := fun call => do
  let known : Known :=
    { letters := "Rcfvrwx", long := [("recursive", 'R'), ("changes", 'c'), ("silent", 'f'),
        ("quiet", 'f'), ("verbose", 'v')] }
  let isMode (word : String) : Bool :=
    match word.toList with
    | '-' :: letter :: _ => "rwxXstugo=".toList.contains letter
    | _ => false
  let first? := call.arguments.find? isMode
  let others := match first? with
    | some word => call.arguments.erase word
    | none => call.arguments
  let (options, words) ← { call with arguments := others }.parse known
  let words := first?.toList ++ words
  match words with
  | [] => call.misuse "missing operand"
  | [mode] => call.misuse s!"missing operand after {quoted mode}"
  | mode :: paths =>
    if (Mode.change? false mode 0).isNone then call.misuse s!"invalid mode: {quoted mode}"
    forEach (fun path => do
      match ← placeOf path with
      | .ok (.present location node) =>
        let files ← Program.seenFiles
        let places := if given options 'R' then files.subtree location else [(location, node)]
        for (place, node) in places do
          let before ← Program.observe fun _ world => world.modeOf place node
          let isDirectory := node == .directory
          let after := (Mode.change? isDirectory mode before).getD before
          setMode place after
          let describe (mode : Nat) : String :=
            s!"{Mode.digits mode} ({modeLetters mode})"
          if before != after && (given options 'c' || given options 'v') then
            call.print
              s!"mode of {quoted path} changed from {describe before} to {describe after}\n"
          else if given options 'v' then
            call.print s!"mode of {quoted path} retained as {describe after}\n"
        return 0
      | found =>
        let errno := match found with
          | .error errno => errno
          | .ok _ => .noEntry
        if !given options 'f' then
          call.complain s!"cannot access {quoted path}: {errno.words}"
        return 1) paths 0

/-! ## Copying and moving -/

/-- How entries are copied or moved: whether permissions are kept in spite of the mask, whether
entries that are there stay, or those that are not older, or those for which that is wanted when
asked, and the status if one stays. -/
structure Transfer where
  recursive : Bool
  keepsMode : Bool
  keepsOld : Bool
  keepsRecent : Bool
  announces : Bool
  asks : Bool
  keptStatus : Nat

/-- The status if an entry that is there stays as it is and another one does not take its place. -/
def Transfer.kept? (transfer : Transfer) (call : Call) (target : String)
    (start location : Location) : Program (Option Nat) := do
  let isRecent ← Program.observe fun _ world =>
    decide (world.stampOf start ≤ world.stampOf location)
  if transfer.keepsRecent && isRecent then return some 0
  else if transfer.keepsOld then
    if transfer.keptStatus != 0 then call.complain s!"not replacing {quoted target}"
    return some transfer.keptStatus
  else if transfer.asks then
    if ← call.asks s!"overwrite {quoted target}" then return none else return some 1
  else return none

/-- The error for a path at which there is nothing. -/
def missing : Except Errno Place → Errno
  | .error errno => errno
  | .ok _ => .noEntry

/-- Copies the contents of a file to a path. -/
def copyContents (call : Call) (transfer : Transfer) (source target : String) (node : Node) :
    Program Nat := do
  match ← call.contents source with
  | .error errno =>
    call.complain s!"error reading {quoted source}: {errno.words}"
    return 1
  | .ok content =>
    let isNew := match ← placeOf target with
      | .ok (.vacant _) => true
      | _ => false
    match ← Program.openPath target Opening.output with
    | .error errno =>
      let verb := if errno = .noEntry || errno = .notDirectory || isNew then
          "cannot create regular file"
        else "cannot open"
      call.complain s!"{verb} {quoted target}: {errno.words}"
      return 1
    | .ok handle =>
      match ← Program.writeTo handle Program.patience content with
      | .error errno =>
        call.complain s!"error writing {quoted target}: {errno.words}"
        return 1
      | .ok () =>
        match ← placeOf source, ← placeOf target with
        | .ok (.present start _), .ok (.present location copied) =>
          let mode ← Program.observe fun _ world => world.modeOf start node
          if isNew then
            match node with
            | .program name => putEntry location (.program name)
            | _ => createEntry location copied mode
          if transfer.keepsMode then setMode location mode
        | _, _ => pure ()
        return 0

/-- Copies a file to a path. -/
def copyFile (call : Call) (transfer : Transfer) (source target : String) (node : Node) :
    Program Nat := do
  let status ← copyContents call transfer source target node
  if transfer.announces && status = 0 then call.print s!"{quoted source} -> {quoted target}\n"
  return status

/-- Copies an entry to a path, with all that is below it. -/
def copyEntry (call : Call) (transfer : Transfer) : Nat → String → String → Program Nat
  | 0, _, _ => return 1
  | fuel + 1, source, target => do
    let refuse (words : String) : Program Nat := do
      call.complain words
      return 1
    match ← placeOf source, ← placeOf target with
    | .ok (.present start node), found =>
      let descend (names : List String) : Program Nat :=
        forEach (fun name =>
          copyEntry call transfer fuel (within source name) (within target name)) names 0
      match node, found with
      | .directory, .ok (.present location other) =>
        if !transfer.recursive then
          refuse s!"-r not specified; omitting directory {quoted source}"
        else if start == location then
          refuse s!"{quoted source} and {quoted target} are the same file"
        else if other != .directory then
          refuse s!"cannot overwrite non-directory {quoted target} with directory {quoted source}"
        else descend (← namesAt start)
      | .directory, .ok (.vacant location) =>
        if !transfer.recursive then
          refuse s!"-r not specified; omitting directory {quoted source}"
        else
          let names ← namesAt start
          let mode ← Program.observe fun _ world => world.modeOf start node
          createEntry location .directory mode
          if transfer.keepsMode then setMode location mode
          if transfer.announces then call.print s!"{quoted source} -> {quoted target}\n"
          if start.isPrefixOf location then
            let _ ← descend (names.filter fun name => start ++ [ByteText.toText name] != location)
            refuse s!"cannot copy a directory, {quoted source}, into itself, {quoted target}"
          else descend names
      | .directory, .error errno =>
        if !transfer.recursive then
          refuse s!"-r not specified; omitting directory {quoted source}"
        else refuse s!"cannot create directory {quoted target}: {errno.words}"
      | _, .ok (.present location other) =>
        if start == location then
          refuse s!"{quoted source} and {quoted target} are the same file"
        else if other == .directory then
          refuse s!"cannot overwrite directory {quoted target} with non-directory"
        else
          match ← transfer.kept? call target start location with
          | some status => return status
          | none => copyFile call transfer source target node
      | _, .ok (.vacant _) =>
        if target.endsWith "/" then
          refuse s!"cannot create regular file {quoted target}: {Errno.notDirectory.words}"
        else copyFile call transfer source target node
      | _, .error errno =>
        if errno = .notDirectory then
          refuse s!"cannot stat {quoted target}: {errno.words}"
        else copyFile call transfer source target node
    | found, _ => refuse s!"cannot stat {quoted source}: {(missing found).words}"

/-- Moves the entry at a path to another one. -/
def moveEntry (call : Call) (transfer : Transfer) (source target : String) : Program Nat := do
  let refuse (words : String) : Program Nat := do
    call.complain words
    return 1
  let move (start location : Location) : Program Nat := do
    Program.change fun _ world => world.moveNode start location
    if transfer.announces then call.print s!"renamed {quoted source} -> {quoted target}\n"
    return 0
  match ← placeOf source, ← placeOf target with
  | .ok (.present start node), .ok (.present location other) =>
    if start == location then
      refuse s!"{quoted source} and {quoted target} are the same file"
    else
      match ← transfer.kept? call target start location with
      | some status => return status
      | none =>
        match node == .directory, other == .directory with
        | true, true =>
          if start.isPrefixOf location then
            refuse s!"cannot move {quoted source} to a subdirectory of itself, {quoted target}"
          else if !(← namesAt location).isEmpty then
            refuse s!"cannot overwrite {quoted target}: {Errno.notEmpty.words}"
          else move start location
        | true, false =>
          refuse s!"cannot overwrite non-directory {quoted target} with directory {quoted source}"
        | false, true =>
          refuse s!"cannot overwrite directory {quoted target} with non-directory"
        | false, false => move start location
  | .ok (.present start node), .ok (.vacant location) =>
    if start.isPrefixOf location then
      refuse s!"cannot move {quoted source} to a subdirectory of itself, {quoted target}"
    else if target.toList.getLast? == some '/' && node != .directory then
      refuse s!"cannot move {quoted source} to {quoted target}: {Errno.notDirectory.words}"
    else move start location
  | .ok (.present ..), .error errno =>
    if errno = .notDirectory then refuse s!"cannot stat {quoted target}: {errno.words}"
    else refuse s!"cannot move {quoted source} to {quoted target}: {errno.words}"
  | found, _ => refuse s!"cannot stat {quoted source}: {(missing found).words}"

/-- Copies or moves entries to a path or into a directory. -/
def transferAll (call : Call) (options : List (Char × String)) (words : List String)
    (use : String → String → Program Nat) : Program Nat := do
  let into (directory : String) (sources : List String) : Program Nat :=
    forEach (fun source => use source (within directory (lastName source))) sources 0
  match valueOf? options 't', words with
  | some directory, [] =>
    let _ := directory
    call.misuse "missing file operand"
  | some directory, sources =>
    match ← nodeAt directory with
    | .ok .directory => into directory sources
    | .ok _ =>
      call.complain s!"target directory {quoted directory}: {Errno.notDirectory.words}"
      return 1
    | .error errno =>
      call.complain s!"target directory {quoted directory}: {errno.words}"
      return 1
  | none, [] => call.misuse "missing file operand"
  | none, [source] => call.misuse s!"missing destination file operand after {quoted source}"
  | none, words =>
    let target := words.getLastD ""
    let sources := words.dropLast
    if given options 'T' then
      match sources with
      | [source] => use source target
      | _ => call.misuse s!"extra operand {quoted target}"
    else
      match ← nodeAt target, sources with
      | .ok .directory, _ => into target sources
      | _, [source] => use source target
      | found, _ =>
        let errno := match found with
          | .error errno => errno
          | .ok _ => .notDirectory
        call.complain s!"target {quoted target}: {errno.words}"
        return 1

/-- The arguments without those that tell which files are replaced, and whether one says that none
is. -/
def withoutUpdate (arguments : List String) : List String × Bool :=
  let isUpdate (word : String) : Bool := word.startsWith "--update="
  (arguments.filter (!isUpdate ·), (arguments.filter isUpdate).getLast? == some "--update=none")

/-- Copies entries. -/
def cp : Tool := fun call => do
  let known : Known :=
    { letters := "abdfHilLnprRst:TuvxP"
      long := [("archive", 'a'), ("recursive", 'r'), ("force", 'f'), ("no-clobber", 'n'),
        ("interactive", 'i'), ("target-directory", 't'), ("no-target-directory", 'T'),
        ("update", 'u'), ("verbose", 'v')] }
  let (arguments, keepsAll) := withoutUpdate call.arguments
  let (options, words) ← { call with arguments := arguments }.parse known
  if given options 'n' then
    call.complain ("warning: behavior of -n is non-portable and may change in future; " ++
      "use --update=none instead")
  let manner? := lastOf? options ['i', 'n']
  let transfer : Transfer :=
    { recursive := ['r', 'R', 'a'].any (given options)
      keepsMode := ['p', 'a'].any (given options)
      keepsOld := keepsAll || manner? == some 'n'
      keepsRecent := given options 'u', announces := given options 'v'
      asks := manner? == some 'i', keptStatus := 0 }
  transferAll call options words (copyEntry call transfer 1000)

/-- Moves entries. -/
def mv : Tool := fun call => do
  let known : Known :=
    { letters := "bfint:TuvZ"
      long := [("force", 'f'), ("no-clobber", 'n'), ("interactive", 'i'),
        ("target-directory", 't'), ("no-target-directory", 'T'), ("update", 'u'),
        ("verbose", 'v')] }
  let (arguments, keepsAll) := withoutUpdate call.arguments
  let (options, words) ← { call with arguments := arguments }.parse known
  let manner? := lastOf? options ['f', 'i', 'n']
  let transfer : Transfer :=
    { recursive := true, keepsMode := true, keepsOld := keepsAll || manner? == some 'n'
      keepsRecent := given options 'u', announces := given options 'v'
      asks := manner? == some 'i'
      keptStatus := if keepsAll then 0 else 1 }
  transferAll call options words (moveEntry call transfer)

end EventHooks.Utility
