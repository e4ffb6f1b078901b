import EventHooks.Shell.Builtin.Variable
import EventHooks.System.Mode

/-!
# Builtin commands about the surroundings of a process

The working directory, the mask of permissions, limits and times.
-/
namespace EventHooks.Shell

/-! ## The working directory -/

/-- The text of a directory. -/
def directoryText (root : String) (location : Location) : String :=
  root ++ ByteText.ofText ("/".intercalate location)

/-- The path of the working directory. -/
def workingDirectory : Run String := do
  let files ← seenFiles
  return directoryText (← get).directoryRoot files.workingDirectory

/-- The location that a path writes, without a look at what is there. -/
def writtenLocation (start : Location) (path : String) : Location :=
  let start := if path.toList.head? = some '/' then [] else start
  (Path.namesOf (ByteText.toText path)).foldl (fun location name =>
    if name == "" || name == "." then location
    else if name == ".." then location.dropLast
    else location ++ [name]) start

/-- Goes to a directory, if it is one. -/
def enter (path : String) : Run Bool := do
  let files ← seenFiles
  let location := writtenLocation files.workingDirectory path
  let isPresent := match files.node? location with
    | some .directory => true
    | _ => false
  if !isPresent then return false
  else
    let before ← workingDirectory
    alter fun process world => world.modifyRecord process fun record =>
      { record with directory := location }
    let isRooted := path.toList.head? = some '/'
    let root := match path.toList with
      | ['/', '/'] => "//"
      | '/' :: '/' :: c :: _ => if c == '/' then "/" else "//"
      | _ => "/"
    if isRooted then modify fun session => { session with directoryRoot := root }
    let after ← workingDirectory
    let setExported (name value : String) : Run Unit := do
      assign name value
      modify fun session =>
        match session.lookup? name with
        | some item => session.putVariable { item with exported := true }
        | none => session
    setExported "OLDPWD" before
    setExported "PWD" after
    return true

/-- Whether a path is not looked for in other directories. -/
def isFixedPath (path : String) : Bool :=
  let starts := ["/", "./", "../"]
  path == "." || path == ".." || starts.any fun start => start.toList.isPrefixOf path.toList

/-- The path of a name in a directory, of which the empty one is the present one. -/
def joined (directory name : String) : String :=
  if directory.isEmpty then name else directory ++ "/" ++ name

/-- Changes the working directory. -/
def cdCommand (arguments : List String) : Run Nat := do
  let (_, arguments) ← optionsOf "LP" arguments
  let session ← get
  let (target, isShown) := match arguments with
    | [] => ((session.value? "HOME").getD "", false)
    | "-" :: _ => ((session.value? "OLDPWD").getD "", true)
    | target :: _ => (target, false)
  let path := if target.isEmpty then "." else target
  let files ← seenFiles
  let isDirectory (path : String) : Bool :=
    match files.status (ByteText.toText path) with
    | .ok .directory => true
    | _ => false
  let directories := match session.value? "CDPATH" with
    | some text =>
      if isFixedPath target then [] else (Path.splitOn ':' text.toList).map String.ofList
    | none => []
  let found? := directories.find? fun directory => isDirectory (joined directory path)
  let (path, isShown) := match found? with
    | some directory => (joined directory path, isShown || !directory.isEmpty)
    | none => (path, isShown)
  let isDone ← enter path
  if !isDone then abort s!"can't cd to {path}"
  modify fun session =>
    { session with remembered := session.remembered.map ({ · with isStale := true }) }
  if isShown then output ((← workingDirectory) ++ "\n") else return 0

/-- Writes the working directory. -/
def pwdCommand (arguments : List String) : Run Nat := do
  let (options, _) ← optionsOf "LP" arguments
  let files ← seenFiles
  if (options.getLast?.map (·.1)) == some 'P' then
    output (directoryText "/" files.workingDirectory ++ "\n")
  else output ((← workingDirectory) ++ "\n")

/-! ## The mask, limits and times -/

/-- Shows or changes the mask of permissions. -/
def umaskCommand (arguments : List String) : Run Nat := do
  let (options, arguments) ← optionsOf "S" arguments
  let mask ← look fun process world => ((world.record? process).map (·.mask)).getD 18
  match arguments with
  | [] =>
    if options.isEmpty then output (Mode.digits mask ++ "\n")
    else output (Mode.render (Mode.all ^^^ mask) ++ "\n")
  | text :: _ =>
    let put (mask : Nat) : Run Nat := do
      alter fun process world => world.modifyRecord process fun record =>
        { record with mask := mask % 512 }
      return 0
    match text.toList with
    | [] => return 0
    | c :: _ =>
      if c.isDigit then
        match Mode.ofDigits? text with
        | some mask => put mask
        | none => abort s!"Illegal number: {text}"
      else
        match Mode.change? false text (Mode.all ^^^ mask) with
        | some mode => put (Mode.all ^^^ mode)
        | none =>
          if (Mode.concerned? c).isNone || text.length != 1 then abort s!"Illegal mode: {text}"
          return 0

/-- The limits, with the letters that choose them. -/
def limits : List (Char × String × String) :=
  [('t', "time(seconds)", "unlimited"), ('f', "file(blocks)", "unlimited"),
    ('d', "data(kbytes)", "unlimited"), ('s', "stack(kbytes)", "8192"),
    ('c', "coredump(blocks)", "0"), ('m', "memory(kbytes)", "unlimited"),
    ('l', "locked memory(kbytes)", "8192"), ('p', "process", "unlimited"),
    ('n', "nofiles", "1048576"), ('v', "vmemory(kbytes)", "unlimited"),
    ('w', "locks", "unlimited"), ('r', "rtprio", "0")]

/-- Shows limits. Changes are accepted without an effect. -/
def ulimitCommand (arguments : List String) : Run Nat := do
  let (options, arguments) ← optionsOf "HSatfdscmlpnvwr" arguments
  let letters := (options.map (·.1)).filter fun c => c != 'H' && c != 'S'
  match arguments with
  | _ :: _ :: _ => abort "too many arguments"
  | [value] =>
    if letters.contains 'a' then abort "too many arguments"
    else if value == "unlimited" || (number? value).isSome then return 0
    else abort "bad number"
  | [] =>
    if letters.contains 'a' then
      output (String.join (limits.map fun (_, name, value) =>
        ({ width := 20, left := true } : Layout).pad name ++ " " ++ value ++ "\n"))
    else
      let letter := (letters.getLast?).getD 'f'
      output ((((limits.find? (·.1 == letter)).map (·.2.2)).getD "unlimited") ++ "\n")

/-- Shows the times that were used. -/
def timesCommand : Run Nat :=
  output "0m0.000000s 0m0.000000s\n0m0.000000s 0m0.000000s\n"

end EventHooks.Shell
