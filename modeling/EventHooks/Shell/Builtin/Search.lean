import EventHooks.Shell.Builtin.Place
import EventHooks.System.Launch

/-!
# Finding commands

What a name stands for: a reserved word, an alias, a function, a builtin command, or a program on
the search path. Programs that were found are remembered.
-/
namespace EventHooks.Shell

/-! ## Programs -/

/-- The search path where a session has none of its own. -/
def defaultPath : String := "/usr/local/sbin:/usr/local/bin:/usr/sbin:/usr/bin:/sbin:/bin"

/-- The path of a name in a directory of the search path. -/
def candidatePath (directory name : String) : String :=
  if directory.isEmpty then name else directory ++ "/" ++ name

/-- The first path at which a file can be executed. A file that cannot counts more than a missing
one. -/
def firstExecutable (files : FileStore) : Errno → List String → Except Errno String
  | errno, [] => .error errno
  | errno, path :: rest =>
    match files.status (ByteText.toText path) with
    | .ok (.program _) | .ok (.file _ true) => .ok path
    | .ok _ => firstExecutable files .permissionDenied rest
    | .error found =>
      let isMissing := found = .noEntry ∨ found = .notDirectory
      firstExecutable files (if isMissing then errno else found) rest

/-- The paths of a name in the directories of a search path. -/
def candidatePaths (path name : String) : List String :=
  ((Path.splitOn ':' path.toList).map String.ofList).map (candidatePath · name)

/-- The path of a program on a search path. -/
def searchProgram (files : FileStore) (path name : String) : Except Errno String :=
  firstExecutable files .noEntry (candidatePaths path name)

/-- Whether a path does not depend on the working directory. -/
def isRooted (path : String) : Bool :=
  path.toList.head? == some '/'

/-- The path of a program that was found before the working directory changed: of the paths in front
of it, only those that depend on the working directory are tried again. -/
def searchAgain (files : FileStore) (known : String) (paths : List String) : Except Errno String :=
  let before := (paths.takeWhile (· != known)).filter (!isRooted ·)
  match firstExecutable files .noEntry before with
  | .ok path => .ok path
  | .error errno =>
    if isRooted known then .ok known
    else firstExecutable files errno (paths.dropWhile (· != known))

/-- The words for an error of a command. -/
def commandErrorWords (errno : Errno) : String :=
  if errno = .noEntry ∨ errno = .notDirectory then "not found" else errno.words

/-- The search path of a session. -/
def Session.path (session : Session) : String :=
  (session.value? "PATH").getD ""

/-- The session with a program remembered. -/
def Session.remember (session : Session) (program : Remembered) : Session :=
  { session with
    remembered :=
      if session.remembered.any (·.name == program.name) then
        session.remembered.map fun other => if other.name == program.name then program else other
      else session.remembered ++ [program] }

/-- The session without a program that was remembered. -/
def Session.forgetProgram (session : Session) (name : String) : Session :=
  { session with remembered := session.remembered.filter (·.name != name) }

/-- Finds a program on a search path, or on that of the session, and remembers in that case where.
A name with a slash is a path. -/
def findProgram (name : String) (path? : Option String) : Run (Except Errno String) := do
  if name.toList.contains '/' then return .ok name
  else
    let files ← seenFiles
    match path? with
    | some path => return searchProgram files path name
    | none =>
      let session ← get
      let paths := candidatePaths session.path name
      let result := match session.remembered.find? (·.name == name) with
        | some known =>
          if known.isStale then searchAgain files known.path paths else .ok known.path
        | none => firstExecutable files .noEntry paths
      match result with
      | .ok found => modify (·.remember ⟨name, found, false⟩)
      | .error _ => modify (·.forgetProgram name)
      return result

/-! ## Names -/

/-- What a name stands for. -/
inductive Meaning
  | keyword
  | alias (text : String)
  | function
  | builtin (isSpecial : Bool)
  | program (path : String) (isRemembered : Bool)
  | nothing

/-- What a name stands for in a session, where programs are looked for on a search path or on that
of the session. -/
def meaningOf (name : String) (path? : Option String) : Run Meaning := do
  let session ← get
  if reserved.contains name then return .keyword
  else
    match session.aliases.find? (·.1 == name) with
    | some (_, text) => return .alias text
    | none =>
      if specialBuiltins.contains name then return .builtin true
      else if session.functions.any (·.1 == name) then return .function
      else if otherBuiltins.contains name then return .builtin false
      else
        let files ← seenFiles
        if name.toList.contains '/' then
          match files.status (ByteText.toText name) with
          | .ok _ => return .program name false
          | .error _ => return .nothing
        else
          match session.remembered.find? (·.name == name), path? with
          | some known, none => return .program known.path true
          | _, _ =>
            match ← findProgram name path? with
            | .ok found => return .program found false
            | .error _ => return .nothing

/-- The word that a name can be called by. -/
def Meaning.short? (name : String) : Meaning → Option String
  | .alias text => some s!"alias {aliasText name text}"
  | .program path _ => some path
  | .nothing => none
  | _ => some name

/-- The sentence that tells what a name stands for. -/
def Meaning.sentence (name : String) : Meaning → String
  | .keyword => s!"{name} is a shell keyword"
  | .alias text => s!"{name} is an alias for {text}"
  | .function => s!"{name} is a shell function"
  | .builtin isSpecial =>
    s!"{name} is a " ++ (if isSpecial then "special " else "") ++ "shell builtin"
  | .program path isRemembered =>
    s!"{name} is " ++ (if isRemembered then "a tracked alias for " else "") ++ path
  | .nothing => s!"{name}: not found"

/-- Whether a name stands for nothing. -/
def Meaning.isNothing : Meaning → Bool
  | .nothing => true
  | _ => false

/-- Tells what names stand for. -/
def typeCommand (names : List String) : Run Nat := do
  let mut text := ""
  let mut status := 0
  for name in names do
    let meaning ← meaningOf name none
    text := text ++ meaning.sentence name ++ "\n"
    if meaning.isNothing then status := 127
  let written ← output text
  return max status written

/-- Tells what a name stands for, in a sentence or in a word. -/
def whichCommand (isVerbose usesDefault : Bool) (name : String) : Run Nat := do
  let meaning ← meaningOf name (if usesDefault then some defaultPath else none)
  if isVerbose then
    let status ← output (meaning.sentence name ++ "\n")
    return if meaning.isNothing then 127 else status
  else
    match meaning.short? name with
    | some text => output (text ++ "\n")
    | none => return 127

/-- Where a remembered program stands in the list. -/
def rememberedBucket (name : String) : Nat :=
  let codes := name.toList.map Char.toNat
  (codes.foldl (· + ·) (16 * codes.headD 0)) % 32768 % 31

/-- Lists, forgets or finds programs. -/
def hashCommand (arguments : List String) : Run Nat := do
  let (options, names) ← optionsOf "r" arguments
  if !options.isEmpty then
    modify fun session => { session with remembered := [] }
    return 0
  else if names.isEmpty then
    let found := (← get).remembered.mergeSort fun first second =>
      rememberedBucket first.name ≤ rememberedBucket second.name
    output (String.join (found.map fun known =>
      known.path ++ if known.isStale then "*\n" else "\n"))
  else
    let mut status := 0
    for name in names do
      modify (·.forgetProgram name)
      let session ← get
      if !isBuiltin name && !session.functions.any (·.1 == name) then
        match ← findProgram name none with
        | .ok _ => pure ()
        | .error errno =>
          complain s!"{name}: {commandErrorWords errno}"
          status := 1
    return status

end EventHooks.Shell
