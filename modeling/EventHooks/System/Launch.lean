import EventHooks.Environment
import EventHooks.System.FileStore
import EventHooks.Text.ByteText

/-!
# Launching programs

A program is launched with arguments and an environment. Texts with a null character and names with
an equals sign never reach the system. The system finds the program by its path or on the search
path; a script names the program that interprets it on its first line.
-/
namespace EventHooks

/-- A program, its arguments after its name, and its environment. -/
structure Invocation where
  program : String
  arguments : List String
  environment : Environment
  deriving DecidableEq, Repr

/-- How a program ends: its exit status, or less than zero for a signal, and all its output. -/
structure Completion where
  status : Int
  output : Bytes
  errors : Bytes
  deriving DecidableEq, Repr

/-- Why a text is never given to the system. -/
inductive Refusal
  | nullCharacter
  | illegalName
  deriving DecidableEq, Repr

/-- Why a request to the system fails: the system has an error, or it never comes to the system. -/
inductive RequestError
  | system (error : OsError)
  | refused (refusal : Refusal)
  deriving DecidableEq, Repr

/-- Whether a text has a null character. -/
def hasNull (text : String) : Bool :=
  text.toList.contains '\x00'

/-- Why the system cannot be given an invocation. -/
def Invocation.refusal? (invocation : Invocation) : Option Refusal :=
  if invocation.environment.any (·.1.toList.contains '=') then some .illegalName
  else if hasNull invocation.program || invocation.arguments.any hasNull ||
      invocation.environment.any (fun entry => hasNull entry.1 || hasNull entry.2) then
    some .nullCharacter
  else none

/-- The words for a refusal. -/
def Refusal.message : Refusal → String
  | .nullCharacter => "embedded null byte"
  | .illegalName => "illegal environment variable name"

/-! ## Finding the program -/

/-- What a process is to become: a program of the system, the words that it is given with its own
name in front, and its environment. All texts stand for bytes. -/
structure Image where
  program : String
  words : List String
  environment : Environment
  deriving DecidableEq, Repr

/-- What the system executes for a path: a program, and the words that stand before the arguments,
of which the last one is the path of a script. No words mean that the path is the program's own. -/
structure Executable where
  program : String
  before : List Bytes
  deriving DecidableEq, Repr

/-- How many bytes of a script are looked at. -/
def scriptLineLimit : Nat := 256

/-- The interpreter on the first line of a script, and its argument. A line that does not end within
the limit loses the rest of its argument, but not of its name. -/
def interpreterLine? (content : Bytes) : Option (Bytes × Option Bytes) :=
  let isGap (byte : UInt8) : Bool := byte == 0x20 || byte == 0x09
  let isEnd (byte : UInt8) : Bool := isGap byte || byte == 0
  let head := content.take scriptLineLimit
  let padded := head ++ List.replicate (scriptLineLimit - head.length) 0
  let isWhole := padded.contains 0x0A
  let line := if isWhole then padded.takeWhile (· != 0x0A) else padded
  match line with
  | 0x23 :: 0x21 :: rest =>
    let isCut := !isWhole && !((rest.dropWhile isGap).any isEnd)
    let rest := if isWhole then rest else rest.dropLast
    let named := ((rest.reverse.dropWhile isGap).reverse).dropWhile isGap
    let name := named.takeWhile (!isEnd ·)
    let afterName := named.drop name.length
    let argument := (afterName.dropWhile isGap).takeWhile (· != 0)
    let hasArgument := match afterName with
      | byte :: _ => isGap byte
      | [] => false
    if isCut || named.isEmpty then none
    else some (name, if hasArgument then some argument else none)
  | _ => none

/-- How many interpreters may be scripts themselves. -/
def interpreterDepth : Nat := 6

/-- What executing the file at a path means. A script names an interpreter, which may be a script
again, up to a depth. -/
def FileStore.executable (store : FileStore) : Nat → String → Except Errno Executable
  | 0, path =>
    match store.status path with
    | .error errno => .error errno
    | .ok (.program _) | .ok (.file _ true) => .error .tooManyLinks
    | .ok _ => .error .permissionDenied
  | depth + 1, path =>
    match store.status path with
    | .error errno => .error errno
    | .ok (.program name) => .ok ⟨name, []⟩
    | .ok (.file content true) =>
      match interpreterLine? content with
      | none => .error .execFormat
      | some (interpreter, argument?) =>
        let name := ByteText.toText (ByteText.ofBytes interpreter)
        match store.executable depth name with
        | .ok found =>
          let before := if found.before.isEmpty then [interpreter] else found.before
          .ok { found with before := before ++ argument?.toList ++ [Utf8.encode path] }
        | .error errno => .error errno
    | .ok _ => .error .permissionDenied

/-- The image that a path becomes, called by a name with arguments. -/
def FileStore.image (store : FileStore) (path name : String) (arguments : List String)
    (environment : Environment) : Except Errno Image := do
  let found ← store.executable interpreterDepth path
  let before := if found.before.isEmpty then [name] else found.before.map ByteText.ofBytes
  return ⟨found.program, before ++ arguments, environment⟩

/-- Where programs are looked for when no variable tells. -/
def defaultSearchPath : String := "/bin:/usr/bin"

/-- The path of a name in a directory of the search path. -/
def inDirectory (directory name : String) : String :=
  if directory.isEmpty then name
  else if directory.toList.getLast? = some '/' then directory ++ name
  else directory ++ "/" ++ name

/-- The paths at which a program may be. A name with a slash is a path. -/
def searchPaths (environment : Environment) (name : String) : List String :=
  if name.toList.contains '/' then [name]
  else
    let directories := (environment.get? "PATH").getD defaultSearchPath
    (Path.splitOn ':' directories.toList).map fun directory =>
      inDirectory (String.ofList directory) name

/-- The error that is reported for several paths: the first one that is more than a missing entry,
or else the last one. -/
def reportedErrno (errnos : List Errno) : Errno :=
  (errnos.find? fun errno => errno ≠ .noEntry ∧ errno ≠ .notDirectory).getD
    (errnos.getLast?.getD .noEntry)

/-- The image at the first of some paths at which there is something to execute. -/
def FileStore.firstImage (store : FileStore) (paths : List String) (name : String)
    (arguments : List String) (environment : Environment) : Except Errno Image :=
  let results := paths.map fun path => store.image path name arguments environment
  match results.findSome? Except.toOption with
  | some image => .ok image
  | none =>
    .error (reportedErrno (results.filterMap fun
      | .error errno => some errno
      | .ok _ => none))

/-- The image of an invocation. -/
def Invocation.image (invocation : Invocation) (store : FileStore) : Except Errno Image :=
  store.firstImage (searchPaths invocation.environment invocation.program)
    (ByteText.ofText invocation.program) (invocation.arguments.map ByteText.ofText)
    (invocation.environment.map fun (name, value) => (ByteText.ofText name, ByteText.ofText value))

/-- The most bytes of an argument or of a variable, with the byte that ends it. -/
def argumentLimit : Nat := 131072

/-- The most bytes of all arguments and variables. -/
def argumentsLimit : Nat := 2097152

/-- Whether the system takes arguments and variables of some sizes. -/
def sizesFit (sizes : List Nat) : Bool :=
  sizes.all (· ≤ argumentLimit) &&
    sizes.foldl (fun total size => total + size + 8) 0 ≤ argumentsLimit

/-- Whether the system takes the arguments and variables of an invocation. -/
def Invocation.fits (invocation : Invocation) : Bool :=
  sizesFit ((invocation.program :: invocation.arguments).map (·.utf8ByteSize + 1) ++
    invocation.environment.map fun entry => entry.1.utf8ByteSize + entry.2.utf8ByteSize + 2)

/-- Whether the system takes the words and variables of an image. -/
def Image.fits (image : Image) : Bool :=
  sizesFit (image.words.map (·.length + 1) ++
    image.environment.map fun entry => entry.1.length + entry.2.length + 2)

end EventHooks
