import EventHooks.Shell.Interpreter

/-!
# Starting shells

A shell starts with the variables of its environment, takes its options, and runs commands from an
argument, from a script or from its standard input.
-/
namespace EventHooks.Shell

/-- The programs that are shells. -/
def shellNames : List String := ["sh", "dash", "bash"]

/-- Where programs are looked for if the environment does not tell. -/
def startPath : String := "/usr/local/sbin:/usr/local/bin:/usr/sbin:/usr/bin:/sbin:/bin"

/-- The variables that a shell has of its own. -/
def ownVariables : List ShellVariable :=
  [("IFS", " \t\n"), ("PATH", startPath), ("PS1", "# "), ("PS2", "> "), ("PS4", "+ "),
    ("OPTIND", "1")].map fun (name, value) => ⟨name, some value, false, false⟩

/-- The path of the working directory: the one that the environment tells, if it leads there. -/
def startDirectory (files : FileStore) (environment : Environment) : String :=
  let plain := "/" ++ ByteText.ofText ("/".intercalate files.workingDirectory)
  match environment.get? "PWD" with
  | some path =>
    match path.toList, files.follow (ByteText.toText path) with
    | '/' :: _, .ok (.present location .directory) =>
      if location == files.workingDirectory then path else plain
    | _, _ => plain
  | none => plain

/-- The variables at the start: those of the environment are passed on, but some have values that
the shell gives them. -/
def startVariables (files : FileStore) (parent : ProcessId) (environment : Environment) :
    List ShellVariable :=
  let put (session : Session) (name value : String) (exports : Bool) : Session :=
    let exported := exports || (session.lookup? name).any (·.exported)
    session.putVariable ⟨name, some value, exported, false⟩
  let own : Session := { name := "", root := 0, parent := parent, bindings := ownVariables }
  let named := environment.filter fun entry => isName entry.1.toList
  let session := named.foldl (fun session (name, value) => put session name value true) own
  let session := put session "IFS" " \t\n" false
  let session := put session "OPTIND" "1" false
  let session := put session "PPID" (toString parent) false
  (put session "PWD" (startDirectory files environment) true).bindings

/-- The session of a shell that starts. -/
def startSession (image : Image) (process : ProcessId) (world : World) : Session :=
  let parent := ((world.record? process).bind (·.parent)).getD World.launcherId
  { name := image.words.headD ""
    root := process
    parent := parent
    dialect := if image.program == "bash" then .extended else .plain
    bindings := startVariables (world.filesOf process) parent image.environment
    unchangeable := ((world.record? process).map (·.ignored)).getD []
    line := 0 }

/-- Switches the options in front of the arguments. The result tells whether the commands are an
argument. -/
def startOptions : Nat → Bool → List String → Run (Bool × List String)
  | 0, isText, arguments => return (isText, arguments)
  | _, isText, [] => return (isText, [])
  | fuel + 1, isText, argument :: rest => do
    let isOwn (c : Char) : Bool := c == 'c' || c == 'l'
    match argument.toList with
    | ['-'] | ['-', '-'] => return (isText, rest)
    | '-' :: letters =>
      let rest ← switchLetters true (letters.filter (!isOwn ·)) rest
      startOptions fuel (isText || letters.contains 'c') rest
    | '+' :: letters =>
      let rest ← switchLetters false (letters.filter (!isOwn ·)) rest
      startOptions fuel (isText || letters.contains 'c') rest
    | _ => return (isText, argument :: rest)

/-- Complains of the arguments of a shell, in the words of its dialect. -/
def refuseStart {α : Type} (plain extended : String) (status : Nat) : Run α := do
  let session ← get
  match session.dialect with
  | .plain => abort plain
  | .extended =>
    let _ ← say 2 s!"{session.name}: {extended}\n"
    throw (.exit status)

section

variable (exec : Image → Program ProcessEnd)

/-- Runs the commands that come on the standard input. -/
def runInput (status : Nat) : Run Nat := do
  match ← perform (Program.readAll 0) with
  | .ok content =>
    runLines exec Program.patience {} { rest := (ByteText.ofBytes content).toList } status
  | .error _ => return status

/-- Runs the commands in a file. -/
def runScript (path : String) (arguments : List String) : Run Nat := do
  match ← perform (Program.openPath path Opening.input) with
  | .error errno =>
    refuseStart (openingMessage path false errno) s!"{path}: {errno.words}" 127
  | .ok handle =>
    perform (Program.attach innerDescriptor handle)
    let content ← perform (Program.readAll innerDescriptor)
    perform (Program.detach innerDescriptor)
    modify fun session => { session with name := path, arguments := arguments, line := 1 }
    match content with
    | .ok content =>
      runLines exec Program.patience {} { rest := (ByteText.ofBytes content).toList } 0
    | .error _ => return 0

/-- Runs what the arguments of a shell ask for. -/
def runArguments (arguments : List String) : Run Nat := do
  let (isText, operands) ← startOptions (arguments.length + 1) false arguments
  modify fun session =>
    let session := if operands.isEmpty && !isText then session.switch true 's' else session
    { session with arguments := operands }
  if !(isText && operands.isEmpty) then leaveJobControl
  match isText, operands with
  | true, [] => refuseStart "-c requires an argument" "-c: option requires an argument" 2
  | true, text :: words =>
    modify fun session =>
      { session with
        name := words.headD session.name, arguments := words.drop 1, line := 1 }
    let status ← runLines exec Program.patience {} { rest := text.toList } 0
    if (← get).has 's' then runInput exec status else return status
  | false, operands =>
    if (← get).has 's' then
      modify fun session => { session with line := 1 }
      runInput exec 0
    else
      match operands with
      | path :: words =>
        runScript exec path words
      | [] => return 0

/-- A shell. -/
def start (image : Image) : Program ProcessEnd := do
  let session ← Program.observe (startSession image)
  processOf (ended exec Program.patience (runArguments exec (image.words.drop 1))) session

end

end EventHooks.Shell
