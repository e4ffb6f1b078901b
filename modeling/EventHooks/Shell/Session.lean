import EventHooks.Environment
import EventHooks.Shell.Syntax
import EventHooks.System.Launch
import EventHooks.System.Process
import EventHooks.Text.ByteText

/-!
# Shell sessions

A session is what belongs to one shell process besides what the system knows of it: variables,
arguments, functions, aliases, options, traps and jobs. Commands run in a session and act on the
world, and stop early for one of a few reasons.
-/
namespace EventHooks.Shell

/-! ## What a session holds -/

/-- A variable. One without a value is only marked. -/
structure ShellVariable where
  name : String
  value? : Option String
  exported : Bool := false
  fixed : Bool := false

/-- Commands in the background: their processes, the last one of which counts, and how those that
have ended did so. -/
structure Job where
  number : Nat
  processes : List ProcessId
  ends : List (ProcessId × ProcessEnd) := []
  isWaited : Bool := false

/-- The end of a job, once all of its processes have ended. -/
def Job.end? (job : Job) : Option ProcessEnd :=
  if job.ends.length < job.processes.length then none
  else
    match job.processes.getLast? with
    | some process => ((job.ends.find? (·.1 == process)).map (·.2))
    | none => none

/-- The dialect of a shell. -/
inductive Dialect
  | plain
  | extended
  deriving DecidableEq, Repr

/-- The options that are switched on, by their letters. -/
abbrev Flags := List Char

/-- A program that was found on the search path. `isStale` tells that the working directory has
changed since then. -/
structure Remembered where
  name : String
  path : String
  isStale : Bool := false

/-- A shell process. `root` is the number of the process that the shell started as, `command` is
what complaints begin with, `hidden` are the variables behind those of the present function, `depth`
counts the functions that commands are in and `loops` the loops, `directoryRoot` is what the path
of the working directory starts with, `optionOffset` tells how much of an argument was taken as
option letters, and `outerStatus` is the status from before a trap runs. -/
structure Session where
  name : String
  root : ProcessId
  parent : ProcessId
  dialect : Dialect := .plain
  command : Option String := none
  arguments : List String := []
  bindings : List ShellVariable := []
  functions : List (String × Command) := []
  aliases : List (String × String) := []
  remembered : List Remembered := []
  hidden : List (String × Option ShellVariable) := []
  hiddenFlags : Option Flags := none
  traps : List (Nat × String) := []
  unchangeable : List Nat := []
  jobs : List Job := []
  lastJob : Option ProcessId := none
  flags : Flags := []
  depth : Nat := 0
  loops : Nat := 0
  directoryRoot : String := "/"
  optionOffset : Nat := 0
  status : Nat := 0
  outerStatus : Option Nat := none
  substitutionStatus : Nat := 0
  line : Nat := 1

/-- Why commands stop early: the shell exits, an error ends it, loops or the present one are left or
go on, or a function or a file is left. -/
inductive Stop
  | exit (status : Nat)
  | failure (status : Nat)
  | leave (levels : Nat)
  | next (levels : Nat)
  | returned (status : Nat)

/-- What commands do. -/
abbrev Run := ExceptT Stop (StateT Session Program)

/-! ## The session and the world -/

/-- Runs a program as a part of commands. -/
def perform {α : Type} (program : Program α) : Run α :=
  ExceptT.mk fun session next => program fun result => next (.ok result, session)

/-- Looks at the world. -/
def look {α : Type} (view : ProcessId → World → α) : Run α :=
  perform (Program.observe view)

/-- Changes the world. -/
def alter (change : ProcessId → World → World) : Run Unit :=
  perform (Program.change change)

/-- The files as the session sees them. -/
def seenFiles : Run FileStore :=
  look fun process world => world.filesOf process

/-- Sets the status of the last command. -/
def setStatus (status : Nat) : Run Unit :=
  modify fun session => { session with status := status }

/-- Writes a text to a descriptor, and tells whether it found room. -/
def say (descriptor : Nat) (text : String) : Run Bool := do
  if text.isEmpty then return true
  match ← perform (Program.write descriptor (ByteText.toBytes text)) with
  | .ok () => return true
  | .error _ => return false

/-- The place of the present command, as complaints begin with it. -/
def Session.place (session : Session) : String :=
  let command := (session.command.map (· ++ ": ")).getD ""
  match session.dialect with
  | .plain => s!"{session.name}: {session.line}: {command}"
  | .extended => s!"{session.name}: line {session.line}: {command}"

/-- Writes a message with the place of the command. -/
def complain (message : String) : Run Unit := do
  let session ← get
  let _ ← say 2 s!"{session.place}{message}\n"

/-- Complains, and gives up what is being done. -/
def abort {α : Type} (message : String) (status : Nat := 2) : Run α := do
  complain message
  throw (.failure status)

/-! ## Variables -/

/-- A variable of the session. -/
def Session.lookup? (session : Session) (name : String) : Option ShellVariable :=
  session.bindings.find? (·.name == name)

/-- The value of a variable. -/
def Session.value? (session : Session) (name : String) : Option String :=
  (session.lookup? name).bind (·.value?)

/-- Whether an option is switched on. -/
def Session.has (session : Session) (flag : Char) : Bool :=
  session.flags.contains flag

/-- Puts a variable in its place. -/
def Session.putVariable (session : Session) (item : ShellVariable) : Session :=
  if session.bindings.any (·.name == item.name) then
    { session with
      bindings := session.bindings.map fun old => if old.name == item.name then item else old }
  else { session with bindings := session.bindings ++ [item] }

/-- The session after variables have changed: programs have to be looked for again if the search
path is among them. -/
def Session.noteChanges (session : Session) (names : List String) : Session :=
  if names.contains "PATH" then { session with remembered := [] } else session

/-- Removes a variable. -/
def Session.dropVariable (session : Session) (name : String) : Session :=
  { session with bindings := session.bindings.filter (·.name != name) }.noteChanges [name]

/-- Sets a variable. -/
def Session.assign (session : Session) (name value : String) : Session :=
  let exported := session.has 'a'
  let item := match session.lookup? name with
    | some item => { item with value? := some value, exported := item.exported || exported }
    | none => { name := name, value? := some value, exported := exported }
  let session := session.putVariable item
  if name == "OPTIND" then { session with optionOffset := 0 } else session.noteChanges [name]

/-- Sets a variable. One that may not change is an error. -/
def assign (name value : String) : Run Unit := do
  let session ← get
  if (session.lookup? name).any (·.fixed) then abort s!"{name}: is read only"
  else set (session.assign name value)

/-- The session with variables as they were. -/
def Session.bringBack (session : Session) (kept : List (String × Option ShellVariable)) : Session :=
  (kept.foldl (fun session (name, old) =>
    match old with
    | some item => session.putVariable item
    | none => session.dropVariable name) session).noteChanges (kept.map (·.1))

/-- Brings back the variables that a function has hidden. -/
def Session.uncover (session : Session) : Session :=
  session.bringBack session.hidden

/-- Where a name stands in a list of variables or aliases: names with the same remainder stay in the
order in which they were set. -/
def bucket (name : String) : Nat :=
  let codes := name.toList.map Char.toNat
  (codes.foldl (· + ·) (16 * codes.headD 0)) % 39

/-- The environment of the programs that a session starts. -/
def Session.environment (session : Session) : Environment :=
  let passed := session.bindings.filterMap fun item =>
    if item.exported then item.value?.map (item.name, ·) else none
  passed.mergeSort fun first second => bucket first.1 ≤ bucket second.1

/-- The letters of the options in the order in which they are shown. -/
def flagOrder : List Char :=
  ['p', 'u', 'b', 'a', 'C', 'E', 'V', 'v', 'x', 's', 'n', 'm', 'i', 'I', 'f', 'e']

/-- The characters that separate fields. -/
def Session.separators (session : Session) : List Char :=
  match session.value? "IFS" with
  | some text => text.toList
  | none => [' ', '\t', '\n']

/-- What joins the arguments to one text. -/
def Session.joint (session : Session) : String :=
  match session.value? "IFS" with
  | some text => String.ofList (text.toList.take 1)
  | none => " "

/-- What stands between arguments that are taken together: a null, which no argument has, if each of
them may become a field. -/
def Session.separator (session : Session) (name : String) (isQuoted splits : Bool) : String :=
  let staysWhole := !splits || (isQuoted && name == "*")
  if staysWhole || (!isQuoted && (session.value? "IFS").isNone) then session.joint else "\x00"

/-- The number that a text writes in decimal digits, if it is nothing else. -/
def number? (text : String) : Option Nat :=
  if text.isEmpty || !text.toList.all Char.isDigit then none
  else some (text.toList.foldl (fun value c => value * 10 + (c.toNat - '0'.toNat)) 0)

/-- The value of a parameter. The arguments taken together always have one. -/
def Session.parameter? (session : Session) (name : String) : Option String :=
  match name with
  | "?" => some (toString session.status)
  | "#" => some (toString session.arguments.length)
  | "$" => some (toString session.root)
  | "0" => some session.name
  | "-" => some (String.ofList (flagOrder.filter session.has))
  | "!" => session.lastJob.map toString
  | "@" | "*" => some (session.joint.intercalate session.arguments)
  | name =>
    match number? name with
    | some 0 => some session.name
    | some position => session.arguments[position - 1]?
    | none => session.value? name

/-! ## Signals -/

/-- The signal that a text names. The end of the shell counts as one, number zero. -/
def signalNamed? (text : String) : Option Nat :=
  match number? text with
  | some number => if number < Signal.count then some number else none
  | none =>
    let name := text.map Char.toUpper
    if name == "EXIT" then some 0
    else
      ((List.range Signal.count).drop 1).find? fun number => Signal.name number == name

/-- The name of a signal or of the end of the shell. -/
def signalName (number : Nat) : String :=
  if number = 0 then "EXIT" else Signal.name number

/-- Lets the system know which signals a session handles. -/
def announceTraps : Run Unit := do
  let session ← get
  let handled := session.traps.filter fun trap =>
    trap.1 != 0 && !session.unchangeable.contains trap.1
  let caught := (handled.filter (!·.2.isEmpty)).map (·.1)
  let ignored := (handled.filter (·.2.isEmpty)).map (·.1) ++ session.unchangeable
  alter fun process world => world.modifyRecord process fun record =>
    { record with caught := caught, ignored := ignored }

end EventHooks.Shell
