import EventHooks.Text.CharClass
import EventHooks.Text.Layout
import EventHooks.Utility.Call

/-!
# Utilities that wait and that run programs

Some let time pass; others become a program or start one, with another environment or for a limited
time.
-/
namespace EventHooks.Utility

/-! ## Programs -/

/-- The image of a program that is looked for on the search path of an environment. A file without
an interpreter is a script of the shell. -/
def findImage (name : String) (arguments : List String) (search environment : Environment) :
    Program (Except Errno Image) := do
  let files ← Program.seenFiles
  let paths := searchPaths ((search.get? "PATH").elim [] fun path =>
    [("PATH", ByteText.toText path)]) (ByteText.toText name)
  let result := match files.firstImage paths name arguments environment with
    | .error .execFormat =>
      let found := paths.find? fun path => (files.status path).toOption.isSome
      files.image "/bin/sh" "/bin/sh" (ByteText.ofText (found.getD "") :: arguments) environment
    | result => result
  return match result with
    | .ok image => if image.fits then .ok image else .error .argumentsTooLong
    | .error errno => .error errno

/-- How many microseconds pass until a program runs. -/
def startTime : Nat := 500

/-- Becomes a program. -/
def becomeImage {α : Type} (call : Call) (image : Image) : Program α := do
  Program.change fun process world => world.modifyRecord process fun record =>
    { record with saved := [], caught := [] }
  Program.sleep startTime
  fun _ => call.exec image .done

/-- The status of a program that could not be run. -/
def unrunStatus (errno : Errno) : Nat :=
  if errno = .noEntry then 127 else 126

/-- Becomes a program that is named with its arguments. -/
def become (call : Call) (failure : String → String) (name : String) (arguments : List String)
    (environment : Environment) : Program Nat := do
  match ← findImage name arguments environment environment with
  | .ok image => becomeImage call image
  | .error errno =>
    call.complain s!"{failure (quoted name)}: {errno.words}"
    return unrunStatus errno

/-! ## Environments -/

/-- Sets a variable as an argument says. -/
def setFrom (environment : Environment) (text : String) : Environment :=
  let name := text.toList.takeWhile (· != '=')
  environment.set (String.ofList name) (String.ofList (text.toList.drop (name.length + 1)))

/-- An environment, a variable on each line. -/
def environmentText (environment : Environment) (ending : String) : String :=
  String.join (environment.map fun (name, value) => s!"{name}={value}{ending}")

/-- The words of a text that stands for several arguments. -/
def splitArgument (environment : Environment) :
    Nat → Char → List Char → Option (List Char) → List String
  | 0, _, _, _ => []
  | _, _, [], word? => (word?.map fun word => String.ofList word.reverse).toList
  | fuel + 1, quote, c :: rest, word? =>
    let word := word?.getD []
    let add (chars : List Char) (rest : List Char) : List String :=
      splitArgument environment fuel quote rest (some (chars.reverse ++ word))
    if c == '\'' || c == '"' then
      if quote == ' ' then splitArgument environment fuel c rest (some word)
      else if quote == c then splitArgument environment fuel ' ' rest (some word)
      else add [c] rest
    else if quote == ' ' && CharClass.isSpace c then
      (word?.map fun word => String.ofList word.reverse).toList ++
        splitArgument environment fuel quote rest none
    else if c == '\\' && quote != '\'' then
      match rest with
      | '_' :: rest =>
        if quote == ' ' then
          (word?.map fun word => String.ofList word.reverse).toList ++
            splitArgument environment fuel quote rest none
        else add [' '] rest
      | 't' :: rest => add ['\t'] rest
      | 'n' :: rest => add ['\n'] rest
      | d :: rest => add [d] rest
      | [] => add [c] []
    else if c == '$' && quote != '\'' && rest.head? == some '\x7b' then
      let name := (rest.drop 1).takeWhile (· != '\x7d')
      add ((environment.get? (String.ofList name)).getD "").toList (rest.drop (name.length + 2))
    else add [c] rest

/-- The arguments with a first one that stands for several in their place. -/
def withSplit (call : Call) : List String :=
  let split (text : String) (rest : List String) : List String :=
    splitArgument call.environment (text.length + 1) ' ' text.toList none ++ rest
  match call.arguments with
  | [] => []
  | "-S" :: text :: rest | "--split-string" :: text :: rest => split text rest
  | word :: rest =>
    if word.startsWith "-S" && word != "-S" then split (word.drop 2).toString rest
    else if word.startsWith "--split-string=" then split (word.drop 15).toString rest
    else word :: rest

/-- Runs a program with another environment, or writes that. -/
def env : Tool := fun call => do
  let call := { call.failingWith 125 with arguments := withSplit call }
  let known : Known :=
    { letters := "iu:0C:S:v", stops := true, failure := 125
      long := [("ignore-environment", 'i'), ("unset", 'u'), ("null", '0'), ("chdir", 'C')] }
  let (options, rest) ← call.parse known
  let isEmpty := given options 'i' || rest.head? == some "-"
  let rest := if rest.head? == some "-" then rest.drop 1 else rest
  let start := if isEmpty then [] else call.environment
  let start := options.foldl (fun (environment : Environment) option =>
    if option.1 == 'u' then environment.erase option.2 else environment) start
  let settings := rest.takeWhile (·.toList.contains '=')
  let environment := settings.foldl setFrom start
  match rest.drop settings.length with
  | [] =>
    call.print (environmentText environment (if given options '0' then "\x00" else "\n"))
    return 0
  | name :: arguments =>
    match valueOf? options 'C' with
    | none => become call id name arguments environment
    | some path =>
      let files ← Program.seenFiles
      match files.follow (ByteText.toText path) with
      | .ok (.present location .directory) =>
        Program.change fun process world => world.modifyRecord process fun record =>
          { record with directory := location }
        become call id name arguments environment
      | found =>
        let errno := match found with
          | .error errno => errno
          | .ok (.vacant _) => Errno.noEntry
          | .ok _ => .notDirectory
        call.complain s!"cannot change directory to {quoted path}: {errno.words}"
        return 125

/-- Writes variables. -/
def printenv : Tool := fun call => do
  let call := call.failingWith 2
  let known : Known := { letters := "0", long := [("null", '0')], stops := true, failure := 2 }
  let (options, names) ← call.parse known
  let ending := if given options '0' then "\x00" else "\n"
  if names.isEmpty then
    call.print (environmentText call.environment ending)
    return 0
  else
    let values := names.map call.environment.get?
    call.print (String.join ((values.filterMap id).map (· ++ ending)))
    return if values.all (·.isSome) then 0 else 1

/-- Becomes a program that does not notice a hang-up. -/
def nohup : Tool := fun call => do
  match call.arguments with
  | [] => call.misuse "missing operand" 125
  | name :: arguments =>
    Program.change fun process world => world.modifyRecord process fun record =>
      { record with ignored := record.ignored ++ [1] }
    become call (fun name => s!"failed to run command {name}") name arguments call.environment

/-- The arguments with each dash with a number before the command as the option that takes it. -/
def adjustmentOptions : List String → List String
  | "-n" :: value :: rest => "-n" :: value :: adjustmentOptions rest
  | word :: rest =>
    match word.toList with
    | '-' :: chars =>
      let digits := match chars with
        | '-' :: digits | '+' :: digits => digits
        | digits => digits
      let isNumber := !digits.isEmpty && digits.all (·.isDigit)
      (if isNumber then "-n" ++ String.ofList chars else word) :: adjustmentOptions rest
    | _ => word :: rest
  | [] => []

/-- Becomes a program with other manners. -/
def nice : Tool := fun call => do
  let known : Known := { letters := "n:", long := [("adjustment", 'n')], stops := true,
                         failure := 125 }
  let (options, words) ← { call with
    arguments := adjustmentOptions call.arguments }.parse known
  match valueOf? options 'n' with
  | some value =>
    let chars := value.toList
    let digits := if chars.head? == some '-' || chars.head? == some '+' then chars.drop 1 else chars
    if digits.isEmpty || !digits.all (·.isDigit) then
      call.complain s!"invalid adjustment {quoted value}"
      call.quit 125
    if words.isEmpty then call.misuse "a command must be given with an adjustment" 125
  | none => pure ()
  match words with
  | [] =>
    call.print "0\n"
    return 0
  | name :: arguments => become call id name arguments call.environment

/-- Becomes a program whose output is gathered in another way. -/
def stdbuf : Tool := fun call => do
  let known : Known :=
    { letters := "i:o:e:", long := [("input", 'i'), ("output", 'o'), ("error", 'e')], stops := true
      failure := 125 }
  let (options, words) ← call.parse known
  match words with
  | [] => call.misuse "missing operand" 125
  | name :: arguments =>
    if options.isEmpty then call.misuse "you must specify a buffering mode option" 125
    become call (fun name => s!"failed to run command {name}") name arguments call.environment

/-- Becomes a program in a group of its own. -/
def setsid : Tool := fun call => do
  let known : Known := { letters := "cfw", stops := true }
  let (_, words) ← call.parse known
  match words with
  | [] => call.misuse "no command specified"
  | name :: arguments =>
    become call (fun _ => s!"failed to execute {name}") name arguments call.environment

/-! ## Time -/

/-- The seconds that a letter stands for. -/
def secondsOf? : List Char → Option Nat
  | [] | ['s'] => some 1
  | ['m'] => some 60
  | ['h'] => some 3600
  | ['d'] => some 86400
  | _ => none

/-- The microseconds that a text gives in seconds or in the unit of its last letter. A time without
an end is longer than anything. -/
def duration? (text : String) : Option Nat := do
  let reading ← FloatText.read? text.toList
  let seconds ← secondsOf? reading.rest
  match reading.value with
  | .finite negative significand exponent =>
    if negative && significand != 0 then none
    else
      let num := significand * Nat.pow 2 exponent.toNat * seconds * 1000000
      let den := Nat.pow 2 (-exponent).toNat
      return (num + den - 1) / den
  | .infinite false => return Program.patience * Program.patience
  | _ => none

/-- Lets time pass. -/
def sleep : Tool := fun call => do
  let known : Known := { letters := "" }
  let (_, words) ← call.parse known
  if call.arguments.isEmpty then call.misuse "missing operand"
  for word in words do
    if (duration? word).isNone then
      call.complain s!"invalid time interval {quoted word}"
  if words.any fun word => (duration? word).isNone then
    let _ ← Program.write 2 (ByteText.toBytes
      s!"Try '{call.name} --help' for more information.\n")
    return 1
  Program.sleep ((words.filterMap duration?).foldl (· + ·) 0)
  return 0

/-- The processes that a process has started, and those that these have started. -/
def descendants (world : World) : Nat → List ProcessId → List ProcessId
  | 0, _ => []
  | fuel + 1, processes =>
    let children := (world.processes.filter fun record =>
      record.parent.any processes.contains).map (·.number)
    if children.isEmpty then [] else children ++ descendants world fuel children

/-- Sends a signal to a process and to those that it has started. -/
def signalGroup (child signal : Nat) : Program Unit :=
  Program.change fun _ world =>
    (child :: descendants world world.processes.length [child]).foldl
      (fun world process => world.signal process signal) world

/-- The signal that a text names. -/
def signalOf? (text : String) : Option Nat :=
  let upper := text.map Char.toUpper
  let name := if ['S', 'I', 'G'].isPrefixOf upper.toList then String.ofList (upper.toList.drop 3)
    else upper
  match (Signal.named.find? (·.1 == name)) with
  | some (_, number) => some number
  | none =>
    if !text.isEmpty && text.toList.all (·.isDigit) then
      some (FloatText.digitsValue 10 text.toList)
    else none

/-- Waits for a process until a time. -/
def awaitUntil (child : ProcessId) (limit? : Option Nat) : Program Bool := do
  let now ← Program.observe fun _ world => world.now
  Program.waitUntil (limit?.map (now + ·)) fun _ world => !world.isAlive child
  Program.observe fun _ world => !world.isAlive child

/-- What a process that ran for a limited time is to be sent: the signal at the end of the time, and
how long after it the one that cannot be handled follows. -/
structure Deadline where
  signal : Nat
  killTime? : Option Nat
  isVerbose : Bool
  isAlone : Bool

/-- Sends the signals of a deadline that has passed to a process. The one that cannot be handled
ends the sender too, unless it stands alone. -/
def Deadline.enforce (deadline : Deadline) (call : Call) (name : String) (child : ProcessId) :
    Program Unit := do
  let send (signal : Nat) : Program Unit := do
    if deadline.isVerbose then
      call.complain s!"sending signal {Signal.name signal} to command {quoted name}"
    signalGroup child signal
    if signal = Signal.kill && !deadline.isAlone then Program.exit (.killed Signal.kill)
  send deadline.signal
  signalGroup child 18
  match deadline.killTime? with
  | some time => if !(← awaitUntil child (some time)) then send Signal.kill
  | none => pure ()

/-- Runs a program for a limited time. -/
def timeout : Tool := fun call => do
  let known : Known :=
    { letters := "s:k:fpv", stops := true, failure := 125
      long := [("signal", 's'), ("kill-after", 'k'), ("preserve-status", 'p'), ("foreground", 'f'),
        ("verbose", 'v')] }
  let (options, words) ← call.parse known
  let timeOf (text : String) : Program Nat := do
    match duration? text with
    | some time => return time
    | none => call.misuse s!"invalid time interval {quoted text}" 125
  let signal ← match valueOf? options 's' with
    | none => pure Signal.terminate
    | some text =>
      match (signalOf? text).filter (· < Signal.count) with
      | some signal => pure signal
      | none => call.misuse s!"{quoted text}: invalid signal" 125
  let killTime? ← (valueOf? options 'k').mapM timeOf
  match words with
  | [] | [_] =>
    let _ ← Program.write 2 (ByteText.toBytes
      s!"Try '{call.name} --help' for more information.\n")
    return 125
  | time :: name :: arguments =>
    let time ← timeOf time
    match ← findImage name arguments call.environment call.environment with
    | .error errno =>
      call.complain s!"failed to run command {quoted name}: {errno.words}"
      return unrunStatus errno
    | .ok image =>
      let deadline : Deadline := ⟨signal, killTime?, given options 'v', given options 'f'⟩
      let child ← Program.fork (becomeImage call image)
      let isInTime ← awaitUntil child (if time = 0 then none else some time)
      if !isInTime then deadline.enforce call name child
      let keeps := isInTime || given options 'p'
      match ← Program.awaitEnd child with
      | .exited status => return if keeps then status else 124
      | .killed number =>
        if isInTime then Program.exit (.killed number)
        else return if keeps || number = Signal.kill then 128 + number else 124

end EventHooks.Utility
