import EventHooks.System.Launch
import EventHooks.System.Open

/-!
# Calls of utilities

A utility is called with its name, arguments and an environment. It reads and writes descriptors,
complains on the error output, and ends with a status. Options may stand anywhere among the
arguments, unless a utility says otherwise.
-/
namespace EventHooks.Utility

/-- What a utility says and the status with which it ends when its output finds no room. -/
structure NoRoom where
  words : Errno → String := fun errno => s!"write error: {errno.words}"
  status : Nat := 1

/-- The call of a utility, and what images do that it becomes or starts. -/
structure Call where
  name : String
  arguments : List String
  environment : Environment
  exec : Image → Program ProcessEnd
  noRoom : NoRoom := {}

/-- A utility. -/
abbrev Tool := Call → Program Nat

/-! ## Texts in messages -/

/-- Whether a character is written as it is. -/
def isShown (c : Char) : Bool :=
  32 ≤ c.toNat && c.toNat < 127

/-- Characters that are not written as they are, in octal digits. -/
def octalEscapes (chars : List Char) : List Char :=
  chars.flatMap fun c =>
    match c with
    | '\n' => ['\\', 'n']
    | '\t' => ['\\', 't']
    | '\r' => ['\\', 'r']
    | c =>
      let digits := Nat.toDigits 8 c.toNat
      '\\' :: (List.replicate (3 - digits.length) '0' ++ digits)

/-- The pieces of a text between quotes: those that are written as they are, and the others as
escapes. -/
def quotedRuns : Nat → Bool → List Char → List Char
  | 0, _, _ => []
  | _, _, [] => []
  | fuel + 1, isStart, chars =>
    let plain := chars.takeWhile isShown
    let rest := chars.drop plain.length
    let odd := rest.takeWhile (!isShown ·)
    let after := rest.drop odd.length
    let shown := plain.flatMap fun c => if c == '\'' then ['\'', '\\', '\'', '\''] else [c]
    (if plain.isEmpty && !isStart then [] else ['\''] ++ shown ++ ['\'']) ++
      (if odd.isEmpty then [] else ['$', '\''] ++ octalEscapes odd ++ ['\'']) ++
      quotedRuns fuel false after

/-- A text between quotes. -/
def quoted (text : String) : String :=
  let chars := text.toList
  if chars.isEmpty then "''"
  else if chars.all isShown && chars.contains '\'' &&
    !chars.any ['"', '$', '\\', '!', '\x60'].contains
  then s!"\"{text}\""
  else String.ofList (quotedRuns (chars.length + 1) true chars)

/-- A text, between quotes if it is empty or has characters that mean something to a shell. -/
def quotedIfNeeded (text : String) : String :=
  let isPlain (c : Char) : Bool := c.isAlphanum || "_./,:%+@-]\x7b\x7d".toList.contains c
  if text.toList.all isPlain && !text.isEmpty then text else quoted text

/-! ## Writing -/

namespace Call

/-- Writes a message to the error output. -/
def complain (call : Call) (message : String) : Program Unit := do
  let _ ← Program.write 2 (ByteText.toBytes s!"{call.name}: {message}\n")

/-- Ends the process with a status. -/
def quit {α : Type} (_ : Call) (status : Nat) : Program α :=
  Program.exit (.exited status)

/-- A call that ends with a status when its output finds no room. -/
def failingWith (call : Call) (status : Nat) : Call :=
  { call with noRoom := { call.noRoom with status := status } }

/-- A call that writes its output line by line, so that it no longer knows at its end what has gone
wrong with a device. -/
def byLines (call : Call) : Call :=
  { call with noRoom := { call.noRoom with words := fun errno =>
      if errno = .badDescriptor then s!"write error: {errno.words}" else "write error" } }

/-- Writes bytes to the standard output. If they find no room, the process ends. -/
def put (call : Call) (bytes : Bytes) : Program Unit := do
  if bytes.isEmpty then return ()
  match ← Program.write 1 bytes with
  | .ok () => return ()
  | .error errno =>
    call.complain (call.noRoom.words errno)
    call.quit call.noRoom.status

/-- Writes a text to the standard output. -/
def print (call : Call) (text : String) : Program Unit :=
  call.put (ByteText.toBytes text)

/-- Writes a message to the error output, with a hint at the help text, and ends the process. -/
def misuse {α : Type} (call : Call) (message : String) (status : Nat := 1) : Program α := do
  call.complain s!"{message}\nTry '{call.name} --help' for more information."
  call.quit status

/-! ## Reading -/

/-- Opens a file to read it. A dash is the standard input. -/
def openInput (_ : Call) (path : String) : Program (Except Errno Nat) := do
  if path == "-" then
    match ← Program.handle? 0 with
    | some handle => return .ok handle
    | none => return .error .badDescriptor
  else Program.openPath path Opening.input

/-- How many bytes are still to be read from a handle, if the standard output goes to the same
file. -/
def fedBack? (_ : Call) (handle : Nat) : Program (Option Nat) :=
  Program.observe fun process world =>
    let output? := (world.handleOf process 1).bind (world.handles[·]?)
    match world.handles[handle]?, output? with
    | some (.file location offset _), some (.file target ..) =>
      if location == target then some ((world.fileContent target).length - offset) else none
    | _, _ => none

/-- The bytes of the standard input up to the end of a line, the last one first. -/
def answer (call : Call) : Nat → Bytes → Program Bytes
  | 0, line => return line
  | fuel + 1, line => do
    match ← Program.readSome 0 1 with
    | .ok [byte] => if byte == 10 then return line else call.answer fuel (byte :: line)
    | _ => return line

/-- Asks a question, which is agreed to with a line that starts with the letter for it. -/
def asks (call : Call) (question : String) : Program Bool := do
  let _ ← Program.write 2 (ByteText.toBytes s!"{call.name}: {question}? ")
  let line ← call.answer Program.patience []
  return line.getLast? == some 121 || line.getLast? == some 89

end Call

/-! ## Gathered output -/

/-- A program whose output is gathered before it is written: the pieces, the last one first, and
their size. -/
abbrev Gathering := StateT (List Bytes × Nat) Program

namespace Call

/-- Writes what was gathered. -/
def flush (call : Call) : Gathering Unit := do
  let (pieces, _) ← get
  set (([] : List Bytes), 0)
  call.put pieces.reverse.flatten

/-- How many bytes are gathered before they are written. -/
def gatherLimit : Nat := 4096

/-- Gathers bytes. -/
def emit (call : Call) (bytes : Bytes) : Gathering Unit := do
  let (pieces, size) ← get
  set (bytes :: pieces, size + bytes.length)
  if gatherLimit ≤ size + bytes.length then call.flush

/-- Gathers a text. -/
def emitText (call : Call) (text : String) : Gathering Unit :=
  call.emit (ByteText.toBytes text)

/-- Runs a program, and writes what is left of its output at the end. -/
def gathering (call : Call) (body : Gathering Nat) : Program Nat := do
  let work : Gathering Nat := do
    let status ← body
    call.flush
    return status
  return (← work.run ([], 0)).1

end Call

section Inputs

variable {m : Type → Type} [Monad m] [MonadLiftT Program m]

/-- Passes the pieces of a handle to a step until they end or the step has enough. -/
def foldPieces {α : Type} (handle : Nat) (step : α → Bytes → m (α × Bool)) :
    Nat → α → m (α × Option Errno)
  | 0, state => return (state, none)
  | fuel + 1, state => do
    match ← (Program.readFrom handle 65536 Program.patience : Program _) with
    | .error errno => return (state, some errno)
    | .ok [] => return (state, none)
    | .ok bytes =>
      let (state, goesOn) ← step state bytes
      if goesOn then foldPieces handle step fuel state else return (state, none)

/-- The whole lines of bytes, without the ends, and what is left behind the last one. -/
def wholeLines (bytes : Bytes) (ending : UInt8 := 10) : List Bytes × Bytes :=
  let (lines, line) := bytes.foldl (fun (lines, line) byte =>
    if byte == ending then (line.reverse :: lines, []) else (lines, byte :: line))
    (([] : List Bytes), ([] : Bytes))
  (lines.reverse, line.reverse)

/-- The lines of bytes without their ends. -/
def linesOf (bytes : Bytes) (ending : UInt8 := 10) : List Bytes :=
  let (lines, rest) := wholeLines bytes ending
  if rest.isEmpty then lines else lines ++ [rest]

/-- Passes lines to a step until it has enough. The result tells whether it goes on, and how many
lines there were before it stopped. -/
def stepLines {α : Type} (step : α → Bytes → Bool → m (α × Bool)) :
    List Bytes → α → m (α × Bool)
  | [], state => return (state, true)
  | line :: lines, state => do
    let (state, goesOn) ← step state line true
    if goesOn then stepLines step lines state else return (state, false)

/-- Passes the lines of a handle to a step until they end or the step has enough. The step also
learns whether the line has an end. -/
def foldLines {α : Type} (handle : Nat) (step : α → Bytes → Bool → m (α × Bool))
    (start : α) : m (α × Option Errno) := do
  let ((state, rest, goesOn), errno?) ← foldPieces handle
    (fun (state, rest, _) bytes => do
      let (lines, rest) := wholeLines (rest ++ bytes)
      let (state, goesOn) ← stepLines step lines state
      return ((state, rest, goesOn), goesOn))
    Program.patience (start, ([] : Bytes), true)
  if goesOn && !rest.isEmpty then
    let (state, _) ← step state rest false
    return (state, errno?)
  else return (state, errno?)

/-- Does something for each of some items. The status is the greatest one. -/
def forEach (use : String → m Nat) : List String → Nat → m Nat
  | [], status => return status
  | item :: rest, status => do
    let next ← use item
    forEach use rest (max status next)

namespace Call

/-- The contents of a file, or of the standard input for a dash. -/
def contents (call : Call) (path : String) : Program (Except Errno Bytes) := do
  match ← call.openInput path with
  | .error errno => return .error errno
  | .ok handle =>
    let (pieces, errno?) ← foldPieces handle
      (fun (pieces : List Bytes) bytes => (return (bytes :: pieces, true) : Program _))
      Program.patience []
    match errno? with
    | some errno => return .error errno
    | none => return .ok pieces.reverse.flatten

/-- Does something with each input, or with the standard input if none is named. A file that cannot
be opened is complained of. -/
def overInputs (call : Call) (paths : List String) (use : String → Nat → m Nat)
    (failure : String → String := quotedIfNeeded) (status : Nat := 1) : m Nat :=
  forEach (fun path => do
    match ← (call.openInput path : Program _) with
    | .ok handle => use path handle
    | .error errno =>
      call.complain s!"{failure path}: {errno.words}"
      return status) (if paths.isEmpty then ["-"] else paths) 0

/-- Does something with the contents of each input. -/
def overContents (call : Call) (paths : List String) (use : String → Bytes → m Nat)
    (failure : String → String := quotedIfNeeded) (status : Nat := 1) : m Nat :=
  forEach (fun path => do
    match ← (call.contents path : Program _) with
    | .ok content => use path content
    | .error errno =>
      call.complain s!"{failure path}: {errno.words}"
      return status) (if paths.isEmpty then ["-"] else paths) 0

/-- The contents of all inputs, one after the other, and the status that those leave behind which
cannot be read. -/
def allContents (call : Call) (paths : List String)
    (failure : String → String := quotedIfNeeded) (status : Nat := 1) : Program (Bytes × Nat) := do
  let gather : StateT (List Bytes) Program Nat := call.overContents paths (fun _ content => do
    modify (content :: ·)
    return 0) failure status
  let (status, pieces) ← gather.run []
  return (pieces.reverse.flatten, status)

end Call

end Inputs

/-! ## Options -/

/-- The options that a utility knows: letters, of which those before a colon take a value, and long
names with their letters. `stops` tells that options end at the first other argument, and
`namesHint` that the hint at the help text is a message of its own. -/
structure Known where
  letters : String
  long : List (String × Char) := []
  stops : Bool := false
  failure : Nat := 1
  namesHint : Bool := false

/-- Refuses arguments with a message and a hint at the help text. -/
def Known.refuse {α : Type} (known : Known) (call : Call) (message : String) : Program α := do
  if known.namesHint then
    call.complain message
    call.complain s!"Try '{call.name} --help' for more information."
    call.quit known.failure
  else call.misuse message known.failure

/-- Whether an option letter takes a value. -/
def Known.takesValue (known : Known) (letter : Char) : Bool :=
  match known.letters.toList.dropWhile (· != letter) with
  | _ :: ':' :: _ => true
  | _ => false

/-- Whether an option letter is known. -/
def Known.has (known : Known) (letter : Char) : Bool :=
  letter != ':' && known.letters.toList.contains letter

/-- Takes in the option letters of a word. -/
def takeLetters (call : Call) (known : Known) :
    List Char → List String → Program (List (Char × String) × List String)
  | [], rest => return ([], rest)
  | letter :: letters, rest => do
    if !known.has letter then known.refuse call s!"invalid option -- '{letter}'"
    else if known.takesValue letter then
      match letters, rest with
      | [], [] =>
        known.refuse call s!"option requires an argument -- '{letter}'"
      | [], value :: rest => return ([(letter, value)], rest)
      | letters, rest => return ([(letter, String.ofList letters)], rest)
    else
      let (more, rest) ← takeLetters call known letters rest
      return ((letter, "") :: more, rest)

/-- Takes in a long option, with its value after an equals sign or in the next argument. -/
def takeLong (call : Call) (known : Known) (word : String) (rest : List String) :
    Program ((Char × String) × List String) := do
  let body := word.toList.drop 2
  let name := body.takeWhile (· != '=')
  let value? := match body.drop name.length with
    | _ :: value => some (String.ofList value)
    | [] => none
  let exact := known.long.filter (·.1.toList == name)
  let found := if exact.isEmpty then
      known.long.filter fun option => name.isPrefixOf option.1.toList
    else exact
  match found with
  | [] => known.refuse call s!"unrecognized option '--{String.ofList name}'"
  | (full, letter) :: others =>
    if others.any (·.2 != letter) then
      let names := found.map fun option => s!" '--{option.1}'"
      known.refuse call s!"option '{word}' is ambiguous; possibilities:{String.join names}"
    else
      match known.takesValue letter, value?, rest with
      | true, some value, rest => return ((letter, value), rest)
      | true, none, value :: rest => return ((letter, value), rest)
      | true, none, [] => known.refuse call s!"option '--{full}' requires an argument"
      | false, some _, _ =>
        known.refuse call s!"option '--{full}' doesn't allow an argument"
      | false, none, rest => return ((letter, ""), rest)

/-- Takes in options and other arguments. -/
def takeArguments (call : Call) (known : Known) :
    Nat → List String → Program (List (Char × String) × List String)
  | 0, arguments => return ([], arguments)
  | _, [] => return ([], [])
  | fuel + 1, word :: rest => do
    match word.toList with
    | ['-', '-'] => return ([], rest)
    | '-' :: '-' :: _ =>
      let (option, rest) ← takeLong call known word rest
      let (options, operands) ← takeArguments call known fuel rest
      return (option :: options, operands)
    | '-' :: letter :: letters =>
      let (taken, rest) ← takeLetters call known (letter :: letters) rest
      let (options, operands) ← takeArguments call known fuel rest
      return (taken ++ options, operands)
    | _ =>
      if known.stops then return ([], word :: rest)
      else
        let (options, operands) ← takeArguments call known fuel rest
        return (options, word :: operands)

/-- The options of a call and its other arguments. -/
def Call.parse (call : Call) (known : Known) : Program (List (Char × String) × List String) :=
  takeArguments call known (call.arguments.length + 1) call.arguments

/-- Whether an option is given. -/
def given (options : List (Char × String)) (letter : Char) : Bool :=
  options.any (·.1 == letter)

/-- The value of an option that counts: the last one. -/
def valueOf? (options : List (Char × String)) (letter : Char) : Option String :=
  ((options.filter (·.1 == letter)).getLast?).map (·.2)

/-- The letter of some that is given last. -/
def lastOf? (options : List (Char × String)) (letters : List Char) : Option Char :=
  ((options.filter fun option => letters.contains option.1).getLast?).map (·.1)

end EventHooks.Utility
