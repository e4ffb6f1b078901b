import EventHooks.Utility.Editor.Script
import EventHooks.Utility.FileTree
import EventHooks.Utility.LineSource

/-!
# The stream editor

A script is run for each line. The line is held in a space that the commands work on, and is written
at the end. A second space keeps what a command puts there.
-/
namespace EventHooks.Utility

namespace Editor

/-- What is written behind a line: a text, the content of a file, or the next line of one. -/
inductive Queued
  | text (text : String)
  | file (path : String)
  | line (path : String)

/-- Where a range of lines stands: not begun, begun with its last line if that is known, or over. -/
inductive RangeState
  | outside
  | inside (last? : Option Nat)
  | over

/-- How a script is run: its commands, whether lines are only written when a command says so, the
byte that ends lines, the width of listed lines, and whether each input stands for itself. -/
structure Plan where
  commands : Array Command
  isQuiet : Bool := false
  ending : UInt8 := 10
  width : Nat := 70
  isSeparate : Bool := false

/-- The state of the editor. `owing` names the outputs whose last line has no end yet, `edited?` is
the output that takes the place of an input, the last piece first, and the main output has no
name. -/
structure State where
  source : LineSource
  upcoming? : Option LineSource.Item := none
  number : Nat := 0
  path : String := "-"
  space : List Char := []
  isWhole : Bool := true
  kept : List Char := []
  isKeptWhole : Bool := true
  hasReplaced : Bool := false
  queue : List Queued := []
  ranges : Array RangeState := #[]
  owing : List String := []
  edited? : Option (List Bytes) := none
  outputs : List (String × Nat) := []
  sources : List (String × LineSource) := []
  lastPattern : Pattern := none

/-- Programs that edit. -/
abbrev Editing := StateT State Gathering

/-- How the commands for a line end: with the end of the script, with a line that is not written,
with another run on what is left, or with the end of all. -/
inductive Outcome
  | finished
  | dropped
  | again
  | quit (status : Nat)

/-- What comes after a command: the command at a place, or the end of the run. -/
inductive Step
  | goOn (place : Nat)
  | stop (outcome : Outcome)

/-! ## Output -/

/-- Sends bytes to an output. -/
def send (call : Call) (name : String) (bytes : Bytes) : Editing Unit := do
  let state ← get
  match name, state.edited? with
  | "", some pieces => set { state with edited? := some (bytes :: pieces) }
  | _, _ =>
    match state.outputs.find? (·.1 == name) with
    | some (_, handle) =>
      let _ ← (Program.writeTo handle Program.patience bytes : Program _)
    | none =>
      if name == "/dev/stderr" then
        let _ ← (Program.write 2 bytes : Program _)
      else call.emit bytes

/-- Writes to an output. The end that the last line there lacks comes first. -/
def put (plan : Plan) (call : Call) (name : String) (bytes : Bytes) : Editing Unit := do
  if (← get).owing.contains name then send call name [plan.ending]
  modify fun state => { state with owing := state.owing.filter (· != name) }
  send call name bytes

/-- Writes a line to an output. -/
def putLine (plan : Plan) (call : Call) (name : String) (chars : List Char) : Editing Unit := do
  let bytes := chars.map fun c => c.toNat.toUInt8
  if (← get).isWhole then put plan call name (bytes ++ [plan.ending])
  else
    put plan call name bytes
    modify fun state => { state with owing := name :: state.owing }

/-- Writes a text to the main output. -/
def putText (plan : Plan) (call : Call) (text : String) : Editing Unit :=
  put plan call "" (ByteText.toBytes text)

/-- Writes what waits to be written behind the line. -/
def putQueue (plan : Plan) (call : Call) : Editing Unit := do
  let queue := (← get).queue
  modify fun state => { state with queue := [] }
  for item in queue do
    match item with
    | .text text => putText plan call text
    | .file path =>
      match ← (call.contents (if path == "/dev/stdin" then "-" else path) : Program _) with
      | .ok bytes => if !bytes.isEmpty then put plan call "" bytes
      | .error _ => pure ()
    | .line path =>
      let sources := (← get).sources
      let source := ((sources.find? (·.1 == path)).map (·.2)).getD { paths := [path] }
      let (item?, source) ← LineSource.next? (fun _ _ => (pure () : Editing Unit))
        Program.patience source
      modify fun state => { state with
        sources := (path, source) :: state.sources.filter (·.1 != path) }
      match item? with
      | some item => put plan call "" (item.line ++ [plan.ending])
      | none => pure ()

/-! ## Input -/

/-- Complains of an input that cannot be read. One that is open must be readable. -/
def refuse (call : Call) (path : String) (errno : Errno) : Editing Unit := do
  if errno == .isDirectory then
    call.complain s!"read error on {path}: {errno.words}"
    call.flush
    call.quit 4
  else call.complain s!"can't read {path}: {errno.words}"

/-- The next line, which stays where it is. -/
def lookAhead (call : Call) : Editing (Option LineSource.Item) := do
  let state ← get
  match state.upcoming? with
  | some item => return some item
  | none =>
    let (item?, source) ← LineSource.next? (refuse call) Program.patience state.source
    modify fun state => { state with upcoming? := item?, source := source }
    return item?

/-- Takes the next line into the space, behind what is there if `appends` holds. -/
def takeLine (plan : Plan) (call : Call) (appends : Bool) : Editing Bool := do
  putQueue plan call
  modify fun state => { state with hasReplaced := false }
  match ← lookAhead call with
  | none => return false
  | some item =>
    let line := item.line.map fun byte => Char.ofNat byte.toNat
    modify fun state => { state with
      upcoming? := none
      number := state.number + 1
      path := item.path
      space := if appends then state.space ++ Char.ofNat plan.ending.toNat :: line else line
      isWhole := item.isWhole }
    return true

/-- Whether the line is the last one. -/
def isLast (call : Call) : Editing Bool :=
  return (← lookAhead call).isNone

/-! ## Lines -/

/-- The pattern that is meant: the last one that was used, if none is given. -/
def resolve (call : Call) (pattern : Pattern) : Editing (Regex × Bool) := do
  match pattern, (← get).lastPattern with
  | some found, _ =>
    modify fun state => { state with lastPattern := some found }
    return found
  | none, some found => return found
  | none, none =>
    call.complain "-e expression #1, char 0: no previous regular expression"
    call.flush
    call.quit 1

/-- Whether a test holds for the line. -/
def LineTest.holds (call : Call) : LineTest → Editing Bool
  | .number wanted => return (← get).number == wanted
  | .step first size => do
    let present := (← get).number
    return if size = 0 then present == first else first ≤ present && (present - first) % size = 0
  | .last => isLast call
  | .pattern wanted => do
    let (regex, ignoresCase) ← resolve call wanted
    let subject : Regex.Subject := ⟨(← get).space.toArray, ignoresCase⟩
    return (regex.search? subject).isSome

/-- Changes where the range of a command stands. -/
def setRange (place : Nat) (range : RangeState) : Editing Unit :=
  modify fun state => { state with ranges := state.ranges.set! place range }

/-- Whether the line is in the range of a command. A range has at least one line; one that ends with
a number ends at once if it begins behind that. -/
def isInRange (call : Call) (place : Nat) (first : LineTest) (last : RangeEnd) : Editing Bool := do
  let state ← get
  let number := state.number
  match state.ranges.getD place .outside with
  | .inside (some stop) =>
    if stop ≤ number then setRange place .over
    return number ≤ stop
  | .inside none =>
    match last with
    | .test test => if ← test.holds call then setRange place .over
    | _ => setRange place .over
    return true
  | _ =>
    if !(← first.holds call) then return false
    let until? : Option Nat := match last with
      | .test (.number stop) => some stop
      | .test _ => none
      | .count count => some (number + count)
      | .multiple step => some (if step = 0 then number else (number + step - 1) / step * step)
    if until?.all (number < ·) then setRange place (.inside until?)
    return true

/-- Whether a command is for the line. -/
def isSelected (call : Call) (place : Nat) (selector : Selector) : Editing Bool := do
  let found ← match selector.first?, selector.last? with
    | none, _ => pure true
    | some first, none => first.holds call
    | some first, some last => isInRange call place first last
  return found != selector.isNegated

/-! ## Substitutions -/

/-- The case that a replacement is written in: of all characters, and of the next one. -/
structure Casing where
  all? : Option CaseChange := none
  next? : Option CaseChange := none

/-- A character in a case. -/
def changed (change? : Option CaseChange) (c : Char) : Char :=
  match change? with
  | some .upper | some .nextUpper => c.toUpper
  | some .lower | some .nextLower => c.toLower
  | _ => c

/-- Characters in a case, and the case that stays. -/
def Casing.apply (casing : Casing) : List Char → List Char × Casing
  | [] => ([], casing)
  | c :: rest =>
    (changed (casing.next?.or casing.all?) c :: rest.map (changed casing.all?),
      { casing with next? := none })

/-- The characters that take the place of a match. -/
def replacementChars (chars : Array Char) (found : Regex.Match) :
    List Replacement → Casing → List Char
  | [], _ => []
  | .change change :: parts, casing =>
    match change with
    | .upper | .lower =>
      replacementChars chars found parts { casing with all? := some change }
    | .ending => replacementChars chars found parts {}
    | .nextUpper | .nextLower =>
      replacementChars chars found parts { casing with next? := some change }
  | .char c :: parts, casing =>
    let (written, casing) := casing.apply [c]
    written ++ replacementChars chars found parts casing
  | .group number :: parts, casing =>
    let meant := match found.group? number with
      | some (start, stop) => (chars.extract start stop).toList
      | none => []
    let (written, casing) := casing.apply meant
    written ++ replacementChars chars found parts casing

/-- Replaces matches from a place on. `count` is how many there were before, and `last` where the
last one ended: an empty one is none if it is there. The pieces of the result come last first. -/
def replaceFrom (regex : Regex) (subject : Regex.Subject) (substitution : Substitution) :
    Nat → Nat → Nat → Option Nat → List (List Char) → Bool → List (List Char) × Bool
  | 0, _, _, _, pieces, isDone => (pieces, isDone)
  | fuel + 1, place, count, last?, pieces, isDone =>
    let chars := subject.chars
    let part (start stop : Nat) : List Char := (chars.extract start stop).toList
    match regex.search? subject place with
    | none => (part place chars.size :: pieces, isDone)
    | some found =>
      let before := part place found.start
      let isEmpty := found.start == found.stop
      if isEmpty && last? == some found.start then
        replaceFrom regex subject substitution fuel (found.stop + 1) count none
          (part place (found.stop + 1) :: pieces) isDone
      else
        let isCounted := substitution.place ≤ count + 1
        let written := if isCounted then
            replacementChars chars found substitution.replacement {}
          else part found.start found.stop
        let pieces := written :: before :: pieces
        if isCounted && !substitution.isGlobal then (part found.stop chars.size :: pieces, true)
        else
          let stop := if isEmpty then found.stop + 1 else found.stop
          let pieces := if isEmpty then part found.stop stop :: pieces else pieces
          replaceFrom regex subject substitution fuel stop (count + 1) (some found.stop) pieces
            (isDone || isCounted)

/-- Replaces matches in the space. -/
def substitute (plan : Plan) (call : Call) (substitution : Substitution) : Editing Unit := do
  let (regex, ignoresCase) ← resolve call substitution.pattern
  let chars := (← get).space.toArray
  let (pieces, isDone) := replaceFrom regex ⟨chars, ignoresCase⟩ substitution (chars.size + 2) 0 0
    none [] false
  if isDone then
    modify fun state => { state with
      space := pieces.reverse.flatten
      hasReplaced := true }
    if substitution.prints then putLine plan call "" (← get).space
    match substitution.output? with
    | some name => putLine plan call name (← get).space
    | none => pure ()

/-! ## Lists -/

/-- How a character is listed. -/
def listedChar (c : Char) : List Char :=
  match c with
  | '\\' => ['\\', '\\']
  | '\x07' => ['\\', 'a']
  | '\x08' => ['\\', 'b']
  | '\x0c' => ['\\', 'f']
  | '\n' => ['\\', 'n']
  | '\r' => ['\\', 'r']
  | '\t' => ['\\', 't']
  | '\x0b' => ['\\', 'v']
  | c => if isShown c then [c] else octalEscapes [c]

/-- A line as it is listed, in pieces of a width at most. -/
def listed (width : Nat) (chars : List Char) : String :=
  let step := fun (state : List Char × Nat) (c : Char) =>
    let (done, column) := state
    let written := listedChar c
    if 1 < width && width - 1 < column + written.length then
      (written.reverse ++ '\n' :: '\\' :: done, written.length)
    else (written.reverse ++ done, column + written.length)
  let (done, _) := chars.foldl step ([], 0)
  String.ofList ('\n' :: '$' :: done).reverse

/-! ## Commands -/

/-- The part of the space before the first line end, and the part behind it if there is one. -/
def splitSpace (plan : Plan) (space : List Char) : List Char × Option (List Char) :=
  let mark := Char.ofNat plan.ending.toNat
  let first := space.takeWhile (· != mark)
  match space.drop first.length with
  | _ :: rest => (first, some rest)
  | [] => (first, none)

/-- What is there with something behind it, or that alone. -/
def joined (plan : Plan) (appends : Bool) (present added : List Char) : List Char :=
  if appends then present ++ Char.ofNat plan.ending.toNat :: added else added

/-- Whether a command stands before the last line of its range. -/
def isBeforeLast (place : Nat) (command : Command) : Editing Bool := do
  match command.selector.isNegated, (← get).ranges.getD place .outside with
  | false, .inside _ => return command.selector.last?.isSome
  | _, _ => return false

/-- Does what a command says for the line that it is for. -/
def perform (plan : Plan) (call : Call) (place : Nat) (command : Command) : Editing Step := do
  let next : Step := .goOn (place + 1)
  let change (step : State → State) : Editing Step := do
    modify step
    return next
  let write (text : String) : Editing Step := do
    putText plan call text
    return next
  let jump (name : String) : Editing Step := do
    (Program.breathe : Program Unit)
    return .goOn ((labelPlace? plan.commands name).getD plan.commands.size)
  let state ← get
  match command.action with
  | .block _ | .nothing | .label _ => return next
  | .append text => change fun state => { state with queue := state.queue ++ [.text text] }
  | .insert text => write text
  | .change text =>
    if !(← isBeforeLast place command) then putText plan call text
    return .stop .dropped
  | .delete => return .stop .dropped
  | .deleteFirst =>
    match splitSpace plan state.space with
    | (_, none) => return .stop .dropped
    | (_, some rest) =>
      set { state with space := rest }
      return .stop .again
  | .get appends =>
    change fun state => { state with
      space := joined plan appends state.space state.kept
      isWhole := state.isKeptWhole }
  | .hold appends =>
    change fun state => { state with
      kept := joined plan appends state.kept state.space
      isKeptWhole := state.isWhole }
  | .exchange =>
    change fun state => { state with
      space := state.kept
      isWhole := state.isKeptWhole
      kept := state.space
      isKeptWhole := state.isWhole }
  | .list width? => write (listed (width?.getD plan.width) state.space)
  | .next =>
    let isOver ← isLast call
    if !plan.isQuiet then putLine plan call "" state.space
    if isOver then return .stop .dropped
    let _ ← takeLine plan call false
    return next
  | .appendNext =>
    if ← isLast call then
      if !plan.isQuiet then putLine plan call "" state.space
      return .stop .dropped
    let _ ← takeLine plan call true
    return next
  | .print =>
    putLine plan call "" state.space
    return next
  | .printFirst =>
    let (first, rest?) := splitSpace plan state.space
    set { state with isWhole := rest?.isSome || state.isWhole }
    putLine plan call "" first
    change fun after => { after with isWhole := state.isWhole }
  | .quit status prints =>
    if prints then
      if !plan.isQuiet then putLine plan call "" state.space
      putQueue plan call
    return .stop (.quit status)
  | .readFile path => change fun state => { state with queue := state.queue ++ [.file path] }
  | .readLine path => change fun state => { state with queue := state.queue ++ [.line path] }
  | .writeFile path =>
    putLine plan call path state.space
    return next
  | .writeFirst path =>
    let first := (splitSpace plan state.space).1
    put plan call path (ByteText.toBytes (String.ofList first) ++ [plan.ending])
    return next
  | .substitute substitution =>
    substitute plan call substitution
    return next
  | .translate pairs =>
    let translated (c : Char) : Char := ((pairs.find? (·.1 == c)).map (·.2)).getD c
    change fun state => { state with space := state.space.map translated }
  | .jump .always name => jump name
  | .jump kind name =>
    let isTaken := state.hasReplaced == (kind == .substituted)
    set { state with hasReplaced := false }
    if isTaken then jump name else return next
  | .number => write s!"{state.number}\n"
  | .clear => change fun state => { state with space := [] }
  | .fileName => write s!"{state.path}\n"

/-- Runs the commands from a place on. -/
def runFrom (plan : Plan) (call : Call) : Nat → Nat → Editing Outcome
  | 0, _ => return .finished
  | fuel + 1, place => do
    match plan.commands[place]? with
    | none => return .finished
    | some command =>
      if ← isSelected call place command.selector then
        match ← perform plan call place command with
        | .goOn place => runFrom plan call fuel place
        | .stop outcome => return outcome
      else
        match command.action with
        | .block stop => runFrom plan call fuel stop
        | _ => runFrom plan call fuel (place + 1)

/-- Runs the script for line after line. The result is the status of a command that ends all. -/
def runLines (plan : Plan) (call : Call) : Nat → Bool → Editing (Option Nat)
  | 0, _ => return none
  | fuel + 1, hasLine => do
    (Program.breathe : Program Unit)
    let isThere ← if hasLine then do
        putQueue plan call
        pure true
      else takeLine plan call false
    if !isThere then return none
    match ← runFrom plan call Program.patience 0 with
    | .finished =>
      if !plan.isQuiet then putLine plan call "" (← get).space
      runLines plan call fuel false
    | .dropped => runLines plan call fuel false
    | .again => runLines plan call fuel true
    | .quit status => return some status

/-! ## Inputs -/

/-- Where the ranges stand before the first line: those that start before it have begun. -/
def startRanges (plan : Plan) : Array RangeState :=
  plan.commands.map fun command =>
    match command.selector.first? with
    | some (.number 0) => .inside none
    | _ => .outside

/-- Runs the script on inputs as if they were one. -/
def runInputs (plan : Plan) (call : Call) (paths : List String) : Editing (Option Nat) := do
  modify fun state => { state with
    source := { paths := paths, ending := plan.ending, failures := state.source.failures }
    upcoming? := none
    number := 0
    ranges := startRanges plan }
  runLines plan call Program.patience false

/-- The name that a file keeps its former content under. A star in the suffix stands for the name.
-/
def formerPath (suffix path : String) : String :=
  let name := lastName path
  let former := if suffix.toList.contains '*' then
      String.join (suffix.toList.map fun c => if c == '*' then name else String.singleton c)
    else name ++ suffix
  if path.toList.contains '/' && !former.toList.contains '/' then within (parentPath path) former
  else former

/-- Runs the script on a file, and puts the output in its place. With a suffix, the former content
stays under a name with that. -/
def editFile (plan : Plan) (call : Call) (suffix path : String) : Editing (Option Nat) := do
  match ← (placeOf path : Program _) with
  | .ok (.present location (.file content isExecutable)) =>
    modify fun state => { state with edited? := some [] }
    let quit? ← runInputs plan call [path]
    let pieces := ((← get).edited?.getD []).reverse
    modify fun state => { state with edited? := none, owing := state.owing.filter (· != "") }
    if !suffix.isEmpty then
      match ← (Program.openPath (formerPath suffix path) Opening.output : Program _) with
      | .ok handle =>
        let _ ← (Program.writeTo handle Program.patience content : Program _)
      | .error _ => pure ()
    (Program.change fun _ world =>
      world.putNode location (.file pieces.flatten isExecutable) : Program Unit)
    return quit?
  | .ok (.present ..) =>
    call.complain s!"couldn't edit {path}: not a regular file"
    return some 4
  | _ => runInputs plan call [path]

/-- Runs the script on each of some inputs by itself. -/
def runEach (plan : Plan) (call : Call) (suffix? : Option String) :
    List String → Editing (Option Nat)
  | [] => return none
  | path :: paths => do
    let quit? ← match suffix? with
      | some suffix => editFile plan call suffix path
      | none => runInputs plan call [path]
    match quit? with
    | some status => return some status
    | none => runEach plan call suffix? paths

/-! ## Calls -/

/-- The names of the files that a script writes. -/
def writtenPaths (commands : Array Command) : List String :=
  (commands.toList.filterMap fun command =>
    match command.action with
    | .writeFile path | .writeFirst path => some path
    | .substitute substitution => substitution.output?
    | _ => none).eraseDups.filter fun path => path != "/dev/stdout" && path != "/dev/stderr"

/-- An argument that says that files are edited, as one that takes its value behind an equals
sign. -/
def placeOption (word : String) : List String :=
  match word.toList with
  | '-' :: '-' :: _ =>
    if word == "--in-place" then ["-I="]
    else if word.startsWith "--in-place=" then ["-I" ++ (word.drop 10).toString]
    else [word]
  | '-' :: letters =>
    let before := letters.takeWhile "nrEsuz".toList.contains
    match letters.drop before.length with
    | 'i' :: suffix =>
      (if before.isEmpty then [] else [String.ofList ('-' :: before)]) ++
        [String.ofList ('-' :: 'I' :: '=' :: suffix)]
    | _ => [word]
  | _ => [word]

/-- A part of a script, with the words for where it is from: a place in it is counted in characters
or in lines. -/
structure Part where
  text : String
  source : String
  countsLines : Bool

/-- The words for a place in the parts of a script. -/
def placeWords : List Part → Nat → String
  | [], place => s!"char {place}"
  | part :: parts, place =>
    let size := part.text.length
    if size < place && !parts.isEmpty then placeWords parts (place - size - 1)
    else if part.countsLines then
      let number := ((part.text.toList.take place).filter (· == '\n')).length + 1
      s!"{part.source} line {number}"
    else s!"{part.source}, char {place}"

/-- The parts of the script that options give. -/
def scriptParts (call : Call) : List (Char × String) → Nat → Program (List Part)
  | [], _ => return []
  | ('e', text) :: options, number => do
    let rest ← scriptParts call options (number + 1)
    return ⟨text, s!"-e expression #{number}", false⟩ :: rest
  | ('f', path) :: options, number => do
    match ← call.contents path with
    | .ok content =>
      let text := ByteText.ofBytes content
      let text := if text.toList.getLast? == some '\n' then (text.dropEnd 1).toString else text
      let rest ← scriptParts call options number
      return ⟨text, s!"file {path}", true⟩ :: rest
    | .error errno =>
      call.complain s!"couldn't open file {path}: {errno.words}"
      call.quit 4
  | _ :: options, number => scriptParts call options number

/-- Opens the files that a script writes. -/
def openOutputs (call : Call) (paths : List String) : Program (List (String × Nat)) :=
  paths.mapM fun path => do
    match ← Program.openPath path Opening.output with
    | .ok handle => return (path, handle)
    | .error errno =>
      call.complain s!"couldn't open file {path}: {errno.words}"
      call.quit 4

end Editor

/-- Edits lines by a script. -/
def sed : Tool := fun call => do
  let words (errno : Errno) : String :=
    let verb := if errno = .badDescriptor then "close" else "flush"
    s!"couldn't {verb} stdout: {errno.words}"
  let call := { call with noRoom := { words := words, status := 4 } }
  let known : Known :=
    { letters := "bnrEe:f:I:l:suzdp", failure := 1
      long := [("quiet", 'n'), ("silent", 'n'), ("expression", 'e'), ("file", 'f'),
        ("regexp-extended", 'E'), ("line-length", 'l'), ("separate", 's'), ("unbuffered", 'u'),
        ("null-data", 'z'), ("zero-terminated", 'z'), ("debug", 'd'), ("posix", 'p')] }
  let arguments := call.arguments.flatMap Editor.placeOption
  let (options, words) ← { call with arguments := arguments }.parse known
  let parts ← Editor.scriptParts call options 1
  let (parts, paths) ← match parts, words with
    | [], [] =>
      let _ ← Program.write 2 (ByteText.toBytes
        ("Usage: sed [OPTION]... \x7bscript-only-if-no-other-script\x7d [input-file]...\n"))
      call.quit 1
    | [], text :: paths => pure ([⟨text, "-e expression #1", false⟩], paths)
    | parts, paths => pure (parts, paths)
  let isExtended := given options 'E' || given options 'r'
  let text := "\n".intercalate (parts.map (·.text))
  match Editor.readScript isExtended text with
  | .error fault =>
    call.complain s!"{Editor.placeWords parts fault.place}: {fault.message}"
    return 1
  | .ok commands =>
    match Editor.missingLabel? commands with
    | some name =>
      call.complain s!"can't find label for jump to \x60{name}'"
      return 4
    | none =>
      let suffix? := (valueOf? options 'I').map fun value => (value.drop 1).toString
      let plan : Editor.Plan :=
        { commands := commands
          isQuiet := given options 'n' || text.startsWith "#n\n" || text == "#n"
          ending := if given options 'z' then 0 else 10
          width := ((valueOf? options 'l').bind (·.toNat?)).getD 70
          isSeparate := given options 's' || suffix?.isSome }
      let outputs ← Editor.openOutputs call (Editor.writtenPaths commands)
      let start : Editor.State := { source := { paths := [] }, outputs := outputs }
      call.gathering do
        let inputs := if paths.isEmpty then ["-"] else paths
        let work : Editor.Editing (Option Nat) :=
          if plan.isSeparate then Editor.runEach plan call suffix? inputs
          else Editor.runInputs plan call inputs
        let (quit?, state) ← work.run start
        return if 0 < state.source.failures then 2 else quit?.getD 0

end EventHooks.Utility
