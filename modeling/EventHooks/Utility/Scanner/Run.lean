import EventHooks.Utility.Calendar
import EventHooks.Utility.Launch
import EventHooks.Utility.Scanner.Reader
import EventHooks.Utility.Scanner.Value
import Std.Data.HashMap

/-!
# Running programs of the pattern scanner

The input is read record by record, and a record is parted into fields. Each rule runs for the
records that its pattern selects; some run before the first record or after the last one.
-/
namespace EventHooks.Utility.Scanner

/-! ## States -/

/-- A source of records: a handle, what was read from it and not yet taken, and whether it is at its
end. -/
structure Source where
  handle : Nat
  pending : Bytes := []
  isOver : Bool := false

/-- An open output: a handle, and the process that reads it, if it is a command. -/
structure Output where
  name : String
  handle : Nat
  reader? : Option ProcessId := none

/-- An open input with its name, and the process that writes it, if it is a command. -/
structure Input where
  name : String
  source : Source
  writer? : Option ProcessId := none

/-- A name within a function: its value, and the table that it stands for. -/
structure Slot where
  value : Value
  table : String

/-- The state of a run. `frame` are the names of the present function; names that are not there are
common to the program. -/
structure State where
  functions : List Function := []
  bindings : Std.HashMap String Value := {}
  tables : Std.HashMap String (Std.HashMap String Value) := {}
  frame : List (String × Slot) := []
  frames : Nat := 0
  record : String := ""
  fields : Array String := #[]
  isPlain : Bool := true
  source? : Option Source := none
  place : Nat := 1
  hasRead : Bool := false
  outputs : List Output := []
  inputs : List Input := []
  ranges : List Nat := []
  seed : Nat := 1

/-- Why statements are left before their end. -/
inductive Jump
  | nextRecord
  | exit (status? : Option Nat)
  | leave
  | skip
  | answer (value : Value)

/-- Programs that scan. -/
abbrev Scan := ExceptT Jump (StateT State Gathering)

/-- Does something outside. -/
def outside {α : Type} (work : Program α) : Scan α :=
  ExceptT.lift (liftM (work : Program α) : StateT State Gathering α)

/-- Writes to the standard output. -/
def emit (call : Call) (text : String) : Scan Unit :=
  ExceptT.lift (liftM (call.emitText text : Gathering Unit) : StateT State Gathering Unit)

/-- Writes what was gathered. -/
def flush (call : Call) : Scan Unit :=
  ExceptT.lift (liftM (call.flush : Gathering Unit) : StateT State Gathering Unit)

/-- The words for an output that cannot be closed because what was written to it found no room. -/
def closingFault (name : String) (errno : Errno) : String :=
  let name := s!"\"{name}\""
  s!"close failed on file {name} ({errno.words})"

/-- Ends the process with a message. -/
def abort {α : Type} (call : Call) (message : String) : Scan α := do
  flush call
  outside (call.complain message)
  outside (call.quit 2)

/-! ## Variables -/

/-- The value of a common name. -/
def common (name : String) : Scan Value :=
  return ((← get).bindings[name]?).getD .unset

/-- The text of a common name. -/
def commonText (name : String) : Scan String := do
  return (← common name).toText Number.defaultFormat

/-- A value as a text. -/
def textOf (value : Value) : Scan String := do
  match value with
  | .number _ => return value.toText (← commonText "CONVFMT")
  | value => return value.toText Number.defaultFormat

/-- How a text tells to part texts. -/
def separatorOf (call : Call) (text : String) : Scan Separator := do
  match text.toList with
  | [' '] => return .blanks
  | [] => return .everywhere
  | [c] => return .char c
  | _ =>
    match readRegex text with
    | .ok regex => return .regex regex
    | .error message => abort call message

/-- Lets the record be a text, and parts it into fields. -/
def setRecord (call : Call) (text : String) : Scan Unit := do
  let separator ← separatorOf call (← commonText "FS")
  let inLines := (← commonText "RS") == ""
  let parts := match separator with
    | .blanks => separator.parts text
    | separator =>
      if inLines then ((Separator.char '\n').parts text).flatMap separator.parts
      else separator.parts text
  modify fun state => { state with record := text, fields := parts.toArray, isPlain := true }

/-- Puts the record together from its fields. -/
def joinRecord : Scan Unit := do
  let separator ← commonText "OFS"
  modify fun state => { state with
    record := separator.intercalate state.fields.toList
    isPlain := false }

/-- Lets there be some number of fields. -/
def setFieldCount (count : Nat) : Scan Unit := do
  modify fun state => { state with
    fields := state.fields.extract 0 count ++
      (List.replicate (count - state.fields.size) "").toArray }
  joinRecord

/-- Sets a field. -/
def setField (call : Call) (place : Nat) (text : String) : Scan Unit := do
  if place = 0 then setRecord call text
  else
    if (← get).fields.size < place then setFieldCount place
    modify fun state => { state with fields := state.fields.set! (place - 1) text }
    joinRecord

/-- The value of a name. -/
def valueOf (name : String) : Scan Value := do
  let state ← get
  match state.frame.find? (·.1 == name) with
  | some (_, slot) => return slot.value
  | none => if name == "NF" then return .ofNat state.fields.size else common name

/-- Sets the value of a name. -/
def setValue (name : String) (value : Value) : Scan Unit := do
  let state ← get
  if state.frame.any (·.1 == name) then
    let change (entry : String × Slot) : String × Slot :=
      if entry.1 == name then (name, { entry.2 with value := value }) else entry
    set { state with frame := state.frame.map change }
  else if name == "NF" then setFieldCount value.toNat
  else set { state with bindings := state.bindings.insert name value }

/-- The table that a name stands for. -/
def tableOf (name : String) : Scan String := do
  return (((← get).frame.find? (·.1 == name)).map (·.2.table)).getD name

/-- The members of a table. -/
def membersOf (table : String) : Scan (Std.HashMap String Value) :=
  return ((← get).tables[table]?).getD {}

/-- Changes the members of a table. -/
def changeTable (table : String)
    (change : Std.HashMap String Value → Std.HashMap String Value) : Scan Unit :=
  modify fun state =>
    let members := (state.tables[table]?).getD {}
    { state with tables := (state.tables.erase table).insert table (change members) }

/-! ## Records -/

/-- The bytes up to a mark, and those behind it. -/
def cutAt (mark : UInt8) : Bytes → Bytes → Option (Bytes × Bytes)
  | [], _ => none
  | byte :: rest, done =>
    if byte == mark then some (done.reverse, rest) else cutAt mark rest (byte :: done)

/-- The record at the start of bytes, with what follows it. Without more to come, what is left is
the last one. -/
def cutRecord (separator : String) (regex? : Option Regex) (pending : Bytes) (isOver : Bool) :
    Option (Bytes × Bytes) :=
  let last : Option (Bytes × Bytes) :=
    if isOver && !pending.isEmpty then some (pending, []) else none
  match separator.toList, regex? with
  | [c], _ => (cutAt c.toNat.toUInt8 pending []).or last
  | _, some regex =>
    if !isOver then none
    else
      let chars := (pending.map fun byte => Char.ofNat byte.toNat).toArray
      match regex.search? ⟨chars, false⟩ 0 with
      | some found =>
        if found.stop = found.start then last
        else some (pending.take found.start, pending.drop found.stop)
      | none => last
  | _, none => last

/-- The expression between records that are parted by something else than a character. -/
def recordRegex (call : Call) (separator : String) : Scan (Option Regex) := do
  if separator.length = 1 then return none
  match readRegex (if separator.isEmpty then "\n\n+" else separator) with
  | .ok regex => return some regex
  | .error message => abort call message

/-- Takes the next record of a source. -/
def takeRecord (call : Call) : Nat → Source → Scan (Option String × Source)
  | 0, source => return (none, source)
  | fuel + 1, source => do
    let separator ← commonText "RS"
    let regex? ← recordRegex call separator
    let pending := if separator.isEmpty then source.pending.dropWhile (· == 10) else source.pending
    match cutRecord separator regex? pending source.isOver with
    | some (record, rest) =>
      let text := ByteText.ofBytes record
      let text := if separator.isEmpty || (regex?.isSome && rest.isEmpty) then
          if text.endsWith "\n" then (text.dropEnd 1).toString else text
        else text
      return (some text, { source with pending := rest })
    | none =>
      if source.isOver then return (none, source)
      else
        match ← outside (Program.readFrom source.handle 65536 Program.patience) with
        | .ok [] => takeRecord call fuel { source with isOver := true }
        | .ok bytes => takeRecord call fuel { source with pending := source.pending ++ bytes }
        | .error errno => abort call s!"read error ({errno.words})"

/-- The name and the value of an argument that sets a variable. -/
def setting? (word : String) : Option (String × Value) :=
  let chars := word.toList
  let name := chars.takeWhile (· != '=')
  let isName := name.head?.any (fun c => c.isAlpha || c == '_') &&
    name.all fun c => c.isAlphanum || c == '_'
  if isName && name.length < chars.length then
    some (String.ofList name,
      .input (resolved (String.ofList (chars.drop (name.length + 1)))))
  else none

/-- Opens an input of the whole program. -/
def openMain (call : Call) (path : String) : Scan Unit := do
  match ← outside (call.openInput path) with
  | .ok handle =>
    setValue "FILENAME" (.text path)
    setValue "FNR" (.number 0.0)
    modify fun state => { state with source? := some { handle := handle }, hasRead := true }
  | .error errno => abort call s!"cannot open \"{path}\" ({errno.words})"

/-- Takes the next record of the inputs, which the arguments name. -/
def nextRecord (call : Call) : Nat → Scan (Option String)
  | 0 => return none
  | fuel + 1 => do
    let state ← get
    match state.source? with
    | some source =>
      let (record?, source) ← takeRecord call Program.patience source
      match record? with
      | some record =>
        modify fun state => { state with source? := some source }
        return some record
      | none =>
        modify fun state => { state with source? := none }
        nextRecord call fuel
    | none =>
      if (← common "ARGC").toNat ≤ state.place then
        if state.hasRead then return none
        else
          openMain call "-"
          nextRecord call fuel
      else
        let word ← textOf (((← membersOf "ARGV")[toString state.place]?).getD .unset)
        set { state with place := state.place + 1 }
        match setting? word with
        | some (name, value) => setValue name value
        | none => if word != "" then openMain call word
        nextRecord call fuel

/-- Counts a record. -/
def countRecord (isOfFile : Bool) : Scan Unit := do
  setValue "NR" (.number ((← common "NR").toNumber + 1.0))
  if isOfFile then setValue "FNR" (.number ((← common "FNR").toNumber + 1.0))

/-! ## Commands and files -/

/-- Runs a command of the shell, and answers its ending. -/
def runCommand (call : Call) (command : String) : Program ProcessEnd := do
  match ← findImage "/bin/sh" ["-c", command] call.environment call.environment with
  | .error _ => return .exited 127
  | .ok image => Program.awaitEnd (← Program.fork (becomeImage call image))

/-- The status of a process that was waited for, as a program sees it. -/
def statusOf : ProcessEnd → Nat
  | .exited status => status
  | .killed signal => 256 + signal

/-- The first of the descriptors that keep the ends of pipes to commands. -/
def firstKept : Nat := 20

/-- The descriptors of a process that keep ends of pipes, with their handles. -/
def keptBy (process : ProcessId) (world : World) : List (Nat × Nat) :=
  ((world.record? process).elim [] (·.descriptors)).filter (firstKept ≤ ·.1)

/-- Opens a pipe between the scanner and a command: its end here is kept, and the other end becomes
a descriptor of the command. -/
def pipeTo (call : Call) (command : String) (writes : Bool) : Scan (Nat × Option ProcessId) := do
  flush call
  outside do
    let (kept, own, other) ← Program.act fun process world =>
      let kept := ((keptBy process world).map (·.1)).foldl max firstKept + 1
      let (reader, writer, world) := world.openPipe (some 65536)
      let (own, other) := if writes then (writer, reader) else (reader, writer)
      ((kept, own, other), (world.attach process kept own).attach process (kept + 1) other)
    let child? ← match ← findImage "/bin/sh" ["-c", command] call.environment call.environment with
      | .error _ => pure none
      | .ok image => do
        let child ← Program.fork do
          Program.attach (if writes then 0 else 1) other
          Program.change fun process world =>
            (keptBy process world).foldl (fun world (descriptor, _) =>
              world.detach process descriptor) world
          becomeImage call image
        pure (some child)
    Program.detach (kept + 1)
    return (own, child?)

/-- Closes what has a name, and answers the status. -/
def closeNamed (name : String) : Scan Int := do
  let state ← get
  let outputs := state.outputs.filter (·.name == name)
  let inputs := state.inputs.filter (·.name == name)
  set { state with
    outputs := state.outputs.filter (·.name != name)
    inputs := state.inputs.filter (·.name != name) }
  let handles := outputs.map (·.handle) ++ inputs.map (·.source.handle)
  outside do
    Program.change fun process world =>
      (keptBy process world).foldl (fun world (descriptor, handle) =>
        if handles.contains handle then world.detach process descriptor else world) world
    let children := outputs.filterMap (·.reader?) ++ inputs.filterMap (·.writer?)
    let statuses ← children.mapM fun child => do
      let ending ← Program.awaitEnd child
      return (statusOf ending : Int)
    return statuses.getLast?.getD (if outputs.isEmpty && inputs.isEmpty then -1 else 0)

/-- Writes a text to an output, which is opened if it is not open. -/
def writeTo (call : Call) (name : String) (opening? : Option Opening) (text : String) :
    Scan Unit := do
  let bytes := ByteText.toBytes text
  let use (handle : Nat) : Scan Unit := do
    match ← outside (Program.writeTo handle Program.patience bytes) with
    | .ok () => return ()
    | .error errno => abort call (closingFault name errno)
  if opening?.isSome && (name == "/dev/stdout" || name == "-") then emit call text
  else if opening?.isSome && name == "/dev/stderr" then
    flush call
    let _ ← outside (Program.write 2 bytes)
  else
    match (← get).outputs.find? (·.name == name) with
    | some output => use output.handle
    | none =>
      let output ← match opening? with
        | some opening =>
          match ← outside (Program.openPath name opening) with
          | .ok handle => pure ({ name := name, handle := handle } : Output)
          | .error errno => abort call s!"cannot open \"{name}\" ({errno.words})"
        | none =>
          let (handle, reader?) ← pipeTo call name true
          pure ({ name := name, handle := handle, reader? := reader? } : Output)
      modify fun state => { state with outputs := state.outputs ++ [output] }
      use output.handle

/-- Takes a record of an input, which is opened if it is not open. -/
def takeFrom (call : Call) (name : String) (isCommand : Bool) : Scan (Option (Option String)) := do
  let input? ← match (← get).inputs.find? (·.name == name) with
    | some input => pure (some input)
    | none =>
      if isCommand then
        let (handle, writer?) ← pipeTo call name false
        pure (some ⟨name, { handle := handle }, writer?⟩)
      else
        match ← outside (call.openInput name) with
        | .ok handle => pure (some ⟨name, { handle := handle }, none⟩)
        | .error _ => pure none
  match input? with
  | none => return none
  | some input =>
    let (record?, source) ← takeRecord call Program.patience input.source
    modify fun state => { state with
      inputs := { input with source := source } :: state.inputs.filter (·.name != name) }
    return some record?

/-! ## Formats -/

/-- Why values cannot be written in a format: there are not enough of them, or a conversion is
none. -/
inductive FormatFault
  | tooFew
  | improper (number : Nat)

/-- The pieces of a text, and what kept it from being whole. -/
abbrev Pieces := List String × Option FormatFault

/-- A piece before others. -/
def Pieces.after (piece : String) (pieces : Pieces) : Pieces :=
  (piece :: pieces.1, pieces.2)

/-- The size at the start of characters. An asterisk takes a value. -/
def takeSize (chars : List Char) (values : List Value) : Option (Int × List Char × List Value) :=
  match chars, values with
  | '*' :: rest, value :: values => some ((Number.truncated? value.toNumber).getD 0, rest, values)
  | '*' :: _, [] => none
  | chars, values =>
    let (size, rest) := Layout.takeNumber chars
    some ((size : Int), rest, values)

/-- The layout at the start of characters. -/
def takeLayout (chars : List Char) (values : List Value) :
    Option (Layout × List Char × List Value) := do
  let (layout, rest) := Layout.takeFlags chars {}
  let (width, rest, values) ← takeSize rest values
  let layout := { layout with width := width.natAbs, left := layout.left || width < 0 }
  match rest with
  | '.' :: rest =>
    let (precision, rest, values) ← takeSize rest values
    return ({ layout with precision := some precision.toNat }, rest, values)
  | rest => return (layout, rest, values)

/-- A value as a conversion writes it. -/
def converted? (numberFormat : String) (layout : Layout) (letter : Char) (value : Value) :
    Option String :=
  let number := value.toNumber
  let largest := Int.pow 2 63 - 1
  let whole := max (-largest) (min largest ((Number.truncated? number).getD 0))
  match letter with
  | 'd' | 'i' => some (layout.integer whole)
  | 'o' | 'x' | 'X' | 'u' =>
    some (layout.natural letter (if whole < 0 then (whole + Int.pow 2 64).toNat else whole.toNat))
  | 'c' =>
    match value with
    | .number _ => some (layout.pad (String.singleton (Char.ofNat (whole.toNat % 256))))
    | value => some (layout.pad (String.ofList ((value.toText numberFormat).toList.take 1)))
  | 's' => some (layout.text (value.toText numberFormat))
  | letter =>
    if "eEfFgG".toList.contains letter then some (Number.shaped layout letter number) else none

/-- Writes values as a format says. `number` counts the conversions. -/
def formatValues (numberFormat : String) : Nat → Nat → List Char → List Value → Pieces
  | 0, _, _, _ => ([], none)
  | _, _, [], _ => ([], none)
  | fuel + 1, number, '%' :: '%' :: rest, values =>
    Pieces.after "%" (formatValues numberFormat fuel number rest values)
  | fuel + 1, number, '%' :: chars, values =>
    match takeLayout chars values with
    | none => ([], some .tooFew)
    | some (_, [], _) => ([], some (if values.isEmpty then .tooFew else .improper number))
    | some (layout, letter :: rest, values) =>
      match values with
      | [] =>
        let isKnown := "diouxXcseEfFgG".toList.contains letter
        ([], some (if isKnown then .tooFew else .improper number))
      | value :: values =>
        match converted? numberFormat layout letter value with
        | some piece =>
          Pieces.after piece (formatValues numberFormat fuel (number + 1) rest values)
        | none => ([], some (.improper number))
  | fuel + 1, number, c :: rest, values =>
    Pieces.after (String.singleton c) (formatValues numberFormat fuel number rest values)

/-- Ends the process with a fault of the run. -/
def failRun {α : Type} (call : Call) (message : String) : Scan α := do
  let path ← commonText "FILENAME"
  let ofFile ← commonText "FNR"
  let number ← commonText "NR"
  abort call s!"run time error: {message}\n\tFILENAME=\"{path}\" FNR={ofFile} NR={number}"

/-- The text of values in a format. If there is none as a whole, its start is written to the
standard output, unless it is only wanted as a value. -/
def formatted (call : Call) (name : String) (values : List Value) : Scan String := do
  match values with
  | [] => failRun call s!"no arguments in call to {name}"
  | format :: values =>
    let format ← textOf format
    let (pieces, fault?) :=
      formatValues (← commonText "CONVFMT") (format.length + 1) 1 format.toList values
    let text := String.join pieces
    match fault? with
    | none => return text
    | some fault =>
      if name == "printf" then emit call text
      match fault with
      | .tooFew => failRun call s!"not enough arguments passed to {name}(\"{format}\")"
      | .improper number =>
        failRun call s!"improper conversion(number {number}) in {name}(\"{format}\")"

/-! ## Expressions -/

/-- The key of several values. -/
def keyOf (values : List Value) : Scan String := do
  let texts ← values.mapM textOf
  return (← commonText "SUBSEP").intercalate texts

/-- The expression that a value stands for where one is needed. -/
def dynamicRegex (call : Call) (text : String) : Scan Regex := do
  match readRegex text with
  | .ok regex => return regex
  | .error message => abort call message

/-- The next number of a sequence that looks like chance. -/
def chance : Scan Float := do
  let state ← get
  let seed := (state.seed * 1103515245 + 12345) % 2147483648
  set { state with seed := seed }
  return Number.ofInt seed / 2147483648.0

mutual

/-- The value of an expression. -/
def eval (call : Call) (fuel : Nat) (expr : Expr) : Scan Value :=
  match fuel with
  | 0 => return .unset
  | fuel + 1 => do
    let number (expr : Expr) : Scan Float := return (← eval call fuel expr).toNumber
    match expr with
    | .number value => return .number value
    | .text value => return .text value
    | .regex wanted =>
      return .ofBool (wanted.search? ⟨(← get).record.toList.toArray, false⟩).isSome
    | .named name => valueOf name
    | .field place =>
      let place := (← eval call fuel place).toNat
      let state ← get
      if place = 0 then return .input state.record
      else return ((state.fields[place - 1]?).map Value.input).getD .unset
    | .element name keys =>
      let key ← keyOf (← evalAll call fuel keys)
      let table ← tableOf name
      match (← membersOf table)[key]? with
      | some value => return value
      | none =>
        changeTable table (·.insert key .unset)
        return .unset
    | .assign target operation? value =>
      let value ← eval call fuel value
      let value ← match operation? with
        | none => pure value
        | some operation =>
          pure (.number (operation.apply (← number target) value.toNumber))
      store call fuel target value
      return value
    | .step target isBefore isUp =>
      let old ← number target
      let new := if isUp then old + 1.0 else old - 1.0
      store call fuel target (.number new)
      return .number (if isBefore then new else old)
    | .choice test first second =>
      if (← eval call fuel test).holds then eval call fuel first else eval call fuel second
    | .both first second =>
      if (← eval call fuel first).holds then
        return .ofBool (← eval call fuel second).holds
      else return .ofBool false
    | .either first second =>
      if (← eval call fuel first).holds then return .ofBool true
      else return .ofBool (← eval call fuel second).holds
    | .contains keys name =>
      let key ← keyOf (← evalAll call fuel keys)
      return .ofBool ((← membersOf (← tableOf name)).contains key)
    | .compare comparison first second =>
      let first ← eval call fuel first
      let second ← eval call fuel second
      return .ofBool (first.compare (← commonText "CONVFMT") comparison second)
    | .matching isNegated text pattern =>
      let text ← textOf (← eval call fuel text)
      let regex ← regexOf call fuel pattern
      return .ofBool ((regex.search? ⟨text.toList.toArray, false⟩).isSome != isNegated)
    | .join first second =>
      let first ← textOf (← eval call fuel first)
      let second ← textOf (← eval call fuel second)
      return .text (first ++ second)
    | .binary operation first second =>
      let first ← number first
      let second ← number second
      return .number (operation.apply first second)
    | .sign isNegative value =>
      let value ← number value
      return .number (if isNegative then -value else value)
    | .opposite value => return .ofBool !(← eval call fuel value).holds
    | .builtin name arguments => evalBuiltin call fuel name arguments
    | .call name arguments => callFunction call fuel name arguments
    | .nextLine target? =>
      match ← nextRecord call Program.patience with
      | none => return .ofNat 0
      | some record =>
        countRecord true
        storeLine call fuel target? record
        return .ofNat 1
    | .lineOfFile path target? =>
      let name ← textOf (← eval call fuel path)
      match ← takeFrom call name false with
      | none => return .number (-1.0)
      | some none => return .ofNat 0
      | some (some record) =>
        storeLine call fuel target? record
        return .ofNat 1
    | .lineOfCommand command target? =>
      let name ← textOf (← eval call fuel command)
      match ← takeFrom call name true with
      | some (some record) =>
        countRecord false
        storeLine call fuel target? record
        return .ofNat 1
      | _ => return .ofNat 0
    | .several members =>
      let values ← evalAll call fuel members
      match values with
      | [value] => return value
      | values => return .text (← keyOf values)

/-- The values of expressions, from the first to the last. -/
def evalAll (call : Call) (fuel : Nat) (exprs : List Expr) : Scan (List Value) :=
  match fuel with
  | 0 => return []
  | fuel + 1 =>
    match exprs with
    | [] => return []
    | expr :: rest => do
      let value ← eval call fuel expr
      return value :: (← evalAll call fuel rest)

/-- The expression to match that an expression stands for. -/
def regexOf (call : Call) (fuel : Nat) (pattern : Expr) : Scan Regex :=
  match fuel with
  | 0 => return .empty
  | fuel + 1 => do
    match pattern with
    | .regex regex | .several [.regex regex] => return regex
    | pattern => dynamicRegex call (← textOf (← eval call fuel pattern))

/-- Puts a line where it is wanted, or lets it be the record. -/
def storeLine (call : Call) (fuel : Nat) (target? : Option Expr) (line : String) : Scan Unit :=
  match fuel with
  | 0 => return ()
  | fuel + 1 =>
    match target? with
    | none => setRecord call line
    | some target => store call fuel target (.input line)

/-- Sets what an expression stands for. -/
def store (call : Call) (fuel : Nat) (target : Expr) (value : Value) : Scan Unit :=
  match fuel with
  | 0 => return ()
  | fuel + 1 => do
    match target with
    | .named name => setValue name value
    | .field place =>
      let place := (← eval call fuel place).toNat
      setField call place (← textOf value)
    | .element name keys =>
      let key ← keyOf (← evalAll call fuel keys)
      changeTable (← tableOf name) (·.insert key value)
    | .several [inner] => store call fuel inner value
    | _ => return ()

/-- Replaces what matches in a text, and stores that. -/
def substitute (call : Call) (fuel : Nat) (all : Bool) (pattern replacement target : Expr) :
    Scan Value :=
  match fuel with
  | 0 => return .unset
  | fuel + 1 => do
    let regex ← regexOf call fuel pattern
    let replacement ← textOf (← eval call fuel replacement)
    let chars := (← textOf (← eval call fuel target)).toList.toArray
    let (written, count) :=
      replaceMatches regex replacement.toList all chars (chars.size + 2) 0 none
    if 0 < count then store call fuel target (.text (String.ofList written))
    return .ofNat count

/-- The value of a function that there is in every program. -/
def evalBuiltin (call : Call) (fuel : Nat) (name : String) (arguments : List Expr) : Scan Value :=
  match fuel with
  | 0 => return .unset
  | fuel + 1 => do
    let text (expr : Expr) : Scan String := do textOf (← eval call fuel expr)
    let number (expr : Expr) : Scan Float := return (← eval call fuel expr).toNumber
    let whole (expr : Expr) : Scan Int := return (Number.truncated? (← number expr)).getD 0
    let whenNumber (use : Float → Float) (expr : Expr) : Scan Value :=
      return .number (use (← number expr))
    let record := Expr.field (.number 0.0)
    match name, arguments with
    | "length", [] => return .ofNat (← get).record.length
    | "length", [.named table] =>
      let members ← membersOf (← tableOf table)
      if members.isEmpty then return .ofNat (← text (.named table)).length
      else return .ofNat members.size
    | "length", [expr] => return .ofNat (← text expr).length
    | "substr", [expr, first] => return .text (partOf (← text expr) (← whole first) none)
    | "substr", [expr, first, count] =>
      let content ← text expr
      let first ← whole first
      return .text (partOf content first (some (← whole count)))
    | "index", [expr, part] =>
      let content ← text expr
      return .ofNat (indexOf content.toList (← text part).toList)
    | "split", expr :: .named table :: rest =>
      let content ← text expr
      let separator ← match rest with
        | [] => separatorOf call (← commonText "FS")
        | .regex regex :: _ => pure (.regex regex)
        | other :: _ => separatorOf call (← text other)
      let parts := separator.parts content
      let members := parts.zipIdx.foldl (fun (members : Std.HashMap String Value) (part, place) =>
        members.insert (toString (place + 1)) (.input part)) {}
      changeTable (← tableOf table) fun _ => members
      return .ofNat parts.length
    | "sub", [pattern, replacement] => substitute call fuel false pattern replacement record
    | "sub", [pattern, replacement, target] =>
      substitute call fuel false pattern replacement target
    | "gsub", [pattern, replacement] => substitute call fuel true pattern replacement record
    | "gsub", [pattern, replacement, target] =>
      substitute call fuel true pattern replacement target
    | "match", [expr, pattern] =>
      let content ← text expr
      let regex ← regexOf call fuel pattern
      let (start, size) := match regex.search? ⟨content.toList.toArray, false⟩ with
        | some found => (found.start + 1, Number.ofInt (found.stop - found.start : Nat))
        | none => (0, -1.0)
      setValue "RSTART" (.ofNat start)
      setValue "RLENGTH" (.number size)
      return .ofNat start
    | "sprintf", arguments =>
      return .text (← formatted call "sprintf" (← evalAll call fuel arguments))
    | "sin", [expr] => whenNumber Float.sin expr
    | "cos", [expr] => whenNumber Float.cos expr
    | "exp", [expr] => whenNumber Float.exp expr
    | "log", [expr] => whenNumber Float.log expr
    | "sqrt", [expr] => whenNumber Float.sqrt expr
    | "int", [expr] =>
      let value ← number expr
      return .number (((Number.truncated? value).map Number.ofInt).getD value)
    | "atan2", [first, second] =>
      let first ← number first
      return .number (Float.atan2 first (← number second))
    | "rand", [] => return .number (← chance)
    | "srand", arguments =>
      let old := (← get).seed
      let seed ← match arguments with
        | [] => pure 0
        | expr :: _ => whole expr
      modify fun state => { state with seed := seed.natAbs }
      return .ofNat old
    | "systime", [] =>
      let now ← outside (Program.observe fun _ world => world.now)
      return .ofNat (Calendar.clockStart + now / 1000000)
    | "tolower", [expr] => return .text ((← text expr).map Char.toLower)
    | "toupper", [expr] => return .text ((← text expr).map Char.toUpper)
    | "system", [expr] =>
      let command ← text expr
      flush call
      return .ofNat (statusOf (← outside (runCommand call command)))
    | "close", expr :: _ => return .number (Number.ofInt (← closeNamed (← text expr)))
    | "fflush", _ =>
      flush call
      return .ofNat 0
    | name, _ => abort call s!"wrong number of arguments in call to {name}"

/-- Calls a function of the program. A name that is passed also passes the table that it stands
for. -/
def callFunction (call : Call) (fuel : Nat) (name : String) (arguments : List Expr) : Scan Value :=
  match fuel with
  | 0 => return .unset
  | fuel + 1 => do
    outside Program.breathe
    match (← get).functions.find? (·.name == name) with
    | none => abort call s!"function {name} never defined"
    | some function =>
      let values ← evalAll call fuel arguments
      let level := (← get).frames + 1
      let tables ← arguments.mapM fun argument =>
        match argument with
        | .named name => some <$> tableOf name
        | _ => pure none
      let slots := function.parameters.zipIdx.map fun (parameter, place) =>
        let table := ((tables[place]?).getD none).getD s!"{level} {parameter}"
        (parameter, (⟨(values[place]?).getD .unset, table⟩ : Slot))
      let outer := (← get).frame
      modify fun state => { state with frame := slots, frames := level }
      let body : Scan Value := do
        execute call fuel function.body
        return .unset
      let value ← tryCatch body fun jump =>
        match jump with
        | .answer value => pure value
        | jump => throw jump
      modify fun state => { state with
        frame := outer
        tables := slots.foldl (fun tables (parameter, slot) =>
          if slot.table == s!"{level} {parameter}" then tables.erase slot.table else tables)
          state.tables }
      return value

/-- Does what a statement says. -/
def execute (call : Call) (fuel : Nat) (statement : Statement) : Scan Unit :=
  match fuel with
  | 0 => return ()
  | fuel + 1 => do
    match statement with
    | .nothing => return ()
    | .expression value =>
      let _ ← eval call fuel value
    | .print values redirection =>
      let texts ← match values with
        | [] => pure [(← get).record]
        | values =>
          let format ← commonText "OFMT"
          pure ((← evalAll call fuel values).map (Value.toText format))
      let line := (← commonText "OFS").intercalate texts ++ (← commonText "ORS")
      writeWhere call fuel redirection line
    | .format values redirection =>
      let line ← formatted call "printf" (← evalAll call fuel values)
      writeWhere call fuel redirection line
    | .block body => executeAll call fuel body
    | .choice test first second =>
      if (← eval call fuel test).holds then execute call fuel first
      else execute call fuel second
    | .loop test body => turn call fuel (some test) .nothing body
    | .loopAfter body test =>
      if ← inLoop call fuel body then turn call fuel (some test) .nothing body
    | .count start test? next body =>
      execute call fuel start
      turn call fuel test? next body
    | .each name table body =>
      let keys := (← membersOf (← tableOf table)).toList.map (·.1)
      let sorted := keys.mergeSort fun first second => !(second < first)
      turnEach call fuel name sorted body
    | .delete table [] => changeTable (← tableOf table) fun _ => {}
    | .delete table keys =>
      let key ← keyOf (← evalAll call fuel keys)
      changeTable (← tableOf table) (·.erase key)
    | .nextRecord => throw .nextRecord
    | .exit none => throw (.exit none)
    | .exit (some status) =>
      let status := (Number.truncated? (← eval call fuel status).toNumber).getD 0
      throw (.exit (some (status.fmod 256).toNat))
    | .leave => throw .leave
    | .skip => throw .skip
    | .answer none => throw (.answer .unset)
    | .answer (some value) => throw (.answer (← eval call fuel value))

/-- Does what statements say, one after the other. -/
def executeAll (call : Call) (fuel : Nat) (statements : List Statement) : Scan Unit :=
  match fuel with
  | 0 => return ()
  | fuel + 1 =>
    match statements with
    | [] => return ()
    | statement :: rest => do
      execute call fuel statement
      executeAll call fuel rest

/-- Writes a text where a statement says. -/
def writeWhere (call : Call) (fuel : Nat) (redirection : Redirection) (text : String) : Scan Unit :=
  match fuel with
  | 0 => return ()
  | fuel + 1 => do
    match redirection with
    | .none => emit call text
    | .file path => writeTo call (← textOf (← eval call fuel path)) (some Opening.output) text
    | .append path => writeTo call (← textOf (← eval call fuel path)) (some Opening.append) text
    | .command command => writeTo call (← textOf (← eval call fuel command)) none text

/-- Does what the body of a loop says, and answers whether the loop goes on. -/
def inLoop (call : Call) (fuel : Nat) (body : Statement) : Scan Bool :=
  match fuel with
  | 0 => return false
  | fuel + 1 => do
    outside Program.breathe
    let work : Scan Bool := do
      execute call fuel body
      return true
    tryCatch work fun jump =>
      match jump with
      | .leave => pure false
      | .skip => pure true
      | jump => throw jump

/-- Turns a loop as long as its test holds. -/
def turn (call : Call) (fuel : Nat) (test? : Option Expr) (next body : Statement) : Scan Unit :=
  match fuel with
  | 0 => return ()
  | fuel + 1 => do
    let goesOn ← match test? with
      | some test => pure (← eval call fuel test).holds
      | none => pure true
    if goesOn then
      if ← inLoop call fuel body then
        execute call fuel next
        turn call fuel test? next body

/-- Runs the body of a loop for each key. -/
def turnEach (call : Call) (fuel : Nat) (name : String) (keys : List String) (body : Statement) :
    Scan Unit :=
  match fuel with
  | 0 => return ()
  | fuel + 1 =>
    match keys with
    | [] => return ()
    | key :: rest => do
      setValue name (.input key)
      if ← inLoop call fuel body then turnEach call fuel name rest body

end

/-! ## Rules -/

/-- How much a program may do. -/
def effort : Nat := Program.patience

/-- Whether a rule is for the record. `place` is the place of the rule. -/
def isSelected (call : Call) (place : Nat) : Pattern → Scan Bool
  | .begin | .finish => return false
  | .always => return true
  | .single test => return (← eval call effort test).holds
  | .range first last => do
    let isInside := (← get).ranges.contains place
    let begins ← if isInside then pure true else pure (← eval call effort first).holds
    if !begins then return false
    let isLast := (← eval call effort last).holds
    modify fun state => { state with
      ranges := if isLast then state.ranges.filter (· != place)
        else place :: state.ranges.filter (· != place) }
    return true

/-- Does what a rule says. -/
def act (call : Call) (rule : Rule) : Scan Unit :=
  execute call effort (rule.action?.getD (.print [] .none))

/-- Runs the rules from a place on for the record. -/
def runRules (call : Call) : Nat → List Rule → Scan Unit
  | _, [] => return ()
  | place, rule :: rest => do
    if ← isSelected call place rule.pattern then act call rule
    runRules call (place + 1) rest

/-- Runs the rules for record after record. -/
def runRecords (call : Call) (rules : List Rule) : Nat → Scan Unit
  | 0 => return ()
  | fuel + 1 => do
    match ← nextRecord call Program.patience with
    | none => return ()
    | some record =>
      outside Program.breathe
      setRecord call record
      countRecord true
      tryCatch (runRules call 0 rules) fun jump =>
        match jump with
        | .nextRecord => pure ()
        | jump => throw jump
      runRecords call rules fuel

/-- Runs a part of a program, and answers the status if the part ends it. -/
def part (work : Scan Unit) (status? : Option Nat) : Scan (Option (Option Nat)) := do
  let whole : Scan (Option (Option Nat)) := do
    work
    return none
  tryCatch whole fun jump =>
    match jump with
    | .exit found? => pure (some (found?.or status?))
    | _ => pure none

/-- Runs a program, and answers its status. -/
def runScript (call : Call) (script : Script) : Scan Nat := do
  let isBegin (rule : Rule) : Bool := rule.pattern matches .begin
  let isFinish (rule : Rule) : Bool := rule.pattern matches .finish
  let first := script.rules.filter isBegin
  let last := script.rules.filter isFinish
  let reads := script.rules.any fun rule => !isBegin rule
  let started ← part (first.forM (act call)) none
  let ended ← match started with
    | some status? => pure (some status?)
    | none =>
      if reads then part (runRecords call script.rules Program.patience) none
      else pure none
  let finished ← part (last.forM (act call)) (ended.getD none)
  for name in (← get).outputs.map (·.name) do
    let _ ← closeNamed name
  flush call
  return ((finished.getD (ended.getD none)).getD 0)

end EventHooks.Utility.Scanner
