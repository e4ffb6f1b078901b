import EventHooks.Utility.FileTree
import EventHooks.Utility.Stream

/-!
# Utilities that treat files by size

Files are copied in blocks, from one place on to another, or are given a size. Reading and writing
may go by blocks of different sizes: what is read waits until a block of the output is full.
-/
namespace EventHooks.Utility

/-! ## Copying in blocks -/

/-- How many blocks have passed, full ones and others. -/
structure BlockCount where
  full : Nat := 0
  short : Nat := 0

/-- Takes in a block. -/
def BlockCount.add (count : BlockCount) (size length : Nat) : BlockCount :=
  if length = size then { count with full := count.full + 1 }
  else { count with short := count.short + 1 }

/-- How blocks are copied: the names and handles of the two sides, the sizes of blocks, how many
are read, and what becomes of bytes. Blocks that keep their bounds are written as they are read. -/
structure BlockCopy where
  inputName : String
  input? : Option Nat
  inputSize : Nat
  outputName : String
  output? : Option Nat
  outputSize : Nat
  count? : Option Nat
  conversions : List String
  keepsBounds : Bool

/-- Where copying stands. -/
structure BlockState where
  read : BlockCount := {}
  written : BlockCount := {}
  bytes : Nat := 0
  waiting : Bytes := []
  status : Nat := 0

namespace BlockCopy

/-- What a block of the input becomes. -/
def converted (copy : BlockCopy) (bytes : Bytes) : Bytes :=
  let bytes := if copy.conversions.contains "sync" then
      bytes ++ List.replicate (copy.inputSize - bytes.length) 0
    else bytes
  let bytes := if copy.conversions.contains "ucase" then
      bytes.map fun byte => if 97 ≤ byte && byte ≤ 122 then byte - 32 else byte
    else bytes
  if copy.conversions.contains "lcase" then
    bytes.map fun byte => if 65 ≤ byte && byte ≤ 90 then byte + 32 else byte
  else bytes

/-- Writes a block. -/
def writeBlock (copy : BlockCopy) (call : Call) (state : BlockState) (block : Bytes) :
    Program BlockState := do
  let result ← match copy.output? with
    | some handle => Program.writeTo handle Program.patience block
    | none => pure (.error .badDescriptor)
  match result with
  | .ok () =>
    return { state with
      written := state.written.add copy.outputSize block.length
      bytes := state.bytes + block.length }
  | .error errno =>
    call.complain s!"error writing {quoted copy.outputName}: {errno.words}"
    return { state with status := 1, waiting := [] }

/-- Writes all blocks that are full. -/
def writeFull (copy : BlockCopy) (call : Call) : Nat → BlockState → Program BlockState
  | 0, state => return state
  | fuel + 1, state => do
    if state.status != 0 || state.waiting.length < copy.outputSize then return state
    let state' := { state with waiting := state.waiting.drop copy.outputSize }
    let state ← copy.writeBlock call state' (state.waiting.take copy.outputSize)
    copy.writeFull call fuel state

/-- Copies blocks until the input ends, or as many as are asked for. -/
def run (copy : BlockCopy) (call : Call) : Nat → BlockState → Program BlockState
  | 0, state => return state
  | fuel + 1, state => do
    if state.status != 0 || copy.count? == some (state.read.full + state.read.short) then
      return state
    let result ← match copy.input? with
      | some handle => Program.readFrom handle copy.inputSize Program.patience
      | none => pure (.error .badDescriptor)
    match result with
    | .error errno =>
      call.complain s!"error reading {quoted copy.inputName}: {errno.words}"
      return { state with status := 1 }
    | .ok [] => return state
    | .ok bytes =>
      let state := { state with read := state.read.add copy.inputSize bytes.length }
      let block := copy.converted bytes
      let state ← if copy.keepsBounds then copy.writeBlock call state block
        else
          copy.writeFull call (state.waiting.length + block.length + 1)
            { state with waiting := state.waiting ++ block }
      copy.run call fuel state

end BlockCopy

/-- A size as a number with a unit, where a step between units has some size. The number is that of
`size` over `scale`, to the nearest tenth below ten and to the nearest whole one above. -/
def sizeInUnits (step size : Nat) (scale : Nat) : List String → String
  | [] => toString size
  | unit :: units =>
    let tenths := (20 * size + scale) / (2 * scale)
    let whole := (2 * size + scale) / (2 * scale)
    if tenths < 100 then s!"{tenths / 10}.{tenths % 10} {unit}"
    else if whole < step || units.isEmpty then s!"{whole} {unit}"
    else sizeInUnits step size (scale * step) units

/-- What is said of copied bytes. -/
def copiedText (bytes : Nat) : String :=
  let decimal (size : Nat) : String := sizeInUnits 1000 size 1000 ["kB", "MB", "GB"]
  let binary := sizeInUnits 1024 bytes 1024 ["KiB", "MiB", "GiB"]
  let sizes := if bytes < 1000 then ""
    else if bytes < 1024 then s!" ({decimal bytes})"
    else s!" ({decimal bytes}, {binary})"
  let unit := if bytes = 1 then "byte" else "bytes"
  s!"{bytes} {unit}{sizes} copied, 5e-05 s, {decimal (bytes * 20000)}/s"

/-- The operands of a copy by their names. -/
def blockOperands : List String :=
  ["if", "of", "bs", "ibs", "obs", "cbs", "count", "skip", "seek", "conv", "status", "iflag",
    "oflag"]

/-- The number that an operand gives: amounts that are multiplied. -/
def operandNumber? (text : String) : Option Nat := do
  let factors ← (text.splitOn "x").mapM fun factor => amount? factor.toList
  return factors.foldl (· * ·) 1

/-- Moves the place in an open file at which reading or writing goes on. -/
def seekTo (handle offset : Nat) : Program Unit :=
  Program.change fun _ world =>
    match world.handles[handle]? with
    | some (.file location _ access) => world.setHandle handle (.file location offset access)
    | _ => world

/-- Copies bytes in blocks. -/
def dd : Tool := fun call => do
  let pairs := call.arguments.map fun word =>
    let name := word.toList.takeWhile (· != '=')
    (word, String.ofList name, String.ofList (word.toList.drop (name.length + 1)))
  for (word, name, value) in pairs do
    if !word.toList.contains '=' || !blockOperands.contains name then
      call.misuse s!"unrecognized operand {quoted word}"
    else if ["bs", "ibs", "obs", "cbs", "count", "skip", "seek"].contains name then
      let isSize := ["bs", "ibs", "obs", "cbs"].contains name
      if (operandNumber? value).all fun number => isSize && number = 0 then
        call.complain s!"invalid number: {quoted value}"
        call.quit 1
    else if name == "conv" then
      let known := ["ucase", "lcase", "sync", "notrunc", "noerror", "fsync", "fdatasync",
        "excl", "nocreat"]
      if let some other := (value.splitOn ",").find? (!known.contains ·) then
        call.misuse s!"invalid conversion: {quoted other}"
    else if name == "status" then
      let known := ["none", "noxfer", "progress"]
      if !known.contains value then call.misuse s!"invalid status level: {quoted value}"
  let value? (name : String) : Option String :=
    ((pairs.filter (·.2.1 == name)).getLast?).map (·.2.2)
  let number? (name : String) : Option Nat := (value? name).bind operandNumber?
  let conversions := (pairs.filter (·.2.1 == "conv")).flatMap (·.2.2.splitOn ",")
  let opened (name? : Option String) (descriptor : Nat) (opening : Opening) :
      Program (Option Nat) := do
    match name? with
    | none => Program.handle? descriptor
    | some name =>
      match ← Program.openPath name opening with
      | .ok handle => return some handle
      | .error errno =>
        call.complain s!"failed to open {quoted name}: {errno.words}"
        call.quit 1
  let inputSize := ((number? "bs").or (number? "ibs")).getD 512
  let outputSize := ((number? "bs").or (number? "obs")).getD 512
  let input? ← opened (value? "if") 0 Opening.input
  let seek := (number? "seek").getD 0 * outputSize
  let empties := !conversions.contains "notrunc"
  let output? ← opened (value? "of") 1
    { writes := true, creates := !conversions.contains "nocreat"
      empties := empties && seek = 0, onlyNew := conversions.contains "excl" }
  if let some name := value? "of" then
    if let .ok (.present location (.file content executable)) := ← placeOf name then
      if empties && seek < content.length then
        putEntry location (.file (content.take seek) executable)
  if let some handle := output? then
    if seek != 0 then seekTo handle seek
  let copy : BlockCopy :=
    { inputName := (value? "if").getD "standard input", input? := input?, inputSize := inputSize
      outputName := (value? "of").getD "standard output", output? := output?
      outputSize := outputSize, count? := number? "count", conversions := conversions
      keepsBounds := (number? "bs").isSome }
  let skip := (number? "skip").getD 0
  let skipped ← { copy with count? := some skip, output? := none, keepsBounds := false
                            outputSize := skip * inputSize + 1 }.run call (skip + 1) {}
  if skipped.read.full + skipped.read.short < skip then
    call.complain s!"{copy.inputName}: cannot skip to specified offset"
  let state ← copy.run call Program.patience {}
  let state ← if state.waiting.isEmpty then pure state
    else copy.writeBlock call { state with waiting := [] } state.waiting
  if value? "status" != some "none" then
    let say (text : String) : Program Unit := do
      let _ ← Program.write 2 (ByteText.toBytes (text ++ "\n"))
    say s!"{state.read.full}+{state.read.short} records in"
    say s!"{state.written.full}+{state.written.short} records out"
    if value? "status" != some "noxfer" then say (copiedText state.bytes)
  return state.status

/-! ## Giving sizes -/

/-- The size that a file takes on from its own size, as a sign says. -/
def resized (sign : Char) (amount size : Nat) : Nat :=
  match sign with
  | '+' => size + amount
  | '-' => size - amount
  | '<' => min size amount
  | '>' => max size amount
  | '/' => size / amount * amount
  | '%' => (size + amount - 1) / amount * amount
  | _ => amount

/-- Gives files a size. -/
def truncate : Tool := fun call => do
  let known : Known :=
    { letters := "cor:s:", long := [("no-create", 'c'), ("io-blocks", 'o'), ("reference", 'r'),
        ("size", 's')] }
  let (options, paths) ← call.parse known
  let (sign, digits) := match ((valueOf? options 's').getD "").toList.dropWhile (· == ' ') with
    | sign :: digits => if "+-<>/%".toList.contains sign then (sign, digits)
      else (' ', sign :: digits)
    | [] => (' ', [])
  let amount ← match valueOf? options 's', amount? digits with
    | none, _ => pure 0
    | some _, some amount => pure amount
    | some text, none =>
      call.complain s!"Invalid number: {quoted text}"
      call.quit 1
  if (sign == '/' || sign == '%') && amount = 0 then
    call.complain "division by zero"
    call.quit 1
  let base? ← match valueOf? options 'r' with
    | none => pure none
    | some path =>
      match ← nodeAt path with
      | .ok (.file content _) => pure (some content.length)
      | .ok _ => pure (some 0)
      | .error errno =>
        call.complain s!"cannot stat {quoted path}: {errno.words}"
        call.quit 1
  if !given options 's' && base?.isNone then
    call.misuse "you must specify either '--size' or '--reference'"
  if paths.isEmpty then call.misuse "missing file operand"
  forEach (fun path => do
    let opening : Opening := { writes := true, creates := !given options 'c' }
    match ← Program.openPath path opening with
    | .error errno =>
      if given options 'c' && errno = .noEntry then return 0
      call.complain s!"cannot open {quoted path} for writing: {errno.words}"
      return 1
    | .ok _ =>
      match ← placeOf path with
      | .ok (.present location (.file content executable)) =>
        let base := base?.getD content.length
        let size := if given options 's' then resized sign amount base else base
        let zeros := List.replicate (size - content.length) 0
        putEntry location (.file (content.take size ++ zeros) executable)
        return 0
      | _ =>
        call.complain s!"failed to truncate {quoted path}: {Errno.invalidArgument.words}"
        return 1) paths 0

end EventHooks.Utility
