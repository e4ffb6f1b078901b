import EventHooks.Text.Layout
import EventHooks.Utility.Call

/-!
# Utilities that pass streams on

Files and the standard input are copied, whole or in part, with or without marks.
-/
namespace EventHooks.Utility

/-! ## Amounts -/

/-- What a number is multiplied by if a letter follows it. -/
def multiplier? : List Char → Option Nat
  | [] => some 1
  | ['b'] => some 512
  | ['k', 'B'] | ['K', 'B'] => some 1000
  | ['k'] | ['K'] | ['K', 'i', 'B'] => some 1024
  | ['M', 'B'] => some 1000000
  | ['m'] | ['M'] | ['M', 'i', 'B'] => some 1048576
  | ['G', 'B'] => some 1000000000
  | ['G'] | ['G', 'i', 'B'] => some 1073741824
  | _ => none

/-- The amount that a text writes in decimal digits and perhaps a letter. -/
def amount? (text : List Char) : Option Nat :=
  let digits := text.takeWhile (·.isDigit)
  if digits.isEmpty then none
  else (multiplier? (text.drop digits.length)).map (FloatText.digitsValue 10 digits * ·)

/-- An amount with a sign in front, if there is one. -/
def signedAmount? (text : String) : Option (Option Char × Nat) :=
  match text.toList with
  | '-' :: rest => (amount? rest).map (some '-', ·)
  | '+' :: rest => (amount? rest).map (some '+', ·)
  | chars => (amount? chars).map (none, ·)

/-- The first option that is a digit. `isValue` tells that an argument is the value of the option
before it. -/
def digitOption? : Bool → List String → Option Char
  | _, [] | _, "--" :: _ => none
  | true, _ :: rest => digitOption? false rest
  | false, word :: rest =>
    match word.toList with
    | ['-', 'n'] | ['-', 'c'] => digitOption? true rest
    | '-' :: c :: _ => if c.isDigit then some c else digitOption? false rest
    | _ => digitOption? false rest

/-- The first argument as an option, if it is a dash with digits. -/
def digitsOption (call : Call) : Program Call := do
  let wrong {α : Type} (letter : Char) : Program α :=
    call.misuse s!"invalid trailing option -- {letter}"
  let call ← match call.arguments with
    | word :: rest =>
      match word.toList with
      | '-' :: digit :: more =>
        if digit.isDigit then
          let digits := (digit :: more).takeWhile (·.isDigit)
          let letters := (digit :: more).drop digits.length
          match letters.find? (!"ckmblqvz".toList.contains ·) with
          | some letter => wrong letter
          | none =>
            let unit := letters.filter "ckmb".toList.contains
            let others := letters.filter "qvz".toList.contains
            let option := if unit.isEmpty then "-n" else "-c"
            let scale := String.ofList (unit.filter (· != 'c'))
            let flags := if others.isEmpty then [] else ["-" ++ String.ofList others]
            pure { call with
              arguments := [option, String.ofList digits ++ scale] ++ flags ++ rest }
        else pure call
      | _ => pure call
    | [] => pure call
  match digitOption? false call.arguments with
  | some digit => wrong digit
  | none => return call

/-! ## Copying with marks -/

/-- How copied lines are marked. -/
structure Marks where
  numbersAll : Bool
  numbersFull : Bool
  squeezes : Bool
  endings : Bool
  tabs : Bool
  controls : Bool

/-- A byte as visible characters. -/
def Marks.show (marks : Marks) (byte : UInt8) : List Char :=
  let code := byte.toNat
  if code = 9 then if marks.tabs then ['^', 'I'] else ['\t']
  else if !marks.controls then [Char.ofNat code]
  else
    let low := code % 128
    let shown := if low < 32 then ['^', Char.ofNat (low + 64)]
      else if low = 127 then ['^', '?']
      else [Char.ofNat low]
    if 128 ≤ code then 'M' :: '-' :: shown else shown

/-- A line with its marks. -/
def Marks.line (marks : Marks) (line : Bytes) (isWhole : Bool) : List Char :=
  let shown := line.flatMap marks.show
  if !isWhole then shown
  else if marks.endings then
    let shown := if shown.getLast? == some '\r' then shown.dropLast ++ ['^', 'M'] else shown
    shown ++ ['$', '\n']
  else shown ++ ['\n']

/-- A number in front of a line. -/
def numberedStart (number : Nat) : String :=
  { width := 6 : Layout }.pad (toString number) ++ "\t"

/-- Where copying stands: how many lines were numbered, whether the present line has begun, and
whether the one before was empty. -/
structure CopyState where
  count : Nat := 0
  isInside : Bool := false
  wasEmpty : Bool := false

/-- Copies a line with marks. -/
def copyLine (call : Call) (marks : Marks) (state : CopyState) (line : Bytes) (isWhole : Bool) :
    Gathering (CopyState × Bool) := do
  let isEmpty := line.isEmpty && isWhole && !state.isInside
  if marks.squeezes && isEmpty && state.wasEmpty then return (state, true)
  let isNumbered := !state.isInside &&
    if marks.numbersFull then !isEmpty else marks.numbersAll
  let count := if isNumbered then state.count + 1 else state.count
  let start := if isNumbered then numberedStart count else ""
  call.emitText (start ++ String.ofList (marks.line line isWhole))
  return (⟨count, !isWhole, isEmpty⟩, true)

/-- Copies inputs in some way. One to which its own contents would be written is left out. -/
def copyEach {m : Type → Type} [Monad m] [MonadLiftT Program m] (call : Call)
    (paths : List String) (copy : Nat → m (Option Errno)) : m Nat :=
  call.overInputs paths fun path handle => do
    if (← (call.fedBack? handle : Program _)).any (0 < ·) then
      call.complain s!"{quotedIfNeeded path}: input file is output file"
      return 1
    else
      match ← copy handle with
      | some errno =>
        call.complain s!"{quotedIfNeeded path}: {errno.words}"
        return 1
      | none => return 0

/-- Copies inputs with marks. -/
def copyMarked (call : Call) (marks : Marks) (paths : List String) : Program Nat :=
  call.gathering do
    let body : StateT CopyState Gathering Nat :=
      copyEach call paths fun handle => do
        let state ← get
        let (state, errno?) ← (foldLines handle (copyLine call marks) state : Gathering _)
        set state
        return errno?
    return (← body.run {}).1

/-- Copies files to the standard output. -/
def cat : Tool := fun call => do
  let known : Known :=
    { letters := "AbeEnstTuv"
      long := [("number-nonblank", 'b'), ("number", 'n'), ("squeeze-blank", 's'),
        ("show-nonprinting", 'v'), ("show-ends", 'E'), ("show-tabs", 'T'), ("show-all", 'A')] }
  let (options, paths) ← call.parse known
  let has (letters : String) : Bool := letters.toList.any (given options)
  let marks : Marks :=
    { numbersAll := has "n", numbersFull := has "b", squeezes := has "s", endings := has "AeE",
      tabs := has "AtT", controls := has "AetTv" && has "Aetv" }
  if (← Program.handle? 1).isNone then
    call.complain s!"standard output: {Errno.badDescriptor.words}"
    call.quit 1
  let copyPlain : Program Nat :=
    copyEach call paths fun handle => do
      let (_, errno?) ← foldPieces handle (fun (_ : Unit) bytes => do
        call.put bytes
        return ((), true)) Program.patience ()
      return errno?
  let status ← if has "AbeEnstTv" then copyMarked call marks paths else copyPlain
  if (paths.isEmpty || paths.contains "-") && (← Program.handle? 0).isNone then
    call.complain s!"closing standard input: {Errno.badDescriptor.words}"
    return 1
  else return status

/-- Copies the standard input to the standard output and to files. An output that finds no room gets
nothing more. -/
def tee : Tool := fun call => do
  let known : Known := { letters := "aip", long := [("append", 'a'), ("ignore-interrupts", 'i')] }
  let (options, paths) ← call.parse known
  let opening := if given options 'a' then Opening.append else Opening.output
  let openOne (path : String) : Program (Option (String × Nat)) := do
    match ← Program.openPath path opening with
    | .ok handle => return some (quotedIfNeeded path, handle)
    | .error errno =>
      call.complain s!"{quotedIfNeeded path}: {errno.words}"
      return none
  let opened ← paths.mapM openOne
  let copy (outputs : List (String × Option Nat)) (bytes : Bytes) :
      Program (List (String × Option Nat)) :=
    outputs.filterM fun (name, handle?) => do
      let result ← match handle? with
        | some handle => Program.writeTo handle Program.patience bytes
        | none => pure (.error .badDescriptor)
      match result with
      | .ok () => return true
      | .error errno =>
        call.complain s!"{name}: {errno.words}"
        return false
  let start := ("'standard output'", ← Program.handle? 1) ::
    (opened.filterMap id).map fun (name, handle) => (name, some handle)
  match ← Program.handle? 0 with
  | none => return 1
  | some input =>
    let (outputs, _) ← foldPieces input (fun outputs bytes =>
      return (← copy outputs bytes, true)) Program.patience start
    return if opened.all (·.isSome) && outputs.length == start.length then 0 else 1

/-! ## The first part -/

/-- The byte that ends lines. -/
def lineEnding (options : List (Char × String)) : UInt8 :=
  if given options 'z' then 0 else 10

/-- The bytes up to the end of some number of lines, how many of these were found, and the bytes
behind. -/
def splitLines (ending : UInt8) (count : Nat) (bytes : Bytes) : Bytes × Nat × Bytes :=
  let step (state : List UInt8 × Nat × List UInt8) (byte : UInt8) :=
    let (before, found, behind) := state
    if found < count then (byte :: before, if byte == ending then found + 1 else found, behind)
    else (before, found, byte :: behind)
  let (before, found, behind) := bytes.foldl step ([], 0, [])
  (before.reverse, found, behind.reverse)

/-- Gives bytes that were read too much back to a file. -/
def unread (handle count : Nat) : Program Unit :=
  Program.change fun _ world =>
    match world.handles[handle]? with
    | some (.file location offset access) =>
      world.setHandle handle (.file location (offset - count) access)
    | _ => world

/-- Copies the first bytes of a handle. -/
def copyBytes (call : Call) (handle : Nat) : Nat → Nat → Gathering (Option Errno)
  | 0, _ => return none
  | fuel + 1, count => do
    if count = 0 then return none
    match ← (Program.readFrom handle (min count 8192) Program.patience : Program _) with
    | .error errno => return some errno
    | .ok [] => return none
    | .ok bytes =>
      call.emit bytes
      copyBytes call handle fuel (count - bytes.length)

/-- Copies the first lines of a handle. -/
def copyLines (call : Call) (ending : UInt8) (handle count : Nat) : Gathering (Option Errno) := do
  if count = 0 then return none
  let (_, errno?) ← foldPieces handle (fun left bytes => do
    let (before, found, behind) := splitLines ending left bytes
    call.emit before
    if found < left then return (left - found, true)
    else
      unread handle behind.length
      return (0, false)) Program.patience count
  return errno?

/-- What stands above the part of a file among several. -/
def partTitle (isFirst : Bool) (path : String) : String :=
  let name := if path == "-" then "standard input" else path
  (if isFirst then "" else "\n") ++ s!"==> {name} <==\n"

/-- Copies a part of each input, perhaps below a title. -/
def copyParts (call : Call) (options : List (Char × String)) (paths : List String)
    (copy : Nat → Gathering (Option Errno)) : Program Nat :=
  call.gathering do
    let hasTitles := (lastOf? options ['q', 'v']).elim (decide (1 < paths.length)) (· == 'v')
    let body : StateT Bool Gathering Nat :=
      call.overInputs paths (fun path handle => do
        if hasTitles then
          let title := partTitle (← get) path
          (call.emitText title : Gathering _)
        set false
        match ← (copy handle : Gathering _) with
        | some errno =>
          call.complain s!"error reading {quoted path}: {errno.words}"
          return 1
        | none => return 0) fun path => s!"cannot open {quoted path} for reading"
    return (← body.run true).1

/-- Writes the first lines or bytes of files. -/
def head : Tool := fun call => do
  let known : Known :=
    { letters := "c:n:qvz", long := [("bytes", 'c'), ("lines", 'n'), ("quiet", 'q'),
        ("silent", 'q'), ("verbose", 'v'), ("zero-terminated", 'z')] }
  let (options, paths) ← (← digitsOption call).parse known
  let inBytes := lastOf? options ['c', 'n'] == some 'c'
  let text := (valueOf? options (if inBytes then 'c' else 'n')).getD "10"
  match signedAmount? text with
  | none =>
    let unit := if inBytes then "bytes" else "lines"
    call.complain s!"invalid number of {unit}: {quoted text}"
    return 1
  | some (some '-', count) =>
    copyParts call options paths fun handle => do
      let (pieces, errno?) ← foldPieces handle (fun (pieces : List Bytes) bytes =>
        (return (bytes :: pieces, true) : Gathering _)) Program.patience []
      let content := pieces.reverse.flatten
      if inBytes then call.emit (content.take (content.length - count))
      else
        let total := (linesOf content (lineEnding options)).length
        let (before, _, _) := splitLines (lineEnding options) (total - count) content
        if count < total then call.emit before
      return errno?
  | some (_, count) =>
    copyParts call options paths fun handle =>
      if inBytes then copyBytes call handle Program.patience count
      else copyLines call (lineEnding options) handle count

/-! ## The last part -/

/-- The last bytes or lines, or those from a place on. -/
def lastPart (ending : UInt8) (inBytes fromStart : Bool) (count : Nat) (content : Bytes) : Bytes :=
  if inBytes then
    if fromStart then content.drop (count - 1) else content.drop (content.length - count)
  else
    let dropped := if fromStart then count - 1 else (linesOf content ending).length - count
    if dropped = 0 then content else (splitLines ending dropped content).2.2

/-- An amount that stands alone: its sign, its digits, the letter of its unit, and whether more is
waited for. -/
def bareAmount? (word : String) : Option (List String) :=
  match word.toList with
  | sign :: chars =>
    let digits := chars.takeWhile (·.isDigit)
    let unit := (chars.drop digits.length).takeWhile fun c => c == 'b' || c == 'c' || c == 'l'
    let rest := chars.drop (digits.length + unit.length)
    if (sign != '-' && sign != '+') || 1 < unit.length || (rest != [] && rest != ['f']) ||
        (sign == '-' && digits.isEmpty && unit != ['b'] && unit != ['l']) then none
    else
      let option := if unit == [] || unit == ['l'] then "-n" else "-c"
      let amount := (if digits.isEmpty then ['1', '0'] else digits) ++ unit.filter (· == 'b')
      let value := String.ofList (if sign == '+' then '+' :: amount else amount)
      some ([option, value] ++ if rest.isEmpty then [] else ["-f"])
  | [] => none

/-- The first argument as options, if it is an amount that stands alone before one input at most. -/
def bareAmountOption (call : Call) : Program Call := do
  match call.arguments with
  | word :: rest =>
    let isAlone := match rest with
      | [] | ["--"] | ["--", _] | ["-"] => true
      | [path] => !path.startsWith "-"
      | _ => false
    match bareAmount? word, isAlone with
    | some options, true => return { call with arguments := options ++ rest }
    | _, _ => pure ()
  | [] => pure ()
  match digitOption? false call.arguments with
  | some digit =>
    call.complain s!"option used in invalid context -- {digit}"
    call.quit 1
  | none => return call

/-- Goes on with what is added to a file. -/
def follow (call : Call) (handle : Nat) : Nat → Gathering (Option Errno)
  | 0 => return none
  | fuel + 1 => do
    call.flush
    (Program.waitUntil none fun _ world =>
      match world.handles[handle]? with
      | some (.file location offset _) => offset < (world.fileContent location).length
      | _ => false : Program _)
    let (_, errno?) ← foldPieces handle (fun (_ : Unit) bytes => do
      call.emit bytes
      return ((), true)) Program.patience ()
    match errno? with
    | some errno => return some errno
    | none => follow call handle fuel

/-- Writes the last lines or bytes of files. -/
def tail : Tool := fun call => do
  let known : Known :=
    { letters := "c:n:fFqs:vz", long := [("bytes", 'c'), ("lines", 'n'), ("quiet", 'q'),
        ("silent", 'q'), ("verbose", 'v'), ("follow", 'f'), ("zero-terminated", 'z')] }
  let (options, paths) ← (← bareAmountOption call).parse known
  let inBytes := lastOf? options ['c', 'n'] == some 'c'
  let text := (valueOf? options (if inBytes then 'c' else 'n')).getD "10"
  match signedAmount? text with
  | none =>
    let unit := if inBytes then "bytes" else "lines"
    call.complain s!"invalid number of {unit}: {quoted text}"
    return 1
  | some (sign?, count) =>
    copyParts call options paths fun handle => do
      let (pieces, errno?) ← foldPieces handle (fun (pieces : List Bytes) bytes =>
        (return (bytes :: pieces, true) : Gathering _)) Program.patience []
      let content := pieces.reverse.flatten
      call.emit (lastPart (lineEnding options) inBytes (sign? == some '+') count content)
      if errno?.isNone && (given options 'f' || given options 'F') then
        follow call handle Program.patience
      else return errno?

/-! ## Words over and over -/

/-- Writes bytes as long as there is room. -/
def putForever (call : Call) (bytes : Bytes) : Nat → Program Nat
  | 0 => return 0
  | fuel + 1 => do
    call.put bytes
    putForever call bytes fuel

/-- Writes a line over and over. -/
def yes : Tool := fun call => do
  let words := if call.arguments.isEmpty then ["y"] else call.arguments
  let line := ByteText.toBytes (" ".intercalate words ++ "\n")
  let block := (List.replicate (1024 / line.length + 1) line).flatten
  match ← Program.write 1 block with
  | .ok () => putForever call block Program.patience
  | .error errno =>
    call.complain s!"standard output: {errno.words}"
    return 1

end EventHooks.Utility
