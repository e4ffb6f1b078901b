import EventHooks.Text.CharClass
import EventHooks.Text.Layout
import EventHooks.Utility.Stream

/-!
# Utilities that count

Lines, words and bytes are counted, lines are numbered, and numbers are counted off.
-/
namespace EventHooks.Utility

/-! ## Counting what inputs hold -/

/-- How much an input holds. -/
structure Tally where
  lines : Nat := 0
  words : Nat := 0
  bytes : Nat := 0
  longest : Nat := 0
  inWord : Bool := false
  column : Nat := 0

namespace Tally

/-- Takes in a byte. -/
def next (tally : Tally) (byte : UInt8) : Tally :=
  let isSpace := CharClass.isSpace (Char.ofNat byte.toNat)
  let isPrinted := 32 ≤ byte && byte < 127
  let column := if byte == 10 || byte == 13 || byte == 12 then 0
    else if byte == 9 then (tally.column / 8 + 1) * 8
    else if isPrinted then tally.column + 1
    else tally.column
  { lines := if byte == 10 then tally.lines + 1 else tally.lines
    words := if !isSpace && isPrinted && !tally.inWord then tally.words + 1 else tally.words
    bytes := tally.bytes + 1
    longest := max tally.longest column
    inWord := if isSpace then false else tally.inWord || isPrinted
    column := column }

/-- What two inputs hold together. -/
def add (first second : Tally) : Tally :=
  { lines := first.lines + second.lines
    words := first.words + second.words
    bytes := first.bytes + second.bytes
    longest := max first.longest second.longest }

/-- The counts that are asked for. -/
def counts (tally : Tally) (options : List (Char × String)) : List Nat :=
  let all := ! ['c', 'l', 'L', 'm', 'w'].any (given options)
  (if all || given options 'l' then [tally.lines] else []) ++
    (if all || given options 'w' then [tally.words] else []) ++
    (if given options 'm' then [tally.bytes] else []) ++
    (if all || given options 'c' then [tally.bytes] else []) ++
    (if given options 'L' then [tally.longest] else [])

end Tally

/-- The size of a file, if a handle or a path is one. -/
def regularSize? (call : Call) (path : String) : Program (Option (Option Nat)) := do
  if path == "-" || path.isEmpty then
    Program.observe fun process world =>
      (world.handleOf process 0).map fun handle =>
        match world.handles[handle]? with
        | some (Handle.file location ..) => some (world.fileContent location).length
        | _ => none
  else
    let _ := call
    let files ← Program.seenFiles
    return match files.status (ByteText.toText path) with
      | .ok (.file content _) => some (some content.length)
      | .ok _ => some none
      | .error _ => none

/-- How wide counts are: as the sizes of all files together, or wider if an input is none. -/
def countWidth (call : Call) (isSingle : Bool) (paths : List String) : Program Nat := do
  if isSingle then return 1
  let sizes ← paths.mapM (regularSize? call)
  let total := (sizes.filterMap fun size? => size?.bind (·)).foldl (· + ·) 0
  let isOther := sizes.any (· == some none)
  return max (Nat.toDigits 10 total).length (if isOther then 7 else 1)

/-- Counts lines, words and bytes. -/
def wc : Tool := fun call => do
  let call := call.byLines
  let known : Known :=
    { letters := "clLmw", long := [("bytes", 'c'), ("chars", 'm'), ("lines", 'l'),
        ("words", 'w'), ("max-line-length", 'L')] }
  let (options, paths) ← call.parse known
  let inputs := if paths.isEmpty then ["-"] else paths
  let isSingle := inputs.length == 1 && (({} : Tally).counts options).length == 1
  let width ← countWidth call isSingle inputs
  let line (tally : Tally) (name : String) : String :=
    let shown := (tally.counts options).map fun count =>
      { width := width : Layout }.pad (toString count)
    " ".intercalate shown ++ (if name.isEmpty then "" else " " ++ name) ++ "\n"
  call.gathering do
    let body : StateT Tally Gathering Nat :=
      call.overInputs inputs fun path handle => do
        let (tally, errno?) ← (foldPieces handle (fun (tally : Tally) bytes =>
          return (bytes.foldl Tally.next tally, true)) Program.patience ({} : Tally) :
            Gathering _)
        if let some errno := errno? then call.complain s!"{quotedIfNeeded path}: {errno.words}"
        modify (·.add tally)
        (call.emitText (line tally (if paths.isEmpty then "" else path)) : Gathering _)
        return if errno?.isSome then 1 else 0
    let (status, total) ← body.run {}
    if 1 < inputs.length then call.emitText (line total "total")
    return status

/-! ## Numbering lines -/

/-- Writes lines with numbers. -/
def nl : Tool := fun call => do
  let known : Known :=
    { letters := "b:d:f:h:i:l:n:ps:v:w:"
      long := [("body-numbering", 'b'), ("number-separator", 's'), ("number-width", 'w'),
        ("starting-line-number", 'v'), ("line-increment", 'i'), ("number-format", 'n')] }
  let (options, paths) ← call.parse known
  let amountOf (letter : Char) (otherwise : Nat) : Nat :=
    ((valueOf? options letter).bind (·.toNat?)).getD otherwise
  let separator := (valueOf? options 's').getD "\t"
  let format := (valueOf? options 'n').getD "rn"
  let layout : Layout :=
    { width := amountOf 'w' 6, left := format == "ln", zeros := format == "rz" }
  let style := (valueOf? options 'b').getD "t"
  call.gathering do
    let body : StateT Nat Gathering Nat :=
      call.overInputs paths fun path handle => do
        let start ← get
        let (number, errno?) ← (foldLines handle (fun (number : Nat) line _ => do
          let isNumbered := style == "a" || (style != "n" && !line.isEmpty)
          let lead := if isNumbered then layout.integer (number : Int) ++ separator
            else String.ofList (List.replicate (layout.width + separator.length) ' ')
          call.emit (ByteText.toBytes lead ++ line ++ [10])
          return (if isNumbered then number + amountOf 'i' 1 else number, true)) start :
            Gathering _)
        set number
        if let some errno := errno? then
          call.complain s!"{quotedIfNeeded path}: {errno.words}"
          return 1
        else return 0
    return (← body.run (amountOf 'v' 1)).1

/-! ## Counting off -/

/-- A decimal number: an integer and how many of its digits stand behind the point. -/
structure Decimal where
  digits : Int
  places : Nat

namespace Decimal

/-- The decimal number that a text writes. -/
def read? (text : String) : Option Decimal :=
  let (isNegative, chars) := match text.toList with
    | '-' :: rest => (true, rest)
    | '+' :: rest => (false, rest)
    | chars => (false, chars)
  let (whole, fraction, rest) := FloatText.takePointed (·.isDigit) chars
  let (exponent, rest) := FloatText.takeExponent 'e' rest
  if whole.isEmpty && fraction.isEmpty || !rest.isEmpty || exponent.natAbs > 300 then none
  else
    let value : Int := FloatText.digitsValue 10 (whole ++ fraction)
    let value := if isNegative then -value else value
    let places : Int := fraction.length - exponent
    some (if 0 ≤ places then ⟨value, places.toNat⟩
      else ⟨value * (Nat.pow 10 (-places).toNat : Int), 0⟩)

/-- The digits of a number that has some places behind the point. -/
def scaled (number : Decimal) (places : Nat) : Int :=
  number.digits * (Nat.pow 10 (places - number.places) : Int)

/-- A scaled number with some of its places behind the point. -/
def text (value : Int) (scale places : Nat) : String :=
  let digits := value.natAbs / Nat.pow 10 (scale - places)
  let shown := FloatText.pointed false (Nat.toDigits 10 digits) places
  (if value < 0 then "-" else "") ++ String.ofList shown

end Decimal

/-- Writes numbers one after the other. -/
def countOff (call : Call) (render : Int → String) (separator : String) (step last : Int) :
    Nat → Int → Bool → Gathering Unit
  | 0, _, _ => return ()
  | fuel + 1, value, isFirst => do
    if (0 < step && last < value) || (step < 0 && value < last) then
      if !isFirst then call.emitText "\n"
    else
      call.emitText ((if isFirst then "" else separator) ++ render value)
      countOff call render separator step last fuel (value + step) false

/-- The options of a call that stand before the first number. -/
def beforeNumbers (arguments : List String) : List String × List String :=
  let isNumber (word : String) : Bool :=
    match word.toList with
    | '-' :: c :: _ => c.isDigit || c == '.'
    | _ => false
  let takesNext (word : String) : Bool :=
    ["-s", "-f", "--separator", "--format"].contains word
  let (front, _) := arguments.foldl (fun (count, isOpen, isValue) word =>
      if !isOpen then (count, false, false)
      else if isValue then (count + 1, true, false)
      else if isNumber word || word.toList.head? != some '-' || word == "-" then
        (count, false, false)
      else (count + 1, word != "--", takesNext word)) (0, true, false)
  (arguments.take front, arguments.drop front)

/-- A number in the style that a format asks for. -/
def formatted (format : String) (value : Int) (scale : Nat) : String :=
  let chars := format.toList
  let before := chars.takeWhile (· != '%')
  match chars.drop before.length with
  | '%' :: rest =>
    let (layout, rest) := Layout.takeFlags rest {}
    let (width, rest) := Layout.takeNumber rest
    let layout := { layout with width := width }
    let (layout, rest) := match rest with
      | '.' :: rest =>
        let (precision, rest) := Layout.takeNumber rest
        ({ layout with precision := some precision }, rest)
      | rest => (layout, rest)
    match rest with
    | letter :: rest =>
      let number := Binary64.ofRatio (value < 0) value.natAbs (Nat.pow 10 scale)
      String.ofList before ++ layout.float letter number ++ String.ofList rest
    | [] => format
  | _ => format

/-- Writes the numbers from a first to a last one. -/
def seq : Tool := fun call => do
  let known : Known :=
    { letters := "f:s:w", stops := true
      long := [("format", 'f'), ("separator", 's'), ("equal-width", 'w')] }
  let (front, numbers) := beforeNumbers call.arguments
  let (options, words) ← { call with arguments := front }.parse known
  let words := words ++ numbers
  let numbers ← words.mapM fun word => do
    match Decimal.read? word with
    | some number => pure number
    | none =>
      let kind := if word == "nan" then "invalid 'not-a-number' argument"
        else "invalid floating point argument"
      call.misuse s!"{kind}: {quoted word}"
  let one : Decimal := ⟨1, 0⟩
  let (first, step, last) ← match numbers with
    | [] => call.misuse "missing operand"
    | [last] => pure (one, one, last)
    | [first, last] => pure (first, one, last)
    | [first, step, last] => pure (first, step, last)
    | _ => call.misuse ("extra operand " ++ quoted (words.getD 3 ""))
  if step.digits = 0 then
    call.misuse ("invalid Zero increment value: " ++ quoted (words.getD 1 ""))
  let scale := max first.places (max step.places last.places)
  let places := max first.places step.places
  let start := first.scaled scale
  let stride := step.scaled scale
  let stop := last.scaled scale
  let plain (value : Int) : String := Decimal.text value scale places
  let final := start + (stop - start).tdiv stride * stride
  let width := if given options 'w' then
      max (plain start).length (max (plain final).length (plain stop).length)
    else 0
  let fill (value : Int) : String :=
    let text := (plain value).toList
    let (sign, digits) := if text.head? == some '-' then (['-'], text.drop 1) else ([], text)
    String.ofList (sign ++ List.replicate (width - text.length) '0' ++ digits)
  let shown (value : Int) : String :=
    match valueOf? options 'f' with
    | some format => formatted format value scale
    | none => fill value
  call.gathering do
    countOff call shown ((valueOf? options 's').getD "\n") stride stop Program.patience start true
    return 0

/-! ## Checksums -/

/-- One step of a checksum: takes in a byte. -/
def checksumStep (sum : UInt32) (byte : UInt8) : UInt32 :=
  (List.range 8).foldl (fun sum _ =>
    if sum &&& 0x80000000 != 0 then (sum <<< 1) ^^^ 0x04C11DB7 else sum <<< 1)
    (sum ^^^ (byte.toUInt32 <<< 24))

/-- The bytes of a length, the lowest first. -/
def lengthBytes : Nat → Nat → Bytes
  | 0, _ => []
  | fuel + 1, length =>
    if length = 0 then [] else length.toUInt8 :: lengthBytes fuel (length / 256)

/-- The checksum of bytes, with their length. -/
def checksum (bytes : Bytes) : UInt32 :=
  let sum := bytes.foldl checksumStep 0
  (lengthBytes 8 bytes.length).foldl checksumStep sum ^^^ 0xFFFFFFFF

/-- Writes checksums. -/
def cksum : Tool := fun call => do
  let call := call.byLines
  let (_, paths) ← call.parse { letters := "a:" }
  call.overContents paths fun path content => do
    let name := if paths.isEmpty then "" else " " ++ path
    call.print s!"{(checksum content).toNat} {content.length}{name}\n"
    return 0

/-- Writes rotating sums. -/
def sum : Tool := fun call => do
  let call := call.byLines
  let (_, paths) ← call.parse { letters := "rs" }
  call.overContents paths fun path content => do
    let total := content.foldl (fun (total : Nat) byte =>
      ((total / 2 + total % 2 * 32768) + byte.toNat) % 65536) 0
    let name := if paths.isEmpty then "" else " " ++ path
    let digits := Nat.toDigits 10 total
    let shown := String.ofList (List.replicate (5 - digits.length) '0' ++ digits)
    let blocks := { width := 5 : Layout }.pad (toString ((content.length + 1023) / 1024))
    call.print s!"{shown} {blocks}{name}\n"
    return 0

end EventHooks.Utility
