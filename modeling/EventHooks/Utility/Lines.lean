import EventHooks.Utility.Stream

/-!
# Utilities for lines

Lines are cut, pasted, turned around, compared and freed of repetitions.
-/
namespace EventHooks.Utility

/-! ## Parts of lines -/

/-- A range of places, which are counted from one; without a last one it has no end. -/
structure PlaceRange where
  first : Nat
  last? : Option Nat

/-- Whether a range contains a place. -/
def PlaceRange.contains (range : PlaceRange) (place : Nat) : Bool :=
  range.first ≤ place && range.last?.all (place ≤ ·)

/-- Why a list of ranges cannot be read. -/
inductive RangeFault
  | zero
  | decreasing
  | noEndpoint
  | invalid (text : String)

/-- The words for a fault, where the places are fields or others. -/
def RangeFault.message (ofFields : Bool) : RangeFault → String
  | .zero =>
    if ofFields then "fields are numbered from 1"
    else "byte/character positions are numbered from 1"
  | .decreasing => "invalid decreasing range"
  | .noEndpoint => "invalid range with no endpoint: -"
  | .invalid text =>
    if ofFields then s!"invalid field value {quoted text}"
    else s!"invalid byte/character position {quoted text}"

/-- The range that a text writes. -/
def readRange (text : List Char) : Except RangeFault PlaceRange :=
  let start := text.takeWhile (· != '-')
  let rest := text.drop start.length
  let number (digits : List Char) : Except RangeFault Nat :=
    if digits.all (·.isDigit) then .ok (FloatText.digitsValue 10 digits)
    else .error (.invalid (String.ofList (digits.dropWhile (·.isDigit))))
  match rest with
  | [] => do
    let place ← number start
    if place = 0 then .error .zero else .ok ⟨place, some place⟩
  | _ :: ending => do
    if start.isEmpty && ending.isEmpty then .error .noEndpoint
    else
      let first ← if start.isEmpty then .ok 1 else number start
      if first = 0 then .error .zero
      else if ending.isEmpty then .ok ⟨first, none⟩
      else
        let last ← number ending
        if last < first then .error .decreasing else .ok ⟨first, some last⟩

/-- The ranges that a text writes. -/
def readRanges (text : String) : Except RangeFault (List PlaceRange) :=
  let parts := Path.splitOn ',' (text.toList.map fun c =>
    if c == ' ' || c == '\t' then ',' else c)
  parts.mapM readRange

/-- Items at the places that pass a test. -/
def chosenItems {α : Type} (holds : Nat → Bool) (items : List α) : List α :=
  (items.zipIdx.filter fun item => holds (item.2 + 1)).map (·.1)

/-- The parts of bytes between the places of a byte. -/
def splitBytes (separator : UInt8) (bytes : Bytes) : List Bytes :=
  let (done, part) := bytes.foldl (fun (done, part) byte =>
    if byte == separator then (part.reverse :: done, []) else (done, byte :: part))
    (([] : List Bytes), ([] : Bytes))
  (part.reverse :: done).reverse

/-- Writes parts of lines. -/
def cut : Tool := fun call => do
  let known : Known :=
    { letters := "b:c:d:f:nszCO:"
      long := [("bytes", 'b'), ("characters", 'c'), ("delimiter", 'd'), ("fields", 'f'),
        ("only-delimited", 's'), ("complement", 'C'), ("output-delimiter", 'O')] }
  let (options, paths) ← call.parse known
  let lists := options.filter fun option => ['b', 'c', 'f'].contains option.1
  match lists with
  | [] => call.misuse "you must specify a list of bytes, characters, or fields"
  | _ :: _ :: _ => call.misuse "only one list may be specified"
  | [(letter, list)] =>
    let ofFields := letter == 'f'
    let delimiter := (valueOf? options 'd').map (·.toList)
    match delimiter with
    | some (_ :: _ :: _) => call.misuse "the delimiter must be a single character"
    | _ => pure ()
    if !ofFields && delimiter.isSome then
      call.misuse "an input delimiter may be specified only when operating on fields"
    if !ofFields && given options 's' then
      call.misuse
        "suppressing non-delimited lines makes sense\n\tonly when operating on fields"
    match readRanges list with
    | .error fault => call.misuse (fault.message ofFields)
    | .ok ranges =>
      let isChosen (place : Nat) : Bool :=
        ranges.any (·.contains place) != given options 'C'
      let separator := match delimiter with
        | some [c] => c.toNat.toUInt8
        | some _ => 0
        | none => 9
      let joint := match valueOf? options 'O' with
        | some text => ByteText.toBytes text
        | none => [separator]
      let change (line : Bytes) : Option Bytes :=
        if !ofFields then
          let places := chosenItems isChosen (line.zipIdx.map fun item => (item.1, item.2))
          match valueOf? options 'O' with
          | none => some (places.map (·.1))
          | some _ =>
            let runs := places.splitBy fun first second => first.2 + 1 == second.2
            some (joint.intercalate (runs.map (·.map (·.1))))
        else if !line.contains separator then
          if given options 's' then none else some line
        else some (joint.intercalate (chosenItems isChosen (splitBytes separator line)))
      call.gathering (call.overInputs paths fun path handle => do
        let (_, errno?) ← foldLines handle (fun (_ : Unit) line _ => do
          match change line with
          | some shown => call.emit (shown ++ [10])
          | none => pure ()
          return ((), true)) ()
        if let some errno := errno? then
          call.complain s!"{quotedIfNeeded path}: {errno.words}"
          return 1
        else return 0)

/-! ## Lines side by side -/

/-- The separators that a list writes. -/
def separators : List Char → List Bytes
  | '\\' :: 'n' :: rest => [10] :: separators rest
  | '\\' :: 't' :: rest => [9] :: separators rest
  | '\\' :: '0' :: rest => [] :: separators rest
  | '\\' :: '\\' :: rest => [92] :: separators rest
  | c :: rest => [c.toNat.toUInt8] :: separators rest
  | [] => []

/-- Items with separators between them, which are taken in turn. -/
def joinWith (joints : Array Bytes) (items : List Bytes) : Bytes :=
  (items.zipIdx.map fun (item, place) =>
    if place = 0 then item
    else (joints[(place - 1) % max 1 joints.size]?).getD [] ++ item).flatten

/-- Takes a line of each column that has one left. -/
def takeRows : Nat → List (List Bytes) → List (List Bytes)
  | 0, _ => []
  | fuel + 1, columns =>
    if columns.all (·.isEmpty) then []
    else columns.map (·.headD []) :: takeRows fuel (columns.map (·.drop 1))

/-- Parts lines among the columns that read the same input in turn. -/
def dealt (count place : Nat) (lines : List Bytes) : List Bytes :=
  (lines.zipIdx.filter fun line => line.2 % count == place).map (·.1)

/-- Writes lines side by side, or the lines of each input as one. -/
def paste : Tool := fun call => do
  let known : Known := { letters := "d:sz", long := [("delimiters", 'd'), ("serial", 's')] }
  let (options, paths) ← call.parse known
  let joints := (separators ((valueOf? options 'd').getD "\t").toList).toArray
  let paths := if paths.isEmpty then ["-"] else paths
  let shared := paths.filter (· == "-")
  let input ← if shared.isEmpty then pure [] else do
    pure ((← call.contents "-").toOption.getD [])
  let columns ← paths.zipIdx.mapM fun (path, place) => do
    if path == "-" then
      let before := ((paths.take place).filter (· == "-")).length
      if given options 's' then pure (if before = 0 then linesOf input else [])
      else pure (dealt shared.length before (linesOf input))
    else
      match ← call.contents path with
      | .ok content => pure (linesOf content)
      | .error errno =>
        call.complain s!"{quotedIfNeeded path}: {errno.words}"
        call.quit 1
  let rows := if given options 's' then columns
    else takeRows ((columns.map (·.length)).foldl max 0 + 1) columns
  call.put (rows.flatMap fun row => joinWith joints row ++ [10])
  return 0

/-- Writes lines from the last to the first. -/
def tac : Tool := fun call => do
  let (_, paths) ← call.parse { letters := "brs:" }
  call.gathering (call.overContents paths (fun _ content => do
    let (lines, rest) := wholeLines content
    let whole := lines.map (· ++ [10])
    call.emit (if rest.isEmpty then whole.reverse.flatten
      else rest ++ whole.reverse.flatten)
    return 0) fun path => s!"failed to open {quoted path} for reading")

/-! ## Sorted lines -/

/-- The order of bytes. -/
def bytesOrder : Bytes → Bytes → Ordering
  | [], [] => .eq
  | [], _ => .lt
  | _, [] => .gt
  | a :: as, b :: bs => if a < b then .lt else if b < a then .gt else bytesOrder as bs

/-- Merges two lists of lines: each line with whether it is in the first, the second or both. -/
def mergeLines : Nat → List Bytes → List Bytes → List (Bytes × Nat)
  | 0, _, _ => []
  | _, [], second => second.map (·, 2)
  | _, first, [] => first.map (·, 1)
  | fuel + 1, a :: first, b :: second =>
    match bytesOrder a b with
    | .lt => (a, 1) :: mergeLines fuel first (b :: second)
    | .gt => (b, 2) :: mergeLines fuel (a :: first) second
    | .eq => (a, 3) :: mergeLines fuel first second

/-- Whether lines are sorted. -/
def isSorted (lines : List Bytes) : Bool :=
  (lines.zip (lines.drop 1)).all fun (first, second) => bytesOrder first second != .gt

/-- Writes the lines of two sorted inputs in columns. -/
def comm : Tool := fun call => do
  let (options, paths) ← call.parse { letters := "123z" }
  match paths with
  | [first, second] =>
    let read (path : String) : Program (List Bytes) := do
      match ← call.contents path with
      | .ok content => return linesOf content
      | .error errno =>
        call.complain s!"{quotedIfNeeded path}: {errno.words}"
        call.quit 1
    let firstLines ← read first
    let secondLines ← read second
    let hides (column : Nat) : Bool :=
      given options (Char.ofNat ('0'.toNat + column))
    let lead (column : Nat) : Bytes :=
      List.replicate (((List.range column).drop 1).filter (!hides ·)).length 9
    let merged := mergeLines (firstLines.length + secondLines.length + 1) firstLines secondLines
    call.put ((merged.filter (!hides ·.2)).flatMap fun (line, column) =>
      lead column ++ line ++ [10])
    let firstFine := isSorted firstLines
    let secondFine := isSorted secondLines
    if !firstFine then call.complain "file 1 is not in sorted order"
    if !secondFine then call.complain "file 2 is not in sorted order"
    if firstFine && secondFine then return 0
    else
      call.complain "input is not in sorted order"
      return 1
  | [] => call.misuse "missing operand"
  | [word] => call.misuse s!"missing operand after {quoted word}"
  | _ :: _ :: extra :: _ => call.misuse s!"extra operand {quoted extra}"

/-- The fields of a line. -/
def fieldsOf (separator? : Option UInt8) (line : Bytes) : List Bytes :=
  match separator? with
  | some separator => splitBytes separator line
  | none =>
    let isBlank (byte : UInt8) : Bool := byte == 32 || byte == 9
    (line.splitBy fun first second => isBlank first == isBlank second).filter
      fun part => !part.any isBlank

/-- Writes the pairs of lines of two sorted inputs that have a field in common. -/
def join : Tool := fun call => do
  let (options, paths) ← call.parse { letters := "1:2:a:e:ij:o:t:v:" }
  match paths with
  | [first, second] =>
    let read (path : String) : Program (List Bytes) := do
      match ← call.contents path with
      | .ok content => return linesOf content
      | .error errno =>
        call.complain s!"{quotedIfNeeded path}: {errno.words}"
        call.quit 1
    let separator? := ((valueOf? options 't').bind (·.toList.head?)).map (·.toNat.toUInt8)
    let keyOf (letter : Char) : Nat :=
      (((valueOf? options letter).or (valueOf? options 'j')).bind (·.toNat?)).getD 1 - 1
    let joint : Bytes := [separator?.getD 32]
    let rows (lines : List Bytes) (key : Nat) : List (Bytes × List Bytes) :=
      lines.map fun line =>
        let fields := fieldsOf separator? line
        (fields.getD key [], fields.eraseIdx key)
    let firstRows := rows (← read first) (keyOf '1')
    let secondRows := rows (← read second) (keyOf '2')
    let extra := (options.filter fun option => option.1 == 'a' || option.1 == 'v').map (·.2)
    let pairs := if given options 'v' then [] else
      firstRows.flatMap fun row =>
        (secondRows.filter (·.1 == row.1)).map fun other => row.1 :: (row.2 ++ other.2)
    let lonely (rows others : List (Bytes × List Bytes)) : List (List Bytes) :=
      (rows.filter fun row => !others.any (·.1 == row.1)).map fun row => row.1 :: row.2
    let all := pairs ++ (if extra.contains "1" then lonely firstRows secondRows else []) ++
      (if extra.contains "2" then lonely secondRows firstRows else [])
    let sorted := all.mergeSort fun row other =>
      bytesOrder (row.headD []) (other.headD []) != .gt
    call.put (sorted.flatMap fun row => joint.intercalate row ++ [10])
    return 0
  | [] => call.misuse "missing operand"
  | [word] => call.misuse s!"missing operand after {quoted word}"
  | _ :: _ :: extra :: _ => call.misuse s!"extra operand {quoted extra}"

/-! ## Repetitions -/

/-- What of a line is compared with the next one. -/
def comparedPart (options : List (Char × String)) (line : Bytes) : Bytes :=
  let amountOf (letter : Char) : Nat := ((valueOf? options letter).bind (·.toNat?)).getD 0
  let isBlank (byte : UInt8) : Bool := byte == 32 || byte == 9
  let skipField (line : Bytes) : Bytes := (line.dropWhile isBlank).dropWhile (!isBlank ·)
  let rest := ((List.range (amountOf 'f')).foldl (fun line _ => skipField line) line).drop
    (amountOf 's')
  let rest := match valueOf? options 'w' with
    | some text => rest.take (text.toNat?.getD rest.length)
    | none => rest
  if given options 'i' then
    rest.map fun byte => if 65 ≤ byte && byte ≤ 90 then byte + 32 else byte
  else rest

/-- The text of a group of repeated lines. -/
def groupText (options : List (Char × String)) (line : Bytes) (count : Nat) : Bytes :=
  let isShown := if given options 'd' && given options 'u' then false
    else if given options 'd' then 1 < count
    else if given options 'u' then count == 1
    else true
  let lead := if given options 'c' then
      ByteText.toBytes ({ width := 7 : Layout }.pad (toString count) ++ " ")
    else []
  if !isShown then []
  else if given options 'D' then
    if count < 2 then [] else (List.replicate count (line ++ [10])).flatten
  else lead ++ line ++ [10]

/-- Writes lines without their repetitions. -/
def uniq : Tool := fun call => do
  let known : Known :=
    { letters := "cdDf:is:uw:z"
      long := [("count", 'c'), ("repeated", 'd'), ("unique", 'u'), ("ignore-case", 'i'),
        ("skip-fields", 'f'), ("skip-chars", 's'), ("check-chars", 'w')] }
  let (options, paths) ← call.parse known
  match paths[2]? with
  | some extra => call.misuse s!"extra operand {quoted extra}"
  | none => pure ()
  match paths[1]? with
  | some output =>
    match ← Program.openPath output Opening.output with
    | .ok handle => Program.attach 1 handle
    | .error errno =>
      call.complain s!"{quotedIfNeeded output}: {errno.words}"
      call.quit 1
  | none => pure ()
  call.gathering (call.overInputs (paths.take 1) fun path handle => do
    let (last?, errno?) ← foldLines handle (fun (last? : Option (Bytes × Nat)) line _ => do
      match last? with
      | none => return (some (line, 1), true)
      | some (before, count) =>
        if comparedPart options before == comparedPart options line then
          return (some (before, count + 1), true)
        else
          call.emit (groupText options before count)
          return (some (line, 1), true)) none
    if let some (line, count) := last? then call.emit (groupText options line count)
    if let some errno := errno? then
      call.complain s!"error reading {quoted path}: {errno.words}"
      return 1
    else return 0)

end EventHooks.Utility
