import EventHooks.Text.CharClass
import EventHooks.Utility.Lines

/-!
# Sorting lines

Lines are compared by keys, which are parts of them between fields, each by its own rules; lines
with the same keys are compared as a whole.
-/
namespace EventHooks.Utility

/-! ## Keys -/

/-- A place in a line: a field and a character in it, both counted from one. Character zero is the
end of the field. -/
structure KeyPlace where
  field : Nat
  character : Nat

/-- A key: where it starts and ends, and the letters of its rules. -/
structure SortKey where
  first : KeyPlace := ⟨1, 1⟩
  last? : Option KeyPlace := none
  rules : List Char := []
  startBlanks : Bool := false
  endBlanks : Bool := false

/-- Why a key cannot be read. -/
inductive KeyFault
  | noNumber (text : String)
  | zeroField (text : String)
  | zeroCharacter (text : String)
  | stray (text : String)

/-- The words for a fault. -/
def KeyFault.message : KeyFault → String
  | .noNumber text => s!"invalid number at field start: invalid count at start of {quoted text}"
  | .zeroField text => s!"field number is zero: invalid field specification {quoted text}"
  | .zeroCharacter text => s!"character offset is zero: invalid field specification {quoted text}"
  | .stray text => s!"stray character in field spec: invalid field specification {quoted text}"

/-- The letters of rules for keys. -/
def ruleLetters : List Char := "bdfghiMnRrV".toList

/-- The number at the start of characters, if there is one. -/
def takeCount? (chars : List Char) : Option (Nat × List Char) :=
  let digits := chars.takeWhile (·.isDigit)
  if digits.isEmpty then none
  else some (FloatText.digitsValue 10 digits, chars.drop digits.length)

/-- The key that a text writes. -/
def readKey (text : String) : Except KeyFault SortKey := do
  let some (field, rest) := takeCount? text.toList | .error (.noNumber text)
  if field = 0 then .error (.zeroField text)
  let (character, rest) ← match rest with
    | '.' :: rest =>
      match takeCount? rest with
      | some (0, _) => .error (.zeroCharacter text)
      | some found => .ok found
      | none => .error (.noNumber (String.ofList rest))
    | rest => .ok (1, rest)
  let rules := rest.takeWhile ruleLetters.contains
  match rest.drop rules.length with
  | [] =>
    return { first := ⟨field, character⟩, rules := rules, startBlanks := rules.contains 'b' }
  | ',' :: rest =>
    let some (lastField, rest) := takeCount? rest | .error (.noNumber (String.ofList rest))
    if lastField = 0 then .error (.zeroField text)
    let (lastCharacter, rest) ← match rest with
      | '.' :: rest =>
        match takeCount? rest with
        | some found => .ok found
        | none => .error (.noNumber (String.ofList rest))
      | rest => .ok (0, rest)
    let more := rest.takeWhile ruleLetters.contains
    if more.length < rest.length then .error (.stray text)
    return { first := ⟨field, character⟩, last? := some ⟨lastField, lastCharacter⟩
             rules := rules ++ more, startBlanks := rules.contains 'b'
             endBlanks := more.contains 'b' }
  | _ => .error (.stray text)

/-! ## Parts of lines -/

/-- Whether a byte is a blank. -/
def isBlankByte (byte : UInt8) : Bool :=
  byte == 32 || byte == 9 || byte == 10

/-- Where each field of a line starts and ends. Without a separator, blanks belong to the field that
they stand before. -/
def fieldBounds (separator? : Option UInt8) : Nat → Bytes → Nat → List (Nat × Nat)
  | 0, _, _ => []
  | fuel + 1, rest, start =>
    match separator? with
    | some separator =>
      let size := (rest.takeWhile (· != separator)).length
      if size == rest.length then [(start, start + size)]
      else (start, start + size) ::
        fieldBounds separator? fuel (rest.drop (size + 1)) (start + size + 1)
    | none =>
      let blanks := (rest.takeWhile isBlankByte).length
      let size := blanks + ((rest.drop blanks).takeWhile (!isBlankByte ·)).length
      if size = 0 then []
      else (start, start + size) :: fieldBounds separator? fuel (rest.drop size) (start + size)

/-- The part of a line that a key chooses. -/
def SortKey.part (key : SortKey) (separator? : Option UInt8) (line : Bytes) : Bytes :=
  let bounds := fieldBounds separator? (line.length + 1) line 0
  let skipBlanks (skips : Bool) (place : Nat) : Nat :=
    if skips then place + ((line.drop place).takeWhile isBlankByte).length else place
  let start := match bounds[key.first.field - 1]? with
    | some (first, _) => skipBlanks key.startBlanks first + (key.first.character - 1)
    | none => line.length
  let stop := match key.last? with
    | none => line.length
    | some place =>
      match bounds[place.field - 1]? with
      | none => line.length
      | some (first, last) =>
        if place.character = 0 then last else skipBlanks key.endBlanks first + place.character
  (line.take stop).drop start

/-! ## Comparing -/

/-- A number that bytes start with: its digits before and behind the point, with its sign. -/
def leadingNumber (bytes : Bytes) : Int × Nat :=
  let chars := (bytes.dropWhile isBlankByte).map fun byte => Char.ofNat byte.toNat
  let (isNegative, chars) := match chars with
    | '-' :: rest => (true, rest)
    | chars => (false, chars)
  let (whole, fraction, _) := FloatText.takePointed (·.isDigit) chars
  let value : Int := FloatText.digitsValue 10 (whole ++ fraction)
  (if isNegative then -value else value, fraction.length)

/-- The order of numbers that bytes start with. -/
def numberOrder (first second : Bytes) : Ordering :=
  let (a, aPlaces) := leadingNumber first
  let (b, bPlaces) := leadingNumber second
  compare (a * (Nat.pow 10 bPlaces : Int)) (b * (Nat.pow 10 aPlaces : Int))

/-- The place of a number of any form that bytes start with: those that start with none come first,
and those that start with no proper one next. -/
def generalPlace (bytes : Bytes) : Nat × Int :=
  match FloatText.read? (bytes.map fun byte => Char.ofNat byte.toNat) with
  | none => (0, 0)
  | some reading =>
    match reading.value with
    | .nan => (1, 0)
    | .infinite isNegative => (if isNegative then 2 else 4, 0)
    | .finite isNegative significand exponent =>
      let size : Int := significand * Nat.pow 2 (exponent - Binary64.leastExponent).toNat
      (3, if isNegative then -size else size)

/-- The order of numbers of any form. -/
def generalOrder (first second : Bytes) : Ordering :=
  let (a, b) := (generalPlace first, generalPlace second)
  (compare a.1 b.1).then (compare a.2 b.2)

/-- The scale of the letter behind a number. -/
def scaleOf (bytes : Bytes) : Nat :=
  let chars := (bytes.dropWhile isBlankByte).map fun byte => Char.ofNat byte.toNat
  let rest := chars.dropWhile fun c => c.isDigit || c == '.' || c == '-'
  match rest.head? with
  | some 'k' | some 'K' => 1
  | some 'M' => 2
  | some 'G' => 3
  | some 'T' => 4
  | some 'P' => 5
  | some 'E' => 6
  | _ => 0

/-- The month that bytes start with. -/
def monthOf (bytes : Bytes) : Nat :=
  let name := String.ofList (((bytes.dropWhile isBlankByte).take 3).map fun byte =>
    (Char.ofNat byte.toNat).toUpper)
  let months :=
    ["JAN", "FEB", "MAR", "APR", "MAY", "JUN", "JUL", "AUG", "SEP", "OCT", "NOV", "DEC"]
  (months.idxOf? name).elim 0 (· + 1)

/-- The order of version numbers: digits count as numbers, all else by its bytes. -/
def versionOrder : Nat → Bytes → Bytes → Ordering
  | 0, _, _ => .eq
  | fuel + 1, first, second =>
    let isDigit (byte : UInt8) : Bool := 48 ≤ byte && byte ≤ 57
    let valueOf (digits : Bytes) : Nat :=
      digits.foldl (fun value byte => value * 10 + (byte.toNat - 48)) 0
    match first, second with
    | [], [] => .eq
    | [], _ => .lt
    | _, [] => .gt
    | a :: as, b :: bs =>
      if isDigit a && isDigit b then
        let left := first.takeWhile isDigit
        let right := second.takeWhile isDigit
        (compare (valueOf left) (valueOf right)).then
          (versionOrder fuel (first.drop left.length) (second.drop right.length))
      else if a < b then .lt else if b < a then .gt else versionOrder fuel as bs

/-- Bytes as the rules of a key see them. -/
def seenBytes (rules : List Char) (bytes : Bytes) : Bytes :=
  let isKept (byte : UInt8) : Bool :=
    let c := Char.ofNat byte.toNat
    (!rules.contains 'd' || c.isAlphanum || isBlankByte byte) &&
      (!rules.contains 'i' || (32 ≤ byte && byte < 127))
  let kept := bytes.filter isKept
  if rules.contains 'f' then
    kept.map fun byte => if 97 ≤ byte && byte ≤ 122 then byte - 32 else byte
  else kept

/-- The order of two parts by the rules of a key. -/
def ruleOrder (rules : List Char) (first second : Bytes) : Ordering :=
  let order :=
    if rules.contains 'n' then numberOrder first second
    else if rules.contains 'g' then generalOrder first second
    else if rules.contains 'h' then
      (compare (scaleOf first) (scaleOf second)).then (numberOrder first second)
    else if rules.contains 'M' then compare (monthOf first) (monthOf second)
    else if rules.contains 'V' then versionOrder (first.length + 1) first second
    else bytesOrder (seenBytes rules first) (seenBytes rules second)
  if rules.contains 'r' then order.swap else order

/-- How lines are sorted. -/
structure SortStyle where
  keys : List SortKey
  separator? : Option UInt8
  rules : List Char
  isStable : Bool

/-- The order of two lines by the keys alone. -/
def SortStyle.keyOrder (style : SortStyle) (first second : Bytes) : Ordering :=
  style.keys.foldl (fun order key =>
    order.then (ruleOrder key.rules (key.part style.separator? first)
      (key.part style.separator? second))) .eq

/-- The order of two lines. -/
def SortStyle.order (style : SortStyle) (first second : Bytes) : Ordering :=
  let last := if style.isStable then Ordering.eq else bytesOrder first second
  (style.keyOrder first second).then (if style.rules.contains 'r' then last.swap else last)

/-- The first line that is out of order, with its number. -/
def SortStyle.disorder? (style : SortStyle) (isStrict : Bool) (lines : List Bytes) :
    Option (Bytes × Nat) :=
  ((lines.zip (lines.drop 1)).zipIdx.find? fun ((first, second), _) =>
    let order := style.order first second
    order == .gt || (isStrict && style.keyOrder first second == .eq)).map
      fun ((_, line), place) => (line, place + 2)

/-- Lines without those whose keys are the ones of the line before. -/
def SortStyle.distinct (style : SortStyle) (lines : List Bytes) : List Bytes :=
  (lines.splitBy fun first second => style.keyOrder first second == .eq).filterMap (·.head?)

/-- Writes lines in order. -/
def sort : Tool := fun call => do
  let known : Known :=
    { letters := "bcCdfghik:mMno:rRsS:t:T:uVz", failure := 2
      long := [("reverse", 'r'), ("numeric-sort", 'n'), ("unique", 'u'), ("key", 'k'),
        ("field-separator", 't'), ("output", 'o'), ("ignore-case", 'f'), ("stable", 's'),
        ("check", 'c'), ("ignore-leading-blanks", 'b'), ("version-sort", 'V'),
        ("human-numeric-sort", 'h'), ("general-numeric-sort", 'g'), ("month-sort", 'M')] }
  let (options, paths) ← call.parse known
  let rules := (options.map (·.1)).filter ruleLetters.contains
  let separator? ← match valueOf? options 't' with
    | none => pure none
    | some "" =>
      call.complain "empty tab"
      call.quit 2
    | some text =>
      match text.toList with
      | [c] => pure (some c.toNat.toUInt8)
      | ['\\', '0'] => pure (some 0)
      | _ =>
        call.complain s!"multi-character tab {quoted text}"
        call.quit 2
  let keys ← (options.filter (·.1 == 'k')).mapM fun option => do
    match readKey option.2 with
    | .ok key => pure key
    | .error fault =>
      call.complain fault.message
      call.quit 2
  let inherits (key : SortKey) : SortKey :=
    if key.rules.isEmpty then
      { key with
        rules := rules, startBlanks := rules.contains 'b', endBlanks := rules.contains 'b' }
    else key
  let whole : SortKey := { rules := rules, startBlanks := rules.contains 'b' }
  let style : SortStyle :=
    { keys := if keys.isEmpty then [whole] else keys.map inherits, separator? := separator?
      rules := rules, isStable := given options 's' || given options 'u' }
  let contents ← (if paths.isEmpty then ["-"] else paths).mapM fun path => do
    match ← call.contents path with
    | .ok content => pure content
    | .error errno =>
      let verb := if errno = .isDirectory then "read failed" else "cannot read"
      call.complain s!"{verb}: {quotedIfNeeded path}: {errno.words}"
      call.quit 2
  let lines := contents.flatMap linesOf
  if given options 'c' || given options 'C' then
    match style.disorder? (given options 'u') lines with
    | none => return 0
    | some (line, number) =>
      if given options 'c' then
        let path := paths.headD "-"
        call.complain s!"{path}:{number}: disorder: {ByteText.ofBytes line}"
      return 1
  else
    let sorted := lines.mergeSort fun first second => style.order first second != .gt
    let shown := if given options 'u' then style.distinct sorted else sorted
    match valueOf? options 'o' with
    | some path =>
      match ← Program.openPath path Opening.output with
      | .ok handle => Program.attach 1 handle
      | .error errno =>
        call.complain s!"open failed: {quotedIfNeeded path}: {errno.words}"
        call.quit 2
    | none => pure ()
    let bytes := shown.flatMap (· ++ [10])
    let verb := if bytes.length < Call.gatherLimit then "fflush failed" else "write failed"
    let words (errno : Errno) : String :=
      s!"{verb}: 'standard output': {errno.words}\n{call.name}: {call.byLines.noRoom.words errno}"
    { call with noRoom := { words := words, status := 2 } }.put bytes
    return 0

end EventHooks.Utility
