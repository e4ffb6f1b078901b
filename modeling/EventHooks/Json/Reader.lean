import EventHooks.Json.Value

/-!
# Reading JSON

A document is one value between blanks. Beside the values of the standard it may hold `NaN`,
`Infinity` and `-Infinity`; a number with a fraction or an exponent is the nearest double, and an
integer has at most `IntegerText.digitLimit` digits. A fault is named by its cause and by the
number of characters before it.

The reader works on the characters that are left, with fuel for the steps that may nest. An open
bracket takes two units, one for the array or object and one for its first item or member, and so
does a comma. So two units for each character and one more are enough: with more fuel a document
reads the same.
-/
namespace EventHooks.Json

/-- Why a text is no JSON document. -/
inductive Cause
  | value
  | propertyName
  | colon
  | comma
  | extraData
  | unterminatedString
  | controlCharacter
  | escape
  | unicodeEscape
  | byteOrderMark
  deriving DecidableEq, Repr

/-- A fault: at a place, given by how many characters are left there, or in an integer of too many
digits. -/
inductive Stop
  | at (cause : Cause) (left : Nat)
  | digits (count : Nat)
  deriving DecidableEq, Repr

/-- The outcome of a step: what was read and the characters that are left. -/
abbrev Step (α : Type) := Except Stop (α × List Char)

/-- Exactly the blanks of JSON. -/
def isSpace (c : Char) : Bool :=
  c == ' ' || c == '\t' || c == '\n' || c == '\r'

/-- The characters after any blanks. -/
def skipSpace (chars : List Char) : List Char :=
  chars.dropWhile isSpace

/-! ## Texts -/

/-- The character of an escape of one letter. -/
def simpleEscape? (c : Char) : Option Char :=
  if c = '"' ∨ c = '\\' ∨ c = '/' then some c
  else if c = 'b' then some '\x08'
  else if c = 'f' then some '\x0c'
  else if c = 'n' then some '\n'
  else if c = 'r' then some '\r'
  else if c = 't' then some '\t'
  else none

/-- Whether a code is the first half of a surrogate pair. -/
def isHighSurrogate (code : Nat) : Bool := 0xD800 ≤ code && code < 0xDC00

/-- Whether a code is the second half of a surrogate pair. -/
def isLowSurrogate (code : Nat) : Bool := 0xDC00 ≤ code && code < 0xE000

/-- The character of two halves. -/
def joinSurrogates (high low : Nat) : Char :=
  Char.ofNat (0x10000 + (high - 0xD800) * 0x400 + (low - 0xDC00))

/-- The character of one code; half a pair on its own is the replacement character. -/
def charOfCode (code : Nat) : Char :=
  if isHighSurrogate code || isLowSurrogate code then '\uFFFD' else Char.ofNat code

/-- Four hexadecimal digits that are followed by another character. A fault is placed at the letter
before them. -/
def readCode (chars : List Char) : Step Nat :=
  match chars with
  | a :: b :: c :: d :: next :: rest =>
    match Text.ofHexDigits? [a, b, c, d] with
    | some code => .ok (code, next :: rest)
    | none => .error (.at .unicodeEscape (chars.length + 1))
  | _ => .error (.at .unicodeEscape (chars.length + 1))

/-- The character of an escape by code, after its letter. Two escapes of the halves of a pair, with
another character after them, are one character. -/
def readUnicodeEscape (chars : List Char) : Step Char :=
  match readCode chars with
  | .error stop => .error stop
  | .ok (code, rest) =>
    if isHighSurrogate code then
      match rest with
      | '\\' :: 'u' :: a :: b :: c :: d :: next :: after =>
        match readCode (a :: b :: c :: d :: next :: after) with
        | .error stop => .error stop
        | .ok (low, rest') =>
          if isLowSurrogate low then .ok (joinSurrogates code low, rest')
          else .ok (charOfCode code, rest)
      | _ => .ok (charOfCode code, rest)
    else .ok (charOfCode code, rest)

/-- The characters of a text after its opening quote, of which `start` characters are left
including the quote. `read` holds the characters read so far, the last first. -/
def readChars (start : Nat) : Nat → List Char → List Char → Step String
  | 0, _, _ => .error (.at .unterminatedString start)
  | _ + 1, _, [] => .error (.at .unterminatedString start)
  | fuel + 1, read, c :: rest =>
    if c = '"' then .ok (String.ofList read.reverse, rest)
    else if c = '\\' then
      match rest with
      | [] => .error (.at .unterminatedString start)
      | letter :: rest =>
        if letter = 'u' then
          match readUnicodeEscape rest with
          | .ok (character, rest) => readChars start fuel (character :: read) rest
          | .error stop => .error stop
        else
          match simpleEscape? letter with
          | some character => readChars start fuel (character :: read) rest
          | none => .error (.at .escape (rest.length + 2))
    else if c.toNat < 0x20 then .error (.at .controlCharacter (rest.length + 1))
    else readChars start fuel (c :: read) rest

/-- A text after its opening quote. -/
def readText (chars : List Char) : Step String :=
  readChars (chars.length + 1) (chars.length + 1) [] chars

/-! ## Numbers -/

/-- Whether a character is an ASCII digit. -/
def isDigit (c : Char) : Bool := (Text.asciiDigit? c).isSome

/-- The value of ASCII digits. -/
def digitsValue (digits : List Char) : Nat :=
  IntegerText.ofDigits (digits.filterMap Text.asciiDigit?)

/-- A fraction: its digits, if a digit follows the point. -/
def readFraction : List Char → List Char × List Char
  | '.' :: rest =>
    match rest.takeWhile isDigit with
    | [] => ([], '.' :: rest)
    | digits => (digits, rest.dropWhile isDigit)
  | chars => ([], chars)

/-- An exponent, if a digit follows its letter and its sign. -/
def readExponent : List Char → Option Int × List Char
  | c :: rest =>
    if c = 'e' ∨ c = 'E' then
      let (negative, body) := IntegerText.scanSign rest
      match body.takeWhile isDigit with
      | [] => (none, c :: rest)
      | digits =>
        (some (IntegerText.signed negative (digitsValue digits)), body.dropWhile isDigit)
    else (none, c :: rest)
  | [] => (none, [])

/-- The integer digits of a number: a zero, or digits that do not start with one. -/
def readWhole : List Char → Option (List Char × List Char)
  | '0' :: rest => some (['0'], rest)
  | chars =>
    match chars.takeWhile isDigit with
    | [] => none
    | digits => some (digits, chars.dropWhile isDigit)

/-- A number. At its start, before its sign, the characters `start` were left. -/
def readNumber (start : List Char) (negative : Bool) (chars : List Char) : Step Json :=
  match readWhole chars with
  | none => .error (.at .value start.length)
  | some (whole, rest) =>
    let (fraction, rest) := readFraction rest
    let (exponent, rest) := readExponent rest
    if fraction.isEmpty && exponent.isNone then
      if IntegerText.digitLimit < whole.length then .error (.digits whole.length)
      else .ok (.integer (IntegerText.signed negative (digitsValue whole)), rest)
    else
      .ok (.float (Binary64.ofDecimal negative (digitsValue (whole ++ fraction))
        (exponent.getD 0 - fraction.length)), rest)

/-! ## Values -/

/-- The characters after a word, if they start with it. -/
def after? (word : String) (chars : List Char) : Option (List Char) :=
  if word.toList.isPrefixOf chars then some (chars.drop word.length) else none

/-- A value without parts that are values. -/
def readScalar (chars : List Char) : Step Json :=
  match chars with
  | '"' :: rest => (readText rest).map fun (value, rest) => (.text value, rest)
  | _ =>
    match after? "null" chars, after? "true" chars, after? "false" chars with
    | some rest, _, _ => .ok (.null, rest)
    | _, some rest, _ => .ok (.bool true, rest)
    | _, _, some rest => .ok (.bool false, rest)
    | none, none, none =>
      match after? "NaN" chars, after? "Infinity" chars, after? "-Infinity" chars with
      | some rest, _, _ => .ok (.float .nan, rest)
      | _, some rest, _ => .ok (.float (.infinite false), rest)
      | _, _, some rest => .ok (.float (.infinite true), rest)
      | none, none, none =>
        match chars with
        | '-' :: rest => readNumber chars true rest
        | _ => readNumber chars false chars

/-- The name of a member and the colon after it, with the blanks around the colon. -/
def readName (chars : List Char) : Step String :=
  match chars with
  | '"' :: rest =>
    match readText rest with
    | .error stop => .error stop
    | .ok (name, rest) =>
      match skipSpace rest with
      | ':' :: rest => .ok (name, skipSpace rest)
      | rest => .error (.at .colon rest.length)
  | _ => .error (.at .propertyName chars.length)

mutual

/-- A value, without blanks before it. -/
def readValue : Nat → List Char → Step Json
  | 0, chars => .error (.at .value chars.length)
  | fuel + 1, '[' :: rest =>
    match skipSpace rest with
    | ']' :: rest => .ok (.array [], rest)
    | rest => readItems fuel [] rest
  | fuel + 1, '\x7b' :: rest =>
    match skipSpace rest with
    | '\x7d' :: rest => .ok (.object [], rest)
    | rest => readMembers fuel [] rest
  | _ + 1, chars => readScalar chars

/-- The items of an array from the next one on; `read` holds those before it, the last first. -/
def readItems : Nat → List Json → List Char → Step Json
  | 0, _, chars => .error (.at .value chars.length)
  | fuel + 1, read, chars =>
    match readValue fuel chars with
    | .error stop => .error stop
    | .ok (item, rest) =>
      match skipSpace rest with
      | ']' :: rest => .ok (.array (item :: read).reverse, rest)
      | ',' :: rest => readItems fuel (item :: read) (skipSpace rest)
      | rest => .error (.at .comma rest.length)

/-- The members of an object from the next one on; `read` holds those before it. -/
def readMembers : Nat → Members → List Char → Step Json
  | 0, _, chars => .error (.at .propertyName chars.length)
  | fuel + 1, read, chars =>
    match readName chars with
    | .error stop => .error stop
    | .ok (name, rest) =>
      match readValue fuel rest with
      | .error stop => .error stop
      | .ok (value, rest) =>
        match skipSpace rest with
        | '\x7d' :: rest => .ok (.object (read.set name value), rest)
        | ',' :: rest => readMembers fuel (read.set name value) (skipSpace rest)
        | rest => .error (.at .comma rest.length)

end

/-- A document, read with some fuel: one value between blanks. -/
def readDocumentWith (fuel : Nat) (chars : List Char) : Except Stop Json :=
  match chars with
  | '\uFEFF' :: _ => .error (.at .byteOrderMark chars.length)
  | _ =>
    match readValue fuel (skipSpace chars) with
    | .error stop => .error stop
    | .ok (value, rest) =>
      match skipSpace rest with
      | [] => .ok value
      | rest => .error (.at .extraData rest.length)

/-- A document. -/
def readDocument (chars : List Char) : Except Stop Json :=
  readDocumentWith (2 * chars.length + 1) chars

/-! ## Faults -/

/-- A fault of a document: a cause with the number of characters before it and its line and column,
both from one, or an integer of too many digits. -/
inductive Fault
  | at (cause : Cause) (offset line column : Nat)
  | digits (count : Nat)
  deriving DecidableEq, Repr

/-- The place where `left` characters of a document are left. -/
def Fault.ofStop (document : List Char) : Stop → Fault
  | .digits count => .digits count
  | .at cause left =>
    let before := document.take (document.length - left)
    let column := (before.reverse.takeWhile (· != '\n')).length + 1
    .at cause before.length (before.count '\n' + 1) column

/-- Reads a document. -/
def read (document : String) : Except Fault Json :=
  (readDocument document.toList).mapError (Fault.ofStop document.toList)

/-- The words for a cause. -/
def Cause.message : Cause → String
  | .value => "Expecting value"
  | .propertyName => "Expecting property name enclosed in double quotes"
  | .colon => "Expecting ':' delimiter"
  | .comma => "Expecting ',' delimiter"
  | .extraData => "Extra data"
  | .unterminatedString => "Unterminated string starting at"
  | .controlCharacter => "Invalid control character at"
  | .escape => "Invalid \\escape"
  | .unicodeEscape => "Invalid \\uXXXX escape"
  | .byteOrderMark => "Unexpected UTF-8 BOM (decode using utf-8-sig)"

/-- The words for a fault. -/
def Fault.message : Fault → String
  | .digits count => IntegerText.tooManyDigitsMessage count
  | .at cause offset line column =>
    s!"{cause.message}: line {line} column {column} (char {offset})"

end EventHooks.Json
