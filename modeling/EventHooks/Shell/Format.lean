import EventHooks.Shell.Arithmetic
import EventHooks.Text.Layout

/-!
# Formatted output

What the commands `echo` and `printf` write. Escapes stand for single bytes; the conversions of a
format take their arguments in turn, and a format is used again until no argument is left.
-/
namespace EventHooks.Shell.Format

/-! ## Escapes -/

/-- The value of an octal digit. -/
def octalDigit? (c : Char) : Option Nat :=
  if '0' ≤ c ∧ c ≤ '7' then some (c.toNat - '0'.toNat) else none

/-- The value of at most some octal digits, with what follows. -/
def octal (limit : Nat) (chars : List Char) : Nat × List Char :=
  let digits := (chars.take limit).takeWhile fun c => (octalDigit? c).isSome
  ((digits.foldl (fun value c => value * 8 + (octalDigit? c).getD 0) 0) % 256,
    chars.drop digits.length)

/-- The character that a letter stands for after a backslash. -/
def escapedLetter? (c : Char) : Option Char :=
  match c with
  | '\\' => some '\\'
  | 'a' => some '\x07'
  | 'b' => some '\x08'
  | 'e' => some '\x1b'
  | 'f' => some '\x0c'
  | 'n' => some '\n'
  | 'r' => some '\r'
  | 't' => some '\t'
  | 'v' => some '\x0b'
  | _ => none

/-- Which escapes there are besides letters and octal digits. -/
inductive Escapes
  | plain
  | extended
  deriving DecidableEq, Repr

/-- The character that an escape stands for, with what follows it. A backslash before any other
character stands for itself. -/
def escape (escapes : Escapes) (afterBackslash : List Char) : Char × List Char :=
  match afterBackslash with
  | [] => ('\\', [])
  | c :: rest =>
    let hexDigits := (rest.take 2).takeWhile fun c => (FloatText.hexDigit? c).isSome
    if (octalDigit? c).isSome then
      let (value, rest) := octal 3 (c :: rest)
      (Char.ofNat value, rest)
    else if escapes == .extended && c == 'x' && !hexDigits.isEmpty then
      (Char.ofNat (FloatText.digitsValue 16 hexDigits), rest.drop hexDigits.length)
    else if escapes == .extended && (c == '"' || c == 'E') then
      (if c == 'E' then '\x1b' else '"', rest)
    else
      match escapedLetter? c with
      | some char => (char, rest)
      | none => ('\\', c :: rest)

/-- A text with its escapes resolved. One more zero may stand before octal digits, and the letter
`c` ends all output. -/
def unescape (escapes : Escapes) (fuel : Nat) (chars : List Char) (done : List Char) :
    List Char × Bool :=
  match fuel, chars with
  | 0, _ | _, [] => (done.reverse, false)
  | _ + 1, '\\' :: 'c' :: _ => (done.reverse, true)
  | fuel + 1, '\\' :: '0' :: rest =>
    let (value, rest) := octal 3 rest
    unescape escapes fuel rest (Char.ofNat value :: done)
  | fuel + 1, '\\' :: rest =>
    let (c, rest) := escape escapes rest
    unescape escapes fuel rest (c :: done)
  | fuel + 1, c :: rest => unescape escapes fuel rest (c :: done)

/-- A text with its escapes resolved, and whether it ends all output. -/
def resolve (escapes : Escapes) (text : String) : String × Bool :=
  let (chars, ends) := unescape escapes (text.toList.length + 1) text.toList []
  (String.ofList chars, ends)

/-- The words of a line, up to the first one that ends all output. -/
def echoWords (escapes : Escapes) : List String → List String × Bool
  | [] => ([], false)
  | word :: rest =>
    let (text, ends) := resolve escapes word
    if ends then ([text], true)
    else
      let (texts, ends) := echoWords escapes rest
      (text :: texts, ends)

/-- What is written for words with escapes; a first word `-n` leaves the line open. -/
def echo (words : List String) : String :=
  let (isOpen, words) := match words with
    | "-n" :: rest => (true, rest)
    | words => (false, words)
  let (texts, ends) := echoWords .plain words
  " ".intercalate texts ++ if isOpen || ends then "" else "\n"

/-- What is written for words that stay as they are, unless the letters of options in front ask for
escapes or for an open line. -/
def echoWithOptions (words : List String) : String :=
  let isOption (word : String) : Bool :=
    match word.toList with
    | '-' :: letters => !letters.isEmpty && letters.all ['n', 'e', 'E'].contains
    | _ => false
  let options := words.takeWhile isOption
  let letters := options.flatMap (·.toList.drop 1)
  let words := words.drop options.length
  let isEscaped := (letters.filter (· != 'n')).getLast? = some 'e'
  let (texts, ends) := if isEscaped then echoWords .extended words else (words, false)
  " ".intercalate texts ++ if letters.contains 'n' || ends then "" else "\n"

/-! ## Conversions -/

/-- What is wrong with a format or with an argument. -/
inductive Complaint
  | noNumber (text : String)
  | leftOver (text : String)
  | outOfRange (text : String)
  | invalidDirective (directive : String)
  | missingLetter (directive : String)
  deriving DecidableEq, Repr

/-- The words for a complaint, as a plain shell has them. -/
def Complaint.message : Complaint → String
  | .noNumber text => s!"{text}: expected numeric value"
  | .leftOver text => s!"{text}: not completely converted"
  | .outOfRange text => s!"{text}: Numerical result out of range"
  | .invalidDirective directive => s!"{directive}: invalid directive"
  | .missingLetter _ => "missing format character"

/-- The words for a complaint, as an extended shell has them. -/
def Complaint.extendedMessage : Complaint → String
  | .noNumber text | .leftOver text => s!"{text}: invalid number"
  | .outOfRange text => s!"warning: {text}: Numerical result out of range"
  | .invalidDirective directive =>
    let letter := String.ofList (directive.toList.reverse.take 1)
    "\x60" ++ letter ++ "': invalid format character"
  | .missingLetter directive => "\x60" ++ directive ++ "': missing format character"

/-- The words for a complaint, as the utility has them. -/
def Complaint.utilityMessage : Complaint → String
  | .noNumber text => s!"'{text}': expected a numeric value"
  | .leftOver text => s!"'{text}': value not completely converted"
  | .outOfRange text => s!"'{text}': Numerical result out of range"
  | .invalidDirective directive => s!"{directive}: invalid conversion specification"
  | .missingLetter directive => s!"{directive}: invalid conversion specification"

/-- What has been written, the arguments that are left, and what is to be complained of. -/
structure Progress where
  escapes : Escapes
  written : List String := []
  arguments : List String
  complaints : List Complaint := []
  ends : Bool := false
  refused : Bool := false

/-- The next argument. -/
def Progress.next (progress : Progress) : Option String × Progress :=
  match progress.arguments with
  | [] => (none, progress)
  | argument :: rest => (some argument, { progress with arguments := rest })

/-- Writes a text. -/
def Progress.write (progress : Progress) (text : String) : Progress :=
  { progress with written := text :: progress.written }

/-- Notes a complaint. -/
def Progress.complain (progress : Progress) (complaint : Complaint) : Progress :=
  { progress with complaints := progress.complaints ++ [complaint] }

/-- Ends the output at a fault. -/
def Progress.refuse (progress : Progress) (complaint : Complaint) : Progress :=
  { progress.complain complaint with ends := true, refused := true }

/-- The code of the character after a quote. -/
def quotedCode? (text : String) : Option Nat :=
  match text.toList with
  | '\'' :: rest | '"' :: rest => some ((rest.head?.map Char.toNat).getD 0)
  | _ => none

/-- The sign, the digits and their base at the start of a number, with what follows. -/
def takeInteger (chars : List Char) : Bool × Option Nat × List Char :=
  let chars' := chars.dropWhile fun c => c == ' ' || ('\t' ≤ c && c ≤ '\r')
  let (isNegative, digits) := match chars' with
    | '-' :: rest => (true, rest)
    | '+' :: rest => (false, rest)
    | rest => (false, rest)
  match Arithmetic.takeLiteral digits with
  | some (size, rest) => (isNegative, some size, rest)
  | none => (false, none, chars)

/-- Notes what is wrong with a number that is followed by characters. -/
def Progress.check (progress : Progress) (text : String) (isNumber isOutOfRange : Bool)
    (rest : List Char) : Progress :=
  if !rest.isEmpty then progress.complain (if isNumber then .leftOver text else .noNumber text)
  else if isOutOfRange then progress.complain (.outOfRange text)
  else progress

/-- The integer that an argument gives. -/
def Progress.integer (progress : Progress) : Int × Progress :=
  match progress.next with
  | (none, progress) => (0, progress)
  | (some text, progress) =>
    match quotedCode? text with
    | some code => (code, progress)
    | none =>
      let (isNegative, digits?, rest) := takeInteger text.toList
      let value : Int := if isNegative then -(digits?.getD 0 : Int) else digits?.getD 0
      let kept := max Arithmetic.least (min Arithmetic.largest value)
      (kept, progress.check text digits?.isSome (kept != value) rest)

/-- The number without a sign that an argument gives. One below zero counts from the end. -/
def Progress.natural (progress : Progress) : Nat × Progress :=
  match progress.next with
  | (none, progress) => (0, progress)
  | (some text, progress) =>
    match quotedCode? text with
    | some code => (code, progress)
    | none =>
      let (isNegative, digits?, rest) := takeInteger text.toList
      let size := digits?.getD 0
      let isTooLarge := Arithmetic.modulus ≤ size
      let value := if isTooLarge then Arithmetic.modulus - 1
        else Arithmetic.unsigned (if isNegative then -(size : Int) else size)
      (value, progress.check text digits?.isSome isTooLarge rest)

/-- The floating-point number that an argument gives. -/
def Progress.float (progress : Progress) : Binary64 × Progress :=
  match progress.next with
  | (none, progress) => (.zero false, progress)
  | (some text, progress) =>
    match quotedCode? text with
    | some code => (.ofRatio false code 1, progress)
    | none =>
      match FloatText.read? text.toList with
      | some reading =>
        (reading.value, progress.check text true reading.outOfRange reading.rest)
      | none => (.zero false, progress.check text false false text.toList)

/-- Writes one conversion. -/
def Progress.convert (progress : Progress) (layout : Layout) (letter : Char) : Option Progress :=
  if letter == 's' then
    let (argument, progress) := progress.next
    some (progress.write (layout.text (argument.getD "")))
  else if letter == 'c' then
    let (argument, progress) := progress.next
    let c := ((argument.getD "").toList.head?).getD '\x00'
    some (progress.write (layout.pad (String.singleton c)))
  else if letter == 'b' then
    let (argument, progress) := progress.next
    let (text, ends) := resolve progress.escapes (argument.getD "")
    some { progress.write (layout.text text) with ends := ends }
  else if letter == 'd' || letter == 'i' then
    let (value, progress) := progress.integer
    some (progress.write (layout.integer value))
  else if ['o', 'u', 'x', 'X'].contains letter then
    let (value, progress) := progress.natural
    some (progress.write (layout.natural letter value))
  else if ['e', 'E', 'f', 'F', 'g', 'G', 'a', 'A'].contains letter then
    let (value, progress) := progress.float
    some (progress.write (layout.float letter value))
  else none

/-- Takes in the width and the precision of a conversion. An asterisk takes an argument. -/
def takeSizes (layout : Layout) (chars : List Char) (progress : Progress) :
    Layout × List Char × Progress :=
  let (layout, chars, progress) := match chars with
    | '*' :: rest =>
      let (value, progress) := progress.integer
      ({ layout with width := value.natAbs, left := layout.left || value < 0 }, rest, progress)
    | chars =>
      let (width, rest) := Layout.takeNumber chars
      ({ layout with width := width }, rest, progress)
  match chars with
  | '.' :: '*' :: rest =>
    let (value, progress) := progress.integer
    ({ layout with precision := if value < 0 then none else some value.toNat }, rest, progress)
  | '.' :: rest =>
    let (precision, rest) := Layout.takeNumber rest
    ({ layout with precision := some precision }, rest, progress)
  | chars => (layout, chars, progress)

/-- Uses a format once. -/
def useOnce (fuel : Nat) (format : List Char) (progress : Progress) : Progress :=
  match fuel with
  | 0 => progress
  | fuel + 1 =>
    if progress.ends then progress
    else
      match format with
      | [] => progress
      | '\\' :: 'c' :: rest =>
        if progress.escapes == .extended then { progress with ends := true }
        else useOnce fuel rest (progress.write "\\c")
      | '\\' :: rest =>
        let (c, rest) := escape progress.escapes rest
        useOnce fuel rest (progress.write (String.singleton c))
      | '%' :: '%' :: rest => useOnce fuel rest (progress.write "%")
      | '%' :: start =>
        let (layout, rest) := Layout.takeFlags start {}
        let (layout, rest, progress) := takeSizes layout rest progress
        let directive := String.ofList ('%' :: start.take (start.length - rest.length + 1))
        match rest with
        | letter :: rest =>
          match progress.convert layout letter with
          | some progress => useOnce fuel rest progress
          | none => progress.refuse (.invalidDirective directive)
        | [] => progress.refuse (.missingLetter directive)
      | c :: rest => useOnce fuel rest (progress.write (String.singleton c))

/-- Uses a format until no argument is left. -/
def useAll (fuel : Nat) (format : List Char) (progress : Progress) : Progress :=
  match fuel with
  | 0 => progress
  | fuel + 1 =>
    let next := useOnce (format.length + 1) format progress
    if next.ends || next.arguments.isEmpty ||
        next.arguments.length == progress.arguments.length then next
    else useAll fuel format next

/-- What a format comes to: what is written, what is wrong, and whether the format itself is. -/
structure Outcome where
  text : String
  complaints : List Complaint
  refused : Bool

/-- What a format writes for arguments. -/
def printf (escapes : Escapes) (format : String) (arguments : List String) : Outcome :=
  let start : Progress := { escapes := escapes, arguments := arguments }
  let progress := useAll (arguments.length + 1) format.toList start
  ⟨String.join progress.written.reverse, progress.complaints, progress.refused⟩

end EventHooks.Shell.Format
