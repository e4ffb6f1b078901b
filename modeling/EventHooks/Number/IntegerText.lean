import EventHooks.Text.Blank
import EventHooks.Text.DecimalDigit

/-!
# Integers written as text

An integer is an optional sign and decimal digits of any script, with single underscores between
digits and blanks around the whole. At most `digitLimit` digits are read, and at most as many are
written.
-/
namespace EventHooks.IntegerText

open Text

/-- The most digits of an integer that is converted from or to text. -/
def digitLimit : Nat := 4300

/-- Why a text is no integer. -/
inductive Fault
  | malformed
  | tooManyDigits (count : Nat)
  deriving DecidableEq, Repr

/-- A character as integers are read: any blank from U+0080 on is a space and any digit from there
on is an ASCII digit; no other character from the delete character on has a place in an integer. -/
def fold (c : Char) : Char :=
  if c.toNat < 0x7F then c
  else if isBlank c then ' '
  else
    match decimalDigit? c with
    | some value => Char.ofNat (0x30 + value)
    | none => '?'

/-- Digits with single underscores between them, as digit values, and what follows them. `none` for
an underscore that does not stand between two digits. `after` tells whether a digit stands just
before. -/
def scanDigits (after : Bool) (digits : List Nat) : List Char → Option (List Nat × List Char)
  | [] => if after || digits.isEmpty then some (digits.reverse, []) else none
  | c :: rest =>
    match asciiDigit? c with
    | some value => scanDigits true (value :: digits) rest
    | none =>
      if c = '_' then
        if after then scanDigits false digits rest else none
      else if after || digits.isEmpty then some (digits.reverse, c :: rest)
      else none

/-- The number that digit values write, most significant first. -/
def ofDigits (digits : List Nat) : Nat :=
  digits.foldl (fun number digit => number * 10 + digit) 0

/-- An optional sign: whether it is a minus, and what follows it. -/
def scanSign : List Char → Bool × List Char
  | '+' :: rest => (false, rest)
  | '-' :: rest => (true, rest)
  | chars => (false, chars)

/-- The integer with a sign and a magnitude. -/
def signed (negative : Bool) (magnitude : Nat) : Int :=
  if negative then -magnitude else magnitude

/-- Reads an integer. The count of digits is checked before what follows them. -/
def read (text : String) : Except Fault Int :=
  let (negative, body) := scanSign ((text.toList.map fold).dropWhile isAsciiBlank)
  match scanDigits false [] body with
  | none => .error .malformed
  | some (digits, rest) =>
    if digitLimit < digits.length then .error (.tooManyDigits digits.length)
    else if digits.isEmpty || !rest.all isAsciiBlank then .error .malformed
    else .ok (signed negative (ofDigits digits))

/-- Whether an integer has few enough digits to be written. -/
def Renders (number : Int) : Prop :=
  number.natAbs < Nat.pow 10 digitLimit

instance (number : Int) : Decidable (Renders number) :=
  inferInstanceAs (Decidable (number.natAbs < Nat.pow 10 digitLimit))

/-- An integer in decimal digits, without leading zeros. -/
def render (number : Int) : String :=
  match number with
  | .ofNat magnitude => String.ofList (Nat.toDigits 10 magnitude)
  | .negSucc less => String.ofList ('-' :: Nat.toDigits 10 (less + 1))

/-- The words for an integer that has too many digits to be written. -/
def unwritableMessage : String :=
  s!"Exceeds the limit ({digitLimit} digits) for integer string conversion; " ++
    "use sys.set_int_max_str_digits() to increase the limit"

/-- The words for too many digits. -/
def tooManyDigitsMessage (count : Nat) : String :=
  s!"Exceeds the limit ({digitLimit} digits) for integer string conversion: " ++
    s!"value has {count} digits; " ++ "use sys.set_int_max_str_digits() to increase the limit"

end EventHooks.IntegerText
