import EventHooks.Number.Binary64

/-!
# Floating-point numbers in a chosen number of digits

A number is written with a fixed number of digits after the point, with an exponent, in whichever
of both ways suits its size, or in hexadecimal digits. Digits are computed on natural numbers and
rounded to the nearest, a tie to the even one. Reading takes the longest start of a text that is a
number.
-/
namespace EventHooks.FloatText

/-! ## Writing -/

/-- The greatest power of ten that is at most a positive ratio. -/
def decimalExponent (num den : Nat) : Int :=
  let guess : Int := (Nat.toDigits 10 num).length - (Nat.toDigits 10 den).length
  if den * Nat.pow 10 guess.toNat ≤ num * Nat.pow 10 (-guess).toNat then guess else guess - 1

/-- A ratio times a power of ten, rounded to a natural number. -/
def roundedAt (num den : Nat) (power : Int) : Nat :=
  Binary64.roundDiv (num * Nat.pow 10 power.toNat) (den * Nat.pow 10 (-power).toNat)

/-- Digits with a point before the last ones, and without it if there are none after it. -/
def pointed (keepsPoint : Bool) (digits : List Char) (places : Nat) : List Char :=
  let padded := List.replicate (places + 1 - digits.length) '0' ++ digits
  let count := padded.length - places
  padded.take count ++ (if places = 0 && !keepsPoint then [] else ['.']) ++ padded.drop count

/-- A ratio with some digits after the point. -/
def fixed (keepsPoint : Bool) (places num den : Nat) : List Char :=
  pointed keepsPoint (Nat.toDigits 10 (roundedAt num den places)) places

/-- The digits of a ratio, one before the point and some after it, with the exponent. -/
def scientificDigits (places num den : Nat) : Nat × Int :=
  if num = 0 then (0, 0)
  else
    let exponent := decimalExponent num den
    let digits := roundedAt num den (places - exponent)
    if digits = Nat.pow 10 (places + 1) then (Nat.pow 10 places, exponent + 1)
    else (digits, exponent)

/-- An exponent with its sign and at least two digits. -/
def exponentText (mark : Char) (least : Nat) (exponent : Int) : List Char :=
  let size := Nat.toDigits 10 exponent.natAbs
  mark :: (if exponent < 0 then '-' else '+') :: (List.replicate (least - size.length) '0' ++ size)

/-- A ratio with one digit before the point, some after it, and an exponent. -/
def scientific (keepsPoint : Bool) (places num den : Nat) : List Char :=
  let (digits, exponent) := scientificDigits places num den
  pointed keepsPoint (Nat.toDigits 10 digits) places ++ exponentText 'e' 2 exponent

/-- Digits without the zeros at the end of their fraction, and without a point at the end. -/
def trimmed (digits : List Char) : List Char :=
  if digits.contains '.' then
    let kept := (digits.reverse.dropWhile (· == '0'))
    (if kept.head? = some '.' then kept.drop 1 else kept).reverse
  else digits

/-- A ratio with some significant digits: in their places if its size is moderate, with an exponent
otherwise. -/
def general (keepsPoint : Bool) (precision num den : Nat) : List Char :=
  let precision := max 1 precision
  let (digits, exponent) := scientificDigits (precision - 1) num den
  let trim (digits : List Char) : List Char := if keepsPoint then digits else trimmed digits
  if -4 ≤ exponent ∧ exponent < precision then
    trim (fixed keepsPoint (precision - 1 - exponent).toNat num den)
  else
    trim (pointed keepsPoint (Nat.toDigits 10 digits) (precision - 1)) ++
      exponentText 'e' 2 exponent

/-- How many hexadecimal digits a significand has after its first bit. -/
def hexPlaces : Nat := 13

/-- A significand and an exponent in hexadecimal digits. -/
def hexadecimal (keepsPoint : Bool) (places? : Option Nat) (significand : Nat) (exponent : Int) :
    List Char :=
  let places := places?.getD hexPlaces
  let unit := Nat.pow 16 (hexPlaces - places)
  let digits := Binary64.roundDiv significand unit * Nat.pow 16 (places - hexPlaces)
  let shown := if significand = 0 then 0
    else if significand < Nat.pow 16 hexPlaces then Binary64.leastExponent + 52 else exponent + 52
  let text := pointed keepsPoint (Nat.toDigits 16 digits) places
  ['0', 'x'] ++ (if places?.isNone && !keepsPoint then trimmed text else text) ++
    exponentText 'p' 1 shown

/-- The sign of a number, and its digits in the style of a letter. -/
def render (letter : Char) (keepsPoint : Bool) (precision? : Option Nat) :
    Binary64 → Bool × List Char
  | .nan => (false, ['n', 'a', 'n'])
  | .infinite negative => (negative, ['i', 'n', 'f'])
  | .finite negative significand exponent =>
    let num := significand * Nat.pow 2 exponent.toNat
    let den := Nat.pow 2 (-exponent).toNat
    let precision := precision?.getD 6
    let digits := match letter.toLower with
      | 'f' => fixed keepsPoint precision num den
      | 'e' => scientific keepsPoint precision num den
      | 'g' => general keepsPoint precision num den
      | _ => hexadecimal keepsPoint precision? significand exponent
    (negative, digits)

/-! ## Reading -/

/-- A number at the start of a text, what follows it, and whether its size is out of range. -/
structure Reading where
  value : Binary64
  rest : List Char
  outOfRange : Bool := false

/-- The value of a hexadecimal digit. -/
def hexDigit? (c : Char) : Option Nat :=
  if c.isDigit then some (c.toNat - '0'.toNat)
  else if 'a' ≤ c ∧ c ≤ 'f' then some (c.toNat - 'a'.toNat + 10)
  else if 'A' ≤ c ∧ c ≤ 'F' then some (c.toNat - 'A'.toNat + 10)
  else none

/-- The value of digits to a base. -/
def digitsValue (base : Nat) (digits : List Char) : Nat :=
  digits.foldl (fun value c => value * base + (hexDigit? c).getD 0) 0

/-- The digits before and after a point, and what follows. -/
def takePointed (isDigit : Char → Bool) (chars : List Char) :
    List Char × List Char × List Char :=
  let whole := chars.takeWhile isDigit
  match chars.drop whole.length with
  | '.' :: rest =>
    let fraction := rest.takeWhile isDigit
    if whole.isEmpty && fraction.isEmpty then ([], [], chars)
    else (whole, fraction, rest.drop fraction.length)
  | rest => (whole, [], rest)

/-- An exponent after a mark, and what follows. -/
def takeExponent (mark : Char) (chars : List Char) : Int × List Char :=
  match chars with
  | c :: rest =>
    if c.toLower == mark then
      let (isNegative, digits) := match rest with
        | '-' :: digits => (true, digits)
        | '+' :: digits => (false, digits)
        | digits => (false, digits)
      let run := digits.takeWhile (·.isDigit)
      if run.isEmpty then (0, chars)
      else
        let size : Int := digitsValue 10 run
        (if isNegative then -size else size, digits.drop run.length)
    else (0, chars)
  | [] => (0, [])

/-- Whether a number that is no zero has become one or is below the normal numbers, or has become
infinite. -/
def leavesRange (digits : Nat) : Binary64 → Bool
  | .infinite _ => true
  | .finite _ significand _ => digits != 0 && significand < Nat.pow 2 52
  | .nan => false

/-- The number of magnitude at the start of characters. -/
def readMagnitude (negative : Bool) (chars : List Char) : Option Reading :=
  let lower := (chars.take 8).map Char.toLower
  if ['i', 'n', 'f', 'i', 'n', 'i', 't', 'y'].isPrefixOf lower then
    some { value := .infinite negative, rest := chars.drop 8 }
  else if ['i', 'n', 'f'].isPrefixOf lower then
    some { value := .infinite negative, rest := chars.drop 3 }
  else if ['n', 'a', 'n'].isPrefixOf lower then some { value := .nan, rest := chars.drop 3 }
  else
    let isHex (c : Char) : Bool := (hexDigit? c).isSome
    let (hexWhole, hexFraction, hexRest) := match lower with
      | '0' :: 'x' :: _ => takePointed isHex (chars.drop 2)
      | _ => ([], [], chars)
    if !hexWhole.isEmpty || !hexFraction.isEmpty then
      let digits := digitsValue 16 (hexWhole ++ hexFraction)
      let (exponent, rest) := takeExponent 'p' hexRest
      let power := max (-5000) (min 5000 (exponent - 4 * (hexFraction.length : Int)))
      let value := Binary64.ofRatio negative (digits * Nat.pow 2 power.toNat)
        (Nat.pow 2 (-power).toNat)
      some { value := value, rest := rest, outOfRange := leavesRange digits value }
    else
      let (whole, fraction, rest) := takePointed (·.isDigit) chars
      if whole.isEmpty && fraction.isEmpty then none
      else
        let digits := digitsValue 10 (whole ++ fraction)
        let (exponent, rest) := takeExponent 'e' rest
        let value := Binary64.ofDecimal negative digits (exponent - fraction.length)
        some { value := value, rest := rest, outOfRange := leavesRange digits value }

/-- The number at the start of characters, after blanks and with a sign. -/
def read? (chars : List Char) : Option Reading :=
  match chars.dropWhile fun c => c == ' ' || ('\t' ≤ c && c ≤ '\r') with
  | '-' :: rest => readMagnitude true rest
  | '+' :: rest => readMagnitude false rest
  | rest => readMagnitude false rest

end EventHooks.FloatText
