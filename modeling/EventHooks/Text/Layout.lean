import EventHooks.Number.FloatText

/-!
# Layouts

A layout says how a text or a number is set out: at least so wide, on the left or on the right, with
a sign, with zeros in front, and with how many digits.
-/
namespace EventHooks

/-- How a conversion sets out its text. -/
structure Layout where
  left : Bool := false
  plus : Bool := false
  blank : Bool := false
  alternate : Bool := false
  zeros : Bool := false
  width : Nat := 0
  precision : Option Nat := none
  deriving DecidableEq, Repr

namespace Layout

/-- Pads a text to the width. -/
def pad (layout : Layout) (text : String) : String :=
  let gap := String.ofList (List.replicate (layout.width - text.length) ' ')
  if layout.left then text ++ gap else gap ++ text

/-- A number after its sign, with zeros between them if the layout asks for these. -/
def padNumber (layout : Layout) (fillsZeros : Bool) (sign digits : String) : String :=
  if layout.zeros && !layout.left && fillsZeros then
    let gap := layout.width - sign.length - digits.length
    sign ++ String.ofList (List.replicate gap '0') ++ digits
  else layout.pad (sign ++ digits)

/-- The sign that is written. -/
def sign (layout : Layout) (isNegative : Bool) : String :=
  if isNegative then "-" else if layout.plus then "+" else if layout.blank then " " else ""

/-- A text of at most as many characters as the precision tells. -/
def text (layout : Layout) (text : String) : String :=
  layout.pad (match layout.precision with
    | some count => String.ofList (text.toList.take count)
    | none => text)

/-- The digits of a number, of which the precision asks for a least count. Zero has none of its
own if it asks for none. -/
def digits (layout : Layout) (base value : Nat) : String :=
  let shown := if value = 0 && layout.precision == some 0 then [] else Nat.toDigits base value
  String.ofList (List.replicate (layout.precision.getD 0 - shown.length) '0' ++ shown)

/-- An integer in decimal digits. -/
def integer (layout : Layout) (value : Int) : String :=
  layout.padNumber layout.precision.isNone (layout.sign (value < 0))
    (layout.digits 10 value.natAbs)

/-- A natural number in the style of a letter: decimal, octal or hexadecimal. -/
def natural (layout : Layout) (letter : Char) (value : Nat) : String :=
  let fills := layout.precision.isNone
  match letter with
  | 'o' =>
    let digits := layout.digits 8 value
    let lead := if layout.alternate && digits.toList.head? != some '0' then "0" else ""
    layout.padNumber fills "" (lead ++ digits)
  | 'x' | 'X' =>
    let lead := if layout.alternate && value != 0 then "0x" else ""
    let text := layout.padNumber fills lead (layout.digits 16 value)
    if letter == 'X' then text.map Char.toUpper else text
  | _ => layout.padNumber fills "" (layout.digits 10 value)

/-- A floating-point number in the style of a letter. -/
def float (layout : Layout) (letter : Char) (value : Binary64) : String :=
  let (isNegative, digits) :=
    FloatText.render letter layout.alternate layout.precision value
  let isNumber := match value with
    | .finite .. => true
    | _ => false
  let text := match digits with
    | '0' :: 'x' :: rest =>
      layout.padNumber isNumber (layout.sign isNegative ++ "0x") (String.ofList rest)
    | digits => layout.padNumber isNumber (layout.sign isNegative) (String.ofList digits)
  if letter.isUpper then text.map Char.toUpper else text

/-- Takes in the flags at the start of characters. -/
def takeFlags : List Char → Layout → Layout × List Char
  | '-' :: rest, layout => takeFlags rest { layout with left := true }
  | '+' :: rest, layout => takeFlags rest { layout with plus := true }
  | ' ' :: rest, layout => takeFlags rest { layout with blank := true }
  | '#' :: rest, layout => takeFlags rest { layout with alternate := true }
  | '0' :: rest, layout => takeFlags rest { layout with zeros := true }
  | chars, layout => (layout, chars)

/-- The decimal number at the start of characters. -/
def takeNumber (chars : List Char) : Nat × List Char :=
  let digits := chars.takeWhile (·.isDigit)
  (FloatText.digitsValue 10 digits, chars.drop digits.length)

end Layout

end EventHooks
