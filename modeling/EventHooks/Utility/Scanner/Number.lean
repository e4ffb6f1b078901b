import EventHooks.Text.Layout

/-!
# Numbers of the pattern scanner

Calculations are done with doubles. A whole number is written with all its digits, any other one as
a format says.
-/
namespace EventHooks.Utility.Scanner.Number

/-- The double with an exact value. -/
def ofBinary : Binary64 → Float
  | .nan => 0.0 / 0.0
  | .infinite negative => if negative then -1.0 / 0.0 else 1.0 / 0.0
  | .finite negative significand exponent =>
    let hidden := Nat.pow 2 52
    let bits := if significand < hidden then significand
      else (exponent + 1075).toNat * hidden + (significand - hidden)
    Float.ofBits ((if negative then Nat.pow 2 63 else 0) + bits).toUInt64

/-- The exact value of a double. -/
def toBinary (value : Float) : Binary64 :=
  let bits := value.toBits.toNat
  let hidden := Nat.pow 2 52
  let negative := Nat.pow 2 63 ≤ bits
  let magnitude := bits % Nat.pow 2 63
  let exponent := magnitude / hidden
  let fraction := magnitude % hidden
  if exponent = 2047 then if fraction = 0 then .infinite negative else .nan
  else if exponent = 0 then .finite negative fraction Binary64.leastExponent
  else .finite negative (fraction + hidden) (exponent - 1075)

/-- The integer part of a double. -/
def truncated? (value : Float) : Option Int :=
  (toBinary value).truncate.toOption

/-- The double of an integer. -/
def ofInt (value : Int) : Float :=
  ofBinary (Binary64.ofRatio (value < 0) value.natAbs 1)

/-- A double in the style of a letter. -/
def shaped (layout : Layout) (letter : Char) (value : Float) : String :=
  if value.isNaN then layout.pad "-nan" else layout.float letter (toBinary value)

/-- A double as a format for one number writes it. -/
def formatted (format : String) (value : Float) : String :=
  let chars := format.toList
  let before := chars.takeWhile (· != '%')
  match chars.drop before.length with
  | [] => format
  | _ :: rest =>
    let (layout, rest) := Layout.takeFlags rest {}
    let (width, rest) := Layout.takeNumber rest
    let (precision?, rest) := match rest with
      | '.' :: rest =>
        let (precision, rest) := Layout.takeNumber rest
        (some precision, rest)
      | rest => (none, rest)
    let layout := { layout with width := width, precision := precision? }
    match rest with
    | letter :: rest =>
      let shown := if "eEfFgGaA".toList.contains letter then shaped layout letter value
        else layout.integer ((truncated? value).getD 0)
      String.ofList before ++ shown ++ String.ofList rest
    | [] => format

/-- A double as a text: a whole number of moderate size with all its digits, and any other one as a
format says. -/
def textBy (format : String) (value : Float) : String :=
  match truncated? value with
  | some whole =>
    if ofInt whole == value && -Int.pow 2 63 ≤ whole && whole ≤ Int.pow 2 64 then
      toString (min whole (Int.pow 2 64 - 1))
    else formatted format value
  | none => formatted format value

/-- The format of numbers that are not whole. -/
def defaultFormat : String := "%.6g"

/-- A double as a text. -/
def text (value : Float) : String :=
  textBy defaultFormat value

end EventHooks.Utility.Scanner.Number
