import EventHooks.Text.ByteText
import EventHooks.Utility.Scanner.Number
import EventHooks.Utility.Scanner.Syntax

/-!
# Values of the pattern scanner

A value is a number or a text. A text from the input counts as a number if it writes one, and a
value that was never set counts as either.
-/
namespace EventHooks.Utility.Scanner

/-- A value. -/
inductive Value
  | unset
  | number (value : Float)
  | text (text : String)
  | input (text : String)

namespace Value

/-- The number at the start of a text. -/
def numberIn (text : String) : Float :=
  match FloatText.read? text.toList with
  | some reading => Number.ofBinary reading.value
  | none => 0.0

/-- The number that a whole text writes. -/
def wholeNumber? (text : String) : Option Float :=
  match FloatText.read? text.toList with
  | some reading =>
    if reading.rest.all CharClass.isSpace then some (Number.ofBinary reading.value) else none
  | none => none

/-- A value as a number. -/
def toNumber : Value → Float
  | .unset => 0.0
  | .number value => value
  | .text value | .input value => numberIn value

/-- A value as a text, with a format for numbers that are not whole. -/
def toText (format : String) : Value → String
  | .unset => ""
  | .number value => Number.textBy format value
  | .text value | .input value => value

/-- The number that a value counts as, if it does. -/
def number? : Value → Option Float
  | .unset => some 0.0
  | .number value => some value
  | .text _ => none
  | .input value => wholeNumber? value

/-- Whether a value counts as true. -/
def holds : Value → Bool
  | .unset => false
  | .number value => value != 0.0
  | .text value => value != ""
  | .input value => ((wholeNumber? value).map (· != 0.0)).getD (value != "")

/-- A truth value. -/
def ofBool (value : Bool) : Value :=
  .number (if value then 1.0 else 0.0)

/-- A natural number as a value. -/
def ofNat (value : Nat) : Value :=
  .number (Number.ofInt value)

/-- A value as a natural number. What is below zero or no number is none. -/
def toNat (value : Value) : Nat :=
  ((Number.truncated? value.toNumber).getD 0).toNat

/-- Whether a comparison holds for values. Two numbers are compared as such, all else as texts. -/
def compare (format : String) (comparison : Comparison) (first second : Value) : Bool :=
  match first.number?, second.number? with
  | some x, some y =>
    match comparison with
    | .less => x < y
    | .atMost => x ≤ y
    | .equal => x == y
    | .different => x != y
    | .greater => y < x
    | .atLeast => y ≤ x
  | _, _ =>
    let x := first.toText format
    let y := second.toText format
    match comparison with
    | .less => x < y
    | .atMost => !(y < x)
    | .equal => x == y
    | .different => x != y
    | .greater => y < x
    | .atLeast => !(x < y)

end Value

/-- The exact remainder of a division, with the sign of the dividend. -/
def remainder (x y : Float) : Float :=
  match Number.toBinary x, Number.toBinary y with
  | .finite negative first power, .finite _ second other =>
    let least := min power other
    let first := first * Nat.pow 2 (power - least).toNat
    let second := second * Nat.pow 2 (other - least).toNat
    if second = 0 then 0.0 / 0.0
    else
      let rest := first % second
      Number.ofBinary (Binary64.ofRatio negative (rest * Nat.pow 2 least.toNat)
        (Nat.pow 2 (-least).toNat))
  | .finite .., .infinite _ => x
  | _, _ => 0.0 / 0.0

/-- The result of an operation. -/
def Operation.apply (operation : Operation) (x y : Float) : Float :=
  match operation with
  | .add => x + y
  | .subtract => x - y
  | .multiply => x * y
  | .divide => x / y
  | .remainder => Scanner.remainder x y
  | .power => Float.pow x y

/-! ## Texts -/

/-- The pieces of characters between blanks. -/
def blankPieces (chars : List Char) : List String :=
  let isBlank (c : Char) : Bool := c == ' ' || c == '\t' || c == '\n'
  let runs := chars.splitBy fun first second => isBlank first == isBlank second
  (runs.filter fun run => !run.any isBlank).map String.ofList

/-- The pieces of a text between the matches of an expression. -/
def matchPieces (regex : Regex) (chars : Array Char) : Nat → Nat → Nat → List String
  | 0, _, _ => []
  | fuel + 1, start, place =>
    let piece (stop : Nat) : String := String.ofList (chars.extract start stop).toList
    match regex.search? ⟨chars, false⟩ place with
    | none => [piece chars.size]
    | some found =>
      if found.stop = found.start then
        if chars.size ≤ found.stop then [piece chars.size]
        else matchPieces regex chars fuel start (found.stop + 1)
      else piece found.start :: matchPieces regex chars fuel found.stop found.stop

/-- How texts are parted: at blanks, into single characters, at a character, or at the matches of an
expression. -/
inductive Separator
  | blanks
  | everywhere
  | char (c : Char)
  | regex (regex : Regex)

/-- The parts of a text. -/
def Separator.parts (separator : Separator) (text : String) : List String :=
  let chars := text.toList
  match separator with
  | .blanks => blankPieces chars
  | .everywhere => chars.map String.singleton
  | .char mark =>
    if chars.isEmpty then []
    else
      let (line, done) := chars.foldr (fun c (line, done) =>
        if c == mark then ([], String.ofList line :: done) else (c :: line, done)) ([], [])
      String.ofList line :: done
  | .regex wanted =>
    if chars.isEmpty then [] else matchPieces wanted chars.toArray (chars.length + 2) 0 0

/-- An integer kept to 32 bits: one that is too large or too small becomes the last one there is. -/
def clipped (value : Int) : Int :=
  max (-2147483647) (min 2147483647 value)

/-- A part of a text: some number of characters from a place on, counted from one. A part that would
start before the text starts with it, and is longer by as much. -/
def partOf (text : String) (first : Int) (count? : Option Int) : String :=
  let chars := text.toList
  let count := match count? with
    | some count =>
      if 1 ≤ first then count else (clipped count - clipped first).bmod (Nat.pow 2 32)
    | none => chars.length
  String.ofList ((chars.drop (first - 1).toNat).take count.toNat)

/-- Where a text starts in another one, counted from one, or zero. -/
def indexOf (text part : List Char) : Nat :=
  let places := List.range (text.length + 1)
  match places.find? fun place => part.isPrefixOf (text.drop place) with
  | some place => if text.length < place + part.length then 0 else place + 1
  | none => 0

/-- What takes the place of a match: an ampersand stands for the match, unless a backslash is before
it. -/
def replacementText (found : List Char) : List Char → List Char
  | '\\' :: '&' :: rest => '&' :: replacementText found rest
  | '\\' :: '\\' :: rest => '\\' :: replacementText found rest
  | '&' :: rest => found ++ replacementText found rest
  | c :: rest => c :: replacementText found rest
  | [] => []

/-- Replaces matches from a place on, one or all, and counts them. An empty match at the end of the
one before is none. -/
def replaceMatches (regex : Regex) (replacement : List Char) (all : Bool) (chars : Array Char) :
    Nat → Nat → Option Nat → List Char × Nat
  | 0, _, _ => ([], 0)
  | fuel + 1, place, last? =>
    let part (start stop : Nat) : List Char := (chars.extract start stop).toList
    match regex.search? ⟨chars, false⟩ place with
    | none => (part place chars.size, 0)
    | some found =>
      let isEmpty := found.start == found.stop
      if isEmpty && last? == some found.start then
        let (rest, count) := if chars.size ≤ found.stop then ([], 0)
          else replaceMatches regex replacement all chars fuel (found.stop + 1) none
        (part place (found.stop + 1) ++ rest, count)
      else
        let before := part place found.start
        let written := replacementText (part found.start found.stop) replacement
        if !all then (before ++ written ++ part found.stop chars.size, 1)
        else
          let stop := if isEmpty then found.stop + 1 else found.stop
          let kept := if isEmpty then part found.stop stop else []
          let (rest, count) := if chars.size < stop then ([], 0)
            else replaceMatches regex replacement all chars fuel stop (some found.stop)
          (before ++ written ++ kept ++ rest, count + 1)

end EventHooks.Utility.Scanner
