/-!
# Track identifiers

A track is named by a number of 128 bits. Its text form has 22 digits to the base 62, most
significant first, padded with zeros; numbers outside the range have no text form, and texts whose
number lies outside it are refused.
-/
namespace EventHooks

/-- The name of a track. -/
structure TrackId where
  raw : Int
  deriving DecidableEq, Repr

namespace TrackId

/-- The digits to the base 62, in the order of their values. -/
def alphabet : List Char :=
  "0123456789abcdefghijklmnopqrstuvwxyzABCDEFGHIJKLMNOPQRSTUVWXYZ".toList

/-- The digits of a text form. -/
def width : Nat := 22

/-- The first number without a text form. -/
def bound : Nat := Nat.pow 2 128

/-- The value of a digit. -/
def digitValue? (c : Char) : Option Nat :=
  alphabet.idxOf? c

/-- The digit of a value. -/
def digitChar (value : Nat) : Char :=
  alphabet.getD value '0'

/-- The last `count` digits of a number, most significant first. -/
def digits : Nat → Nat → List Char
  | 0, _ => []
  | count + 1, number => digits count (number / 62) ++ [digitChar (number % 62)]

/-- The number that elements write, most significant first, or the first failure to value one. -/
def ofElements {α ε : Type} (value : α → Except ε Nat) (elements : List α) : Except ε Nat :=
  elements.foldlM (fun number element => (value element).map (number * 62 + ·)) 0

/-- Why something is no text form. It is kept as it was given. -/
inductive Fault (α : Type)
  | length (given : α)
  | digit (element given : α)
  | range (given : α)
  deriving DecidableEq, Repr

/-- The identifier with a number, if it is in range. -/
def ofNumber {α : Type} (given : α) (number : Nat) : Except (Fault α) TrackId :=
  if number < bound then .ok ⟨number⟩ else .error (.range given)

/-- The value of a character of a text. -/
def readDigit (text : String) (c : Char) : Except (Fault String) Nat :=
  match digitValue? c with
  | some value => .ok value
  | none => .error (.digit (String.singleton c) text)

/-- Reads a text form. -/
def parse (text : String) : Except (Fault String) TrackId :=
  if text.length = width then
    match ofElements (readDigit text) text.toList with
    | .ok number => ofNumber text number
    | .error fault => .error fault
  else .error (.length text)

/-- The text form, if the number is in range. -/
def format? (id : TrackId) : Option String :=
  if 0 ≤ id.raw ∧ id.raw < bound then some (String.ofList (digits width id.raw.toNat)) else none

/-- The words for a fault, given how to show what was given. -/
def Fault.message {α : Type} (shown : α → String) : Fault α → String
  | .length given => s!"Track id must be {width} characters: {shown given}"
  | .digit element given => s!"Invalid base62 character {shown element} in {shown given}"
  | .range given => s!"Track id out of range: {shown given}"

end TrackId

end EventHooks
