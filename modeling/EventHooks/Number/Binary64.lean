import EventHooks.Number.IntegerText

/-!
# Binary floating-point numbers

Numbers with a fraction or an exponent are doubles. A finite double is kept exactly, as a
significand times a power of two, so that its integer part and its shortest decimal text are
computed on natural numbers. A decimal that is too large becomes an infinity.
-/
namespace EventHooks

/-- A double. The value of `finite negative significand exponent` is the significand times two to
the exponent, with its sign. -/
inductive Binary64
  | nan
  | infinite (negative : Bool)
  | finite (negative : Bool) (significand : Nat) (exponent : Int)
  deriving DecidableEq, Repr

namespace Binary64

/-- The bits of a significand. -/
def precision : Nat := 53

/-- The least exponent. -/
def leastExponent : Int := -1074

/-- The greatest exponent. -/
def greatestExponent : Int := 971

/-- Zero with a sign. -/
def zero (negative : Bool) : Binary64 := .finite negative 0 leastExponent

/-- Whether a double is one of the two zeros. -/
def isZero : Binary64 → Bool
  | .finite _ 0 _ => true
  | _ => false

/-- A quotient rounded to the nearest integer, a tie to the even one. -/
def roundDiv (num den : Nat) : Nat :=
  let quotient := num / den
  let twice := 2 * (num % den)
  if twice < den then quotient
  else if den < twice then quotient + 1
  else quotient + quotient % 2

/-- The two terms of a ratio divided by a power of two. -/
def scaled (num den : Nat) (exponent : Int) : Nat × Nat :=
  (num * Nat.pow 2 (-exponent).toNat, den * Nat.pow 2 exponent.toNat)

/-- The exponent at which a positive ratio has a significand of full precision, or the least one. -/
def exponentOf (num den : Nat) : Int :=
  let guess : Int := (num.log2 : Int) - den.log2 - precision
  let (top, bottom) := scaled num den guess
  max leastExponent (if Nat.pow 2 precision ≤ top / bottom then guess + 1 else guess)

/-- The double nearest to a ratio. -/
def ofRatio (negative : Bool) (num den : Nat) : Binary64 :=
  if num = 0 then zero negative
  else
    let exponent := exponentOf num den
    let (top, bottom) := scaled num den exponent
    let rounded := roundDiv top bottom
    let (significand, exponent) :=
      if rounded = Nat.pow 2 precision then (Nat.pow 2 (precision - 1), exponent + 1)
        else (rounded, exponent)
    if greatestExponent < exponent then .infinite negative
    else .finite negative significand exponent

/-- The double nearest to a decimal, given by its digits as one number and the power of ten that
this number counts. Beyond ten to the power of 400, in either direction, the digits decide
nothing. -/
def ofDecimal (negative : Bool) (digits : Nat) (power : Int) : Binary64 :=
  let size := (Nat.toDigits 10 digits).length + power
  if digits = 0 ∨ size < -400 then zero negative
  else if 400 < size then .infinite negative
  else ofRatio negative (digits * Nat.pow 10 power.toNat) (Nat.pow 10 (-power).toNat)

/-- Why a double has no integer part. -/
inductive NoInteger
  | notANumber
  | infinite
  deriving DecidableEq, Repr

/-- The integer part, rounded toward zero. -/
def truncate : Binary64 → Except NoInteger Int
  | .nan => .error .notANumber
  | .infinite _ => .error .infinite
  | .finite negative significand exponent =>
    .ok (IntegerText.signed negative
      (significand * Nat.pow 2 exponent.toNat / Nat.pow 2 (-exponent).toNat))

end Binary64

end EventHooks
