import EventHooks.Number.Binary64

/-!
# Shortest decimal text of a double

A finite double is written with the fewest digits that read back as the same double, and of those
the nearest. The candidates of a digit count are the two neighbours of the value on the decimal
grid of that count: if any point of the grid reads back, one of the neighbours does.
-/
namespace EventHooks.Binary64

/-- How the digits of a double are laid out. -/
structure Layout where
  /-- Numbers below this power of ten in size are written with an exponent. -/
  leastPositional : Int
  /-- Numbers from this power of ten on are written with an exponent. -/
  greatestPositional : Int
  /-- The fewest digits of an exponent. -/
  exponentWidth : Nat

/-- From 0.0001 up to 10^16 digits stand in their places; exponents have two digits at least. -/
def layout : Layout := ⟨-4, 16, 2⟩

/-- A positive double as a ratio. -/
def ratio (significand : Nat) (exponent : Int) : Nat × Nat :=
  (significand * Nat.pow 2 exponent.toNat, Nat.pow 2 (-exponent).toNat)

/-- The greatest power of ten that is at most a positive ratio of size 10^-400 at least. -/
def decimalExponent (num den : Nat) : Int :=
  (Nat.toDigits 10 (num * Nat.pow 10 400 / den)).length - 401

/-- The reals that round to a positive double, in quarters of its last place: the distances down
and up. Below a power of two the doubles lie twice as dense. -/
def quarters (significand : Nat) (exponent : Int) : Nat × Nat :=
  if significand = Nat.pow 2 (precision - 1) ∧ leastExponent < exponent then (1, 2) else (2, 2)

/-- Whether a multiple of a power of ten rounds to a positive double. The ends of the interval do
exactly if the significand is even. -/
def readsBack (significand : Nat) (exponent : Int) (multiple : Nat) (power : Int) : Bool :=
  let (down, up) := quarters significand exponent
  let (num, den) := ratio 1 exponent
  let scale := num * Nat.pow 10 (-power).toNat
  let point := 4 * multiple * Nat.pow 10 power.toNat * den
  let low := (4 * significand - down) * scale
  let high := (4 * significand + up) * scale
  if significand % 2 = 0 then low ≤ point && point ≤ high else low < point && point < high

/-- The nearest multiple of the power of ten with `count` digits that reads back, if one does. -/
def candidate? (significand : Nat) (exponent : Int) (count : Nat) : Option (Nat × Int) :=
  let (num, den) := ratio significand exponent
  let power := decimalExponent num den - count + 1
  let top := num * Nat.pow 10 (-power).toNat
  let bottom := den * Nat.pow 10 power.toNat
  let below := top / bottom
  let nearest := roundDiv top bottom
  let other := if nearest = below then below + 1 else below
  ([nearest, other].find? fun multiple => readsBack significand exponent multiple power).map
    fun multiple => (multiple, power)

/-- The shortest digits of a positive double and the power of ten that their number counts. -/
def shortest (significand : Nat) (exponent : Int) : Nat × Int :=
  ((List.range' 1 17).findSome? (candidate? significand exponent)).getD (significand, exponent)

/-- Digits without the zeros at the end; one digit stays. -/
def significantDigits (digits : Nat) : List Char :=
  match ((Nat.toDigits 10 digits).reverse.dropWhile (· == '0')).reverse with
  | [] => ['0']
  | kept => kept

/-- Digits in their places: `point` of them stand before the decimal point. -/
def positional (digits : List Char) (point : Int) : List Char :=
  if point ≤ 0 then '0' :: '.' :: (List.replicate (-point).toNat '0' ++ digits)
  else
    let whole := digits.take point.toNat
    let rest := digits.drop point.toNat
    whole ++ List.replicate (point.toNat - whole.length) '0' ++
      '.' :: (if rest.isEmpty then ['0'] else rest)

/-- Digits with an exponent: one of them stands before the decimal point. -/
def scientific (form : Layout) (digits : List Char) (exponent : Int) : List Char :=
  let size := Nat.toDigits 10 exponent.natAbs
  let fraction := digits.drop 1
  digits.take 1 ++ (if fraction.isEmpty then [] else '.' :: fraction) ++
    'e' :: (if exponent < 0 then '-' else '+') ::
      (List.replicate (form.exponentWidth - size.length) '0' ++ size)

/-- The digits of a finite double without its sign. -/
def renderMagnitude (form : Layout) (significand : Nat) (exponent : Int) : List Char :=
  if significand = 0 then positional ['0'] 1
  else
    let (number, power) := shortest significand exponent
    let point := (Nat.toDigits 10 number).length + power
    let digits := significantDigits number
    if form.leastPositional < point ∧ point ≤ form.greatestPositional then positional digits point
    else scientific form digits (point - 1)

/-- The text of a double. -/
def render : Binary64 → String
  | .nan => "nan"
  | .infinite negative => if negative then "-inf" else "inf"
  | .finite negative significand exponent =>
    String.ofList ((if negative then ['-'] else []) ++ renderMagnitude layout significand exponent)

end EventHooks.Binary64
