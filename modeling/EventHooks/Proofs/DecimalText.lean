import EventHooks.Number.IntegerText
import Mathlib.Data.List.Basic
import Mathlib.Data.List.Induction
import Mathlib.Data.Nat.Digits.Defs
import Mathlib.Logic.Function.Basic
import Mathlib.Tactic.SplitIfs

/-!
# Decimal texts of integers

An integer is written as a numeral without leading zeros, after a minus if it is negative. The
numeral is within the limit of digits exactly if the integer is one that renders.
-/
namespace EventHooks.IntegerText

/-- Exactly the numerals without leading zeros: digits, of which the first is a zero only if it is
the only one. -/
def IsNumeral (digits : List Char) : Prop :=
  digits ≠ [] ∧ (∀ c ∈ digits, '0' ≤ c ∧ c ≤ '9') ∧ (digits.head? = some '0' → digits = ['0'])

/-- A text is a numeral, or a minus and a numeral, that writes a number. -/
structure IsDecimal (negative : Bool) (digits : List Char) (text : String) (number : Int) :
    Prop where
  numeral : IsNumeral digits
  form : text.toList = if negative then '-' :: digits else digits
  value : number = signed negative (Nat.ofDigitChars 10 digits 0)

/-! ## Digits -/

theorem mem_toDigits {number : Nat} {c : Char} (member : c ∈ Nat.toDigits 10 number) :
    '0' ≤ c ∧ c ≤ '9' := by
  have digit := Nat.isDigit_of_mem_toDigits (by decide) (by decide) member
  simpa [Char.isDigit, Char.le_def] using digit

theorem minus_not_mem_toDigits (number : Nat) : '-' ∉ Nat.toDigits 10 number :=
  fun member => absurd (mem_toDigits member).1 (by decide)

theorem toDigits_injective : Function.Injective (Nat.toDigits 10) := by
  intro first second same
  have read := congrArg (Nat.ofDigitChars 10 · 0) same
  simpa only [Nat.ofDigitChars_ten_toDigits] using read

/-- The first digit of a positive number is no zero. -/
theorem head?_toDigits {number : Nat} (positive : 0 < number) :
    (Nat.toDigits 10 number).head? ≠ some '0' := by
  induction number using Nat.strongRecOn with
  | ind number ih =>
    by_cases small : number < 10
    · have digit : ∀ value < 10, 0 < value → value.digitChar ≠ '0' := by decide
      rw [Nat.toDigits_of_lt_base small, List.head?_singleton]
      exact fun same => digit number small positive (Option.some.inj same)
    · rw [Nat.toDigits_of_base_le (by decide) (by omega),
        List.head?_append_of_ne_nil _ Nat.toDigits_ne_nil]
      exact ih (number / 10) (by omega) (by omega)

theorem isNumeral_toDigits (number : Nat) : IsNumeral (Nat.toDigits 10 number) := by
  refine ⟨Nat.toDigits_ne_nil, fun c => mem_toDigits, fun zero => ?_⟩
  rcases Nat.eq_zero_or_pos number with rfl | positive
  · exact Nat.toDigits_zero 10
  · exact absurd zero (head?_toDigits positive)

theorem length_toDigits_le_limit {number : Nat} :
    (Nat.toDigits 10 number).length ≤ digitLimit ↔ number < Nat.pow 10 digitLimit := by
  have positive : 0 < digitLimit := by decide
  rw [Nat.length_toDigits_le_iff (by decide) positive, Nat.pow_eq]

/-! ## Integers -/

/-- An integer is written as a decimal text; its digits are within the limit exactly if it
    renders. -/
theorem exists_isDecimal (number : Int) : ∃ negative digits,
    IsDecimal negative digits (render number) number ∧
      (digits.length ≤ digitLimit ↔ Renders number) := by
  cases number with
  | ofNat magnitude =>
    refine ⟨false, Nat.toDigits 10 magnitude, ⟨isNumeral_toDigits _, ?_, ?_⟩, ?_⟩
    · exact String.toList_ofList
    · rw [Nat.ofDigitChars_ten_toDigits]
      rfl
    · exact length_toDigits_le_limit
  | negSucc less =>
    refine ⟨true, Nat.toDigits 10 (less + 1), ⟨isNumeral_toDigits _, ?_, ?_⟩, ?_⟩
    · exact String.toList_ofList
    · rw [Nat.ofDigitChars_ten_toDigits]
      rfl
    · exact length_toDigits_le_limit

theorem render_injective : Function.Injective render := by
  intro first second same
  have chars := congrArg String.toList same
  cases first with
  | ofNat m =>
    cases second with
    | ofNat n =>
      simp only [render, String.toList_ofList] at chars
      rw [toDigits_injective chars]
    | negSucc n =>
      simp only [render, String.toList_ofList] at chars
      exact absurd (chars ▸ List.mem_cons_self) (minus_not_mem_toDigits m)
  | negSucc m =>
    cases second with
    | ofNat n =>
      simp only [render, String.toList_ofList] at chars
      exact absurd (chars ▸ List.mem_cons_self) (minus_not_mem_toDigits n)
    | negSucc n =>
      simp only [render, String.toList_ofList, List.cons.injEq, true_and] at chars
      rw [Nat.succ.inj (toDigits_injective chars)]

/-! ## Reading -/

theorem natAbs_signed (negative : Bool) (magnitude : Nat) :
    (signed negative magnitude).natAbs = magnitude := by
  cases negative <;> simp [signed]

theorem asciiDigit?_lt {c : Char} {value : Nat} (found : Text.asciiDigit? c = some value) :
    value < 10 := by
  unfold Text.asciiDigit? at found
  split_ifs at found with digit
  cases found
  have bound : c.toNat ≤ '9'.toNat := digit.2
  have zero : '0'.toNat = 48 := rfl
  have nine : '9'.toNat = 57 := rfl
  omega

theorem ofDigits_lt {digits : List Nat} (small : ∀ digit ∈ digits, digit < 10) :
    ofDigits digits < 10 ^ digits.length := by
  induction digits using List.reverseRecOn with
  | nil => exact Nat.one_pos
  | append_singleton front last ih =>
    have bound := ih fun digit member => small digit (List.mem_append_left _ member)
    have digit := small last (by simp)
    have split : ofDigits (front ++ [last]) = ofDigits front * 10 + last := by
      simp [ofDigits, List.foldl_append]
    rw [split, List.length_append, List.length_singleton, Nat.pow_succ]
    omega

/-- A single digit can be written. -/
theorem renders_of_small {number : Int} (small : number.natAbs < 10) : Renders number := by
  have positive : 0 < digitLimit := by decide
  rw [Renders, Nat.pow_eq]
  generalize digitLimit = limit at positive ⊢
  exact Nat.lt_of_lt_of_le small (Nat.le_self_pow positive.ne' 10)

/-- Digits within the limit write an integer that can be written again. -/
theorem renders_signed {digits : List Nat} (small : ∀ digit ∈ digits, digit < 10)
    (few : digits.length ≤ digitLimit) (negative : Bool) :
    Renders (signed negative (ofDigits digits)) := by
  rw [Renders, natAbs_signed, Nat.pow_eq]
  -- Ten to the power of the limit is too large to be computed.
  generalize digitLimit = limit at few ⊢
  exact Nat.lt_of_lt_of_le (ofDigits_lt small) (Nat.pow_le_pow_right (by decide) few)

theorem scanDigits_lt {after : Bool} {read digits : List Nat} {chars rest : List Char}
    (scanned : scanDigits after read chars = some (digits, rest))
    (small : ∀ digit ∈ read, digit < 10) : ∀ digit ∈ digits, digit < 10 := by
  induction chars generalizing after read with
  | nil =>
    unfold scanDigits at scanned
    split_ifs at scanned
    cases scanned
    simpa using small
  | cons c chars ih =>
    unfold scanDigits at scanned
    cases found : Text.asciiDigit? c with
    | some value =>
      rw [found] at scanned
      exact ih scanned (List.forall_mem_cons.2 ⟨asciiDigit?_lt found, small⟩)
    | none =>
      rw [found] at scanned
      dsimp only at scanned
      split_ifs at scanned
      · exact ih scanned small
      · cases scanned
        simpa using small

/-- An integer that is read from a text can be written. -/
theorem renders_of_read {text : String} {number : Int} (isRead : read text = .ok number) :
    Renders number := by
  unfold read at isRead
  dsimp only at isRead
  split at isRead
  · cases isRead
  · rename_i digits rest scanned
    split_ifs at isRead with many
    cases isRead
    exact renders_signed (scanDigits_lt scanned (by simp)) (Nat.not_lt.1 many) _

end EventHooks.IntegerText
