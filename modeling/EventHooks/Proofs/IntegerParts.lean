import EventHooks.Number.Binary64
import EventHooks.Proofs.DecimalText

/-!
# Integer parts of doubles

A double that a decimal is rounded to has an integer part far below the limit of digits of an
integer. The bound does not use that the significand has full precision: what rounding adds is no
more than the power of two that the significand counts.
-/
namespace EventHooks.Binary64

/-- The integer part of a significand times two to an exponent. -/
def whole (significand : Nat) (exponent : Int) : Nat :=
  significand * 2 ^ exponent.toNat / 2 ^ (-exponent).toNat

theorem roundDiv_le (num den : Nat) : roundDiv num den ≤ num / den + 1 := by
  unfold roundDiv
  dsimp only
  split_ifs <;> omega

/-- Rounding to a power of two adds at most that power. -/
theorem whole_roundDiv_le (num den : Nat) (exponent : Int) :
    whole (roundDiv (scaled num den exponent).1 (scaled num den exponent).2) exponent ≤
      num / den + 2 ^ exponent.toNat := by
  have rounded := roundDiv_le (scaled num den exponent).1 (scaled num den exponent).2
  unfold whole
  simp only [scaled, Nat.pow_eq] at rounded ⊢
  generalize roundDiv _ _ = significand at rounded ⊢
  rcases Int.le_total 0 exponent with large | small
  · have noFraction : (-exponent).toNat = 0 := by omega
    rw [noFraction, Nat.pow_zero, Nat.mul_one, ← Nat.div_div_eq_div_mul] at rounded
    rw [noFraction, Nat.pow_zero, Nat.div_one]
    calc significand * 2 ^ exponent.toNat
        ≤ (num / den / 2 ^ exponent.toNat + 1) * 2 ^ exponent.toNat :=
          Nat.mul_le_mul_right _ rounded
      _ = num / den / 2 ^ exponent.toNat * 2 ^ exponent.toNat + 2 ^ exponent.toNat := by
          rw [Nat.add_mul, Nat.one_mul]
      _ ≤ num / den + 2 ^ exponent.toNat :=
          Nat.add_le_add_right (Nat.div_mul_le_self _ _) _
  · have noScale : exponent.toNat = 0 := by omega
    have positive : 0 < 2 ^ (-exponent).toNat := Nat.two_pow_pos _
    rw [noScale, Nat.pow_zero, Nat.mul_one] at rounded
    rw [noScale, Nat.pow_zero, Nat.mul_one]
    calc significand / 2 ^ (-exponent).toNat
        ≤ (num * 2 ^ (-exponent).toNat / den + 2 ^ (-exponent).toNat) / 2 ^ (-exponent).toNat :=
          Nat.div_le_div_right (by omega)
      _ = num * 2 ^ (-exponent).toNat / den / 2 ^ (-exponent).toNat + 1 :=
          Nat.add_div_right _ positive
      _ = num / den + 1 := by
          rw [Nat.div_div_eq_div_mul, Nat.mul_div_mul_right _ _ positive]

section Bounds

variable {negative : Bool} {num den digits : Nat} {power number : Int}

theorem pow_two_le_pow_ten (exponent : Nat) : 2 ^ exponent ≤ 10 ^ exponent :=
  Nat.pow_le_pow_left (by decide) exponent

theorem natAbs_of_truncate {significand : Nat} {exponent : Int}
    (truncated : truncate (.finite negative significand exponent) = .ok number) :
    number.natAbs = whole significand exponent := by
  cases truncated
  exact IntegerText.natAbs_signed _ _

theorem whole_le (significand : Nat) (exponent : Int) :
    whole significand exponent ≤ significand * 2 ^ exponent.toNat :=
  Nat.div_le_self _ _

/-- The double nearest to a ratio has at most one digit more before its point than a bound for the
ratio that exceeds all doubles. -/
theorem truncate_ofRatio_lt {limit : Nat} (large : 1023 ≤ limit) (small : num / den < 10 ^ limit)
    (truncated : (ofRatio negative num den).truncate = .ok number) :
    number.natAbs < 10 ^ (limit + 1) := by
  have step : 10 ^ (limit + 1) = 10 ^ limit * 10 := Nat.pow_succ ..
  have positive : 0 < 10 ^ limit := Nat.pow_pos (by decide)
  unfold ofRatio at truncated
  split_ifs at truncated with zero
  · rw [natAbs_of_truncate truncated, whole, Nat.zero_mul, Nat.zero_div]
    omega
  · dsimp only at truncated
    have rounded := whole_roundDiv_le num den (exponentOf num den)
    generalize exponentOf num den = exponent at rounded truncated
    generalize roundDiv _ _ = significand at rounded truncated
    split_ifs at truncated with carry infinite infinite
    · cases truncated
    · rw [natAbs_of_truncate truncated]
      have inRange : exponent + 1 ≤ 971 := Int.not_lt.1 infinite
      have bound : whole (Nat.pow 2 (precision - 1)) (exponent + 1) ≤ 10 ^ limit := calc
        whole (Nat.pow 2 (precision - 1)) (exponent + 1)
            ≤ 2 ^ 52 * 2 ^ (exponent + 1).toNat := whole_le _ _
        _ = 2 ^ (52 + (exponent + 1).toNat) := (Nat.pow_add _ _ _).symm
        _ ≤ 10 ^ (52 + (exponent + 1).toNat) := pow_two_le_pow_ten _
        _ ≤ 10 ^ limit := Nat.pow_le_pow_right (by decide) (by omega)
      exact Nat.lt_of_le_of_lt bound (by omega)
    · cases truncated
    · rw [natAbs_of_truncate truncated]
      have inRange : exponent ≤ 971 := Int.not_lt.1 infinite
      have bound : 2 ^ exponent.toNat ≤ 10 ^ limit :=
        (pow_two_le_pow_ten _).trans (Nat.pow_le_pow_right (by decide) (by omega))
      exact Nat.lt_of_le_of_lt rounded (by omega)

/-- The double nearest to a decimal has few enough digits before its point to be written. -/
theorem renders_of_truncate (truncated : (ofDecimal negative digits power).truncate = .ok number) :
    IntegerText.Renders number := by
  -- The limit stands as a variable, since ten to its power is too large to be computed.
  suffices ∀ limit, 1024 ≤ limit → number.natAbs < Nat.pow 10 limit by
    exact this IntegerText.digitLimit (by decide)
  intro reach enough
  obtain ⟨limit, rfl⟩ : ∃ limit, reach = limit + 1 := ⟨reach - 1, by omega⟩
  unfold ofDecimal at truncated
  dsimp only at truncated
  split_ifs at truncated with none infinite
  · rw [natAbs_of_truncate truncated, whole, Nat.zero_mul, Nat.zero_div]
    exact Nat.pow_pos (by decide)
  · cases truncated
  · refine truncate_ofRatio_lt (by omega) ?_ truncated
    have positive : 0 < (Nat.toDigits 10 digits).length := Nat.length_toDigits_pos
    have bound : digits < 10 ^ (Nat.toDigits 10 digits).length :=
      (Nat.length_toDigits_le_iff (by decide) positive).1 (Nat.le_refl _)
    generalize (Nat.toDigits 10 digits).length = count at bound infinite
    rw [Nat.pow_eq, Nat.pow_eq, Nat.div_lt_iff_lt_mul (Nat.pow_pos (by decide)), ← Nat.pow_add]
    calc digits * 10 ^ power.toNat
        < 10 ^ count * 10 ^ power.toNat :=
          Nat.mul_lt_mul_of_pos_right bound (Nat.pow_pos (by decide))
      _ = 10 ^ (count + power.toNat) := (Nat.pow_add _ _ _).symm
      _ ≤ 10 ^ (limit + (-power).toNat) := Nat.pow_le_pow_right (by decide) (by omega)

end Bounds

end EventHooks.Binary64
