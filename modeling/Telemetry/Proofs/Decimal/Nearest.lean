/-
# The nearest double of a decimal

The grid point nearest to a ratio depends on the ratio alone, and a ratio on the grid is nearest
to itself. The decimals that are answered without building the power of ten are answered as if it
were built, so neither does it matter how a decimal spreads its powers of ten over coefficient and
exponent.
-/

import Telemetry.Decimal.Nearest
import Telemetry.Proofs.Binary64.Numeric

namespace Telemetry

namespace Binary64.Grid

variable {numerator denominator factor index : Nat}

/-- Numerator and denominator may be multiplied by one factor. -/
theorem nearest_mul_left (positive : 0 < factor) :
    nearest (factor * numerator) (factor * denominator) = nearest numerator denominator := by
  have excess (lower : Nat) : 2 * (factor * numerator - factor * denominator * magnitude lower) =
      factor * (2 * (numerator - denominator * magnitude lower)) := by
    rw [Nat.mul_assoc factor, ← Nat.mul_sub, Nat.mul_left_comm]
  have step (size : Nat) : factor * denominator * size = factor * (denominator * size) :=
    Nat.mul_assoc factor denominator size
  simp only [nearest, Nat.mul_div_mul_left _ _ positive, excess]
  simp only [step, Nat.mul_lt_mul_left positive, Nat.mul_left_cancel_iff positive]

theorem coarseness_of_lt {whole : Nat} (below : whole < 2 ^ 53) : coarseness whole = 0 := by
  by_cases zero : whole = 0
  · subst zero
    rfl
  · have digits := (Nat.log2_lt zero).mpr below
    rw [coarseness]
    omega

/-- A magnitude with 53 binary digits in front of its powers of two keeps just those digits. -/
theorem coarseness_mul {leading : Nat} (reaches : 2 ^ 52 ≤ leading) (short : leading < 2 ^ 53)
    (exponent : Nat) : coarseness (leading * 2 ^ exponent) = exponent := by
  have positive : leading * 2 ^ exponent ≠ 0 :=
    Nat.mul_ne_zero (by omega) (Nat.two_pow_pos exponent).ne'
  have least : 52 + exponent ≤ (leading * 2 ^ exponent).log2 := by
    rw [Nat.le_log2 positive, pow_add]
    exact Nat.mul_le_mul_right _ reaches
  have most : (leading * 2 ^ exponent).log2 < 53 + exponent := by
    rw [Nat.log2_lt positive, pow_add]
    exact Nat.mul_lt_mul_of_pos_right short (Nat.two_pow_pos exponent)
  rw [coarseness]
  omega

/-- A grid point is the last one at or below itself. -/
theorem below_magnitude (index : Nat) : below (magnitude index) = index := by
  obtain ⟨field, stored, short, rfl⟩ : ∃ field stored, stored < 2 ^ 52 ∧
      index = field * 2 ^ 52 + stored :=
    ⟨_, _, Nat.mod_lt index (Nat.two_pow_pos 52), (Nat.div_add_mod' index (2 ^ 52)).symm⟩
  rw [magnitude_eq short, below]
  split
  · rename_i zero
    rw [coarseness_of_lt (by omega), zero]
    simp only [Nat.pow_eq, pow_zero, Nat.div_one]
  · rename_i above
    rw [coarseness_mul (by omega) (by omega)]
    simp only [Nat.pow_eq]
    rw [Nat.mul_div_cancel _ (Nat.two_pow_pos _)]
    omega

/-- A ratio on the grid is nearest to itself. -/
theorem nearest_magnitude_mul (atMost : index ≤ infinity) (positive : 0 < denominator) :
    nearest (magnitude index * denominator) denominator = index := by
  have step : 0 < denominator * Nat.pow 2 (coarseness (magnitude index)) :=
    Nat.mul_pos positive (Nat.two_pow_pos _)
  simp only [nearest, Nat.mul_div_cancel _ positive, below_magnitude,
    Nat.mul_comm denominator (magnitude index), Nat.sub_self, Nat.mul_zero, if_pos step]
  exact Nat.min_eq_left atMost

/-- Below half of the first grid point, everything is nearest to zero. -/
theorem nearest_eq_zero (less : 2 * numerator < denominator) :
    nearest numerator denominator = 0 := by
  have whole : numerator / denominator = 0 := Nat.div_eq_of_lt (by omega)
  have lower : below 0 = 0 := rfl
  have coarse : coarseness 0 = 0 := rfl
  have zero : magnitude 0 = 0 := rfl
  simp only [nearest, whole, lower, coarse, zero, Nat.pow_eq, pow_zero, Nat.mul_one, Nat.mul_zero,
    Nat.sub_zero, if_pos less, Nat.zero_min]

/-- What has more binary digits than any double is nearest to infinity. -/
theorem nearest_eq_infinity {digits : Nat} (many : 2099 ≤ digits)
    (reaches : 2 ^ digits ≤ numerator / denominator) :
    nearest numerator denominator = infinity := by
  have positive : numerator / denominator ≠ 0 :=
    (Nat.lt_of_lt_of_le (Nat.two_pow_pos digits) reaches).ne'
  have least := (Nat.le_log2 positive).mpr reaches
  have coarse : 2047 ≤ coarseness (numerator / denominator) := by
    rw [coarseness]
    omega
  have past : infinity ≤ below (numerator / denominator) :=
    (Nat.mul_le_mul_right _ coarse).trans (Nat.le_add_right _ _)
  simp only [nearest]
  rw [Nat.min_eq_right]
  split
  · exact past
  · split
    · exact past.trans (Nat.le_add_right _ _)
    · exact past.trans (Nat.le_succ _)

end Binary64.Grid

namespace Decimal

open Binary64

/-- Three binary digits are fewer than one decimal digit. -/
theorem two_pow_le (count : Nat) : 2 ^ (3 * count) ≤ 10 ^ count := by
  rw [pow_mul]
  exact Nat.pow_le_pow_left (by decide) count

/-- The nearest double is that of the ratio, however large or small the decimal is. -/
theorem nearest_eq (decimal : Decimal) :
    decimal.nearest = Grid.nearest
      (decimal.coefficient * 2 ^ Grid.unitExponent * 10 ^ decimal.exponent.toNat)
      (10 ^ (-decimal.exponent).toNat) := by
  obtain ⟨coefficient, exponent⟩ := decimal
  simp only [nearest, Nat.pow_eq]
  split
  · rename_i zero
    rw [zero, Nat.zero_mul, Nat.zero_mul, Grid.nearest_eq_zero (Nat.pow_pos (by decide))]
  rename_i nonzero
  have positive := Nat.pos_of_ne_zero nonzero
  split
  · rename_i large
    have whole : (-exponent).toNat = 0 := by omega
    have many : 2099 ≤ Grid.unitExponent + 3 * exponent.toNat := by
      rw [Grid.unitExponent]
      omega
    rw [whole, pow_zero, Grid.nearest_eq_infinity many]
    calc 2 ^ (Grid.unitExponent + 3 * exponent.toNat)
        = 2 ^ Grid.unitExponent * 2 ^ (3 * exponent.toNat) := pow_add 2 _ _
      _ ≤ coefficient * 2 ^ Grid.unitExponent * 10 ^ exponent.toNat :=
        Nat.mul_le_mul (Nat.le_mul_of_pos_left _ positive) (two_pow_le _)
      _ = _ := (Nat.div_one _).symm
  split
  · rename_i small
    have whole : exponent.toNat = 0 := by omega
    have digits : coefficient.log2 + Grid.unitExponent + 2 ≤ 3 * (-exponent).toNat := by
      rw [Grid.unitExponent]
      omega
    rw [whole, pow_zero, Nat.mul_one, Grid.nearest_eq_zero]
    calc 2 * (coefficient * 2 ^ Grid.unitExponent)
        < 2 * (2 ^ (coefficient.log2 + 1) * 2 ^ Grid.unitExponent) :=
          Nat.mul_lt_mul_of_pos_left (Nat.mul_lt_mul_of_pos_right Nat.lt_log2_self
            (Nat.two_pow_pos _)) (by decide)
      _ = 2 ^ (coefficient.log2 + Grid.unitExponent + 2) := by ring
      _ ≤ 2 ^ (3 * (-exponent).toNat) := Nat.pow_le_pow_right (by decide) digits
      _ ≤ 10 ^ (-exponent).toNat := two_pow_le _
  split
  · have whole : (-exponent).toNat = 0 := by omega
    rw [whole, pow_zero]
  · have whole : exponent.toNat = 0 := by omega
    rw [whole, pow_zero, Nat.mul_one]

/-- Powers of ten may move from the coefficient to the exponent. -/
theorem nearest_mul_pow (coefficient count : Nat) (exponent : Int) :
    nearest ⟨coefficient * 10 ^ count, exponent⟩ = nearest ⟨coefficient, exponent + count⟩ := by
  obtain ⟨shared, below, above⟩ : ∃ shared,
      (-exponent).toNat = shared + (-(exponent + count)).toNat ∧
        exponent.toNat + count = shared + (exponent + count).toNat :=
    ⟨(-exponent).toNat - (-(exponent + count)).toNat, by omega, by omega⟩
  have numerator : coefficient * 10 ^ count * 2 ^ Grid.unitExponent * 10 ^ exponent.toNat =
      10 ^ shared * (coefficient * 2 ^ Grid.unitExponent * 10 ^ (exponent + count).toNat) := by
    calc coefficient * 10 ^ count * 2 ^ Grid.unitExponent * 10 ^ exponent.toNat
        = coefficient * 2 ^ Grid.unitExponent * 10 ^ (exponent.toNat + count) := by
          rw [pow_add]
          ring
      _ = _ := by
          rw [above, pow_add]
          ring
  rw [nearest_eq, nearest_eq, numerator, below, pow_add,
    Grid.nearest_mul_left (Nat.pow_pos (by decide))]

end Decimal

end Telemetry
