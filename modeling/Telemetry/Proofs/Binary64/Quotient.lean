/-
# Whole parts of quotients

A quotient that falls short of a whole number may be rounded up to it. That does not happen
when so many times the divisor is a double: the dividend then falls short of this by no less
than doubles lie apart, and the quotient by more than half of that.
-/

import Telemetry.Proofs.Binary64.Arithmetic

namespace Telemetry.Doubles

variable {number : Float} {near far : Rat} {mantissa whole : Nat} {exponent step : Int}

/-- A positive double has a canonical mantissa and exponent, even if it is infinite. -/
theorem exists_canonical (placed : place? number = some far) (positive : 0 < far) :
    ∃ mantissa exponent, Canonical mantissa exponent ∧ far = mantissa * 2 ^ exponent := by
  obtain ⟨within, -⟩ := abs_place placed
  rw [abs_of_pos positive] at within
  rcases within.lt_or_eq with inside | rfl
  · rcases finite_cases placed (by rwa [abs_of_pos positive]) with
      ⟨-, -, rfl⟩ | ⟨sign, mantissa, exponent, -, -, rfl, canonical, -⟩
    · exact absurd positive (lt_irrefl 0)
    · have size : (0 : Rat) ≤ mantissa * 2 ^ exponent :=
        mul_nonneg (Nat.cast_nonneg mantissa) (two_zpow_pos exponent).le
      cases sign
      · exact absurd positive (not_lt.mpr (neg_nonpos.mpr size))
      · exact ⟨mantissa, exponent, canonical, rfl⟩
  · refine ⟨2 ^ 52, 972, ⟨by norm_num, by norm_num, .inl le_rfl⟩, ?_⟩
    rw [limit, Nat.cast_pow, Nat.cast_ofNat]

/-- Below a number of steps there is no double within one step. -/
theorem le_sub_step (onGrid : OnGrid step near) (below : near < whole * 2 ^ step)
    (full : -1074 < step → 2 ^ 52 < whole) : near ≤ whole * 2 ^ step - 2 ^ step := by
  have positive := two_zpow_pos step
  rcases onGrid with ⟨other, rfl⟩ | ⟨above, within⟩
  · have fewer : other < whole := by
      have fewer := lt_of_mul_lt_mul_right below positive.le
      exact_mod_cast fewer
    have fewer : (other : Rat) + 1 ≤ whole := by exact_mod_cast fewer
    have scaled := mul_le_mul_of_nonneg_right fewer positive.le
    linarith
  · have more : (2 : Rat) ^ 52 + 1 ≤ whole := by exact_mod_cast full above
    have scaled := mul_le_mul_of_nonneg_right more positive.le
    have reached := (le_abs_self near).trans within
    linarith

/-- Below a double there is none within one part of `2 ^ 53`. At a power of two this takes a
step of half the size. -/
theorem le_sub_of_lt {lower : Float} (placed : place? lower = some near)
    (other : place? number = some far) (positive : 0 < far) (below : near < far) :
    near ≤ far - far / 2 ^ 53 := by
  obtain ⟨mantissa, exponent, canonical, rfl⟩ := exists_canonical other positive
  obtain ⟨whole, step, bounded, full, same⟩ : ∃ (whole : Nat) (step : Int), whole ≤ 2 ^ 53 ∧
      (-1074 < step → 2 ^ 52 < whole) ∧ (mantissa : Rat) * 2 ^ exponent = whole * 2 ^ step := by
    obtain ⟨short, least, digits⟩ := canonical
    by_cases more : 2 ^ 52 < mantissa
    · exact ⟨mantissa, exponent, short.le, fun _ => more, rfl⟩
    · refine ⟨2 * mantissa, exponent - 1, by omega, fun above => by omega, ?_⟩
      rw [zpow_sub_one₀ two_ne_zero]
      push_cast
      ring
  rw [same] at below ⊢
  have apart := le_sub_step (onGrid_of_place placed) below full
  have bounded : (whole : Rat) ≤ 2 ^ 53 := by exact_mod_cast bounded
  have part : (whole : Rat) * 2 ^ step / 2 ^ 53 ≤ 2 ^ step := by
    rw [div_le_iff₀ (by positivity), mul_comm]
    exact mul_le_mul_of_nonneg_left bounded (two_zpow_pos step).le
  linarith

/-- Close enough below a whole number there is a double. -/
theorem exists_place_below (counts : 0 < whole) (bounded : whole < 2 ^ 53) :
    ∃ number, ∃ gap : Rat, place? number = some (whole - gap) ∧ 0 < gap ∧
      gap < 2 * (whole / 2 ^ 53) := by
  obtain ⟨digits, most, least⟩ : ∃ digits, whole ≤ 2 ^ digits ∧ 2 ^ digits < 2 * whole := by
    have least := Nat.log2_self_le (by omega : 2 * whole - 1 ≠ 0)
    have most : 2 * whole - 1 < 2 ^ ((2 * whole - 1).log2 + 1) := Nat.lt_log2_self
    exact ⟨(2 * whole - 1).log2, by omega, by omega⟩
  have fewer : digits ≤ 53 := by
    have power : 2 ^ digits < 2 ^ 54 := by omega
    exact Nat.le_of_lt_succ ((Nat.pow_lt_pow_iff_right (by norm_num)).mp power)
  have split : (2 : Nat) ^ digits * 2 ^ (53 - digits) = 2 ^ 53 := by
    rw [← pow_add]
    congr 1
    omega
  have within : whole * 2 ^ (53 - digits) ≤ 2 ^ 53 := split ▸ Nat.mul_le_mul_right _ most
  have present : 1 ≤ whole * 2 ^ (53 - digits) := Nat.mul_pos counts (Nat.two_pow_pos _)
  obtain ⟨number, placed, -⟩ := isDouble_of_mantissa .positive
    (by omega : whole * 2 ^ (53 - digits) - 1 < 2 ^ 53) (by omega : -1074 ≤ (digits : Int) - 53)
    (by omega)
  have gap : (2 : Rat) ^ ((digits : Int) - 53) = 2 ^ digits / 2 ^ 53 := by
    rw [zpow_sub₀ two_ne_zero, zpow_natCast]
    norm_num
  refine ⟨number, 2 ^ ((digits : Int) - 53), ?_, two_zpow_pos _, ?_⟩
  · have split : (2 : Rat) ^ digits * 2 ^ (53 - digits) = 2 ^ 53 := by exact_mod_cast split
    rw [placed, signed, Nat.cast_sub present, gap]
    push_cast
    congr 1
    rw [sub_mul, one_mul, mul_assoc, ← mul_div_assoc, mul_comm _ (2 ^ digits : Rat), split,
      div_self (by norm_num), mul_one]
  · have least : (2 : Rat) ^ digits < 2 * whole := by exact_mod_cast least
    rw [gap, ← mul_div_assoc]
    exact div_lt_div_of_pos_right least (by norm_num)

/-- A quotient below a whole number stays below it when so many times the divisor is a double. -/
theorem place_lt_of_div_lt {dividend product quotient : Float} {divisor place : Rat}
    (placed : place? dividend = some near) (multiple : place? product = some (whole * divisor))
    (positive : 0 < divisor) (counts : 0 < whole) (bounded : whole < 2 ^ 53)
    (below : near < whole * divisor) (nearest : Nearest (near / divisor) quotient)
    (result : place? quotient = some place) : place < whole := by
  have ones : (0 : Rat) < whole := by exact_mod_cast counts
  have apart := le_sub_of_lt placed multiple (mul_pos ones positive) below
  have short : near / divisor ≤ whole - whole / 2 ^ 53 := by
    rw [div_le_iff₀ positive]
    calc near ≤ whole * divisor - whole * divisor / 2 ^ 53 := apart
      _ = (whole - whole / 2 ^ 53) * divisor := by ring
  obtain ⟨candidate, gap, among, away, close⟩ := exists_place_below counts bounded
  have nearer := nearest.abs_sub_le result among
  by_contra reached
  rcases le_or_gt (near / divisor) (whole - gap) with far | between
  · linarith [le_of_nearer nearer far]
  · have part : (0 : Rat) < whole / 2 ^ 53 := by positivity
    rw [abs_of_neg (by linarith), abs_of_pos (by linarith)] at nearer
    linarith

end Telemetry.Doubles
