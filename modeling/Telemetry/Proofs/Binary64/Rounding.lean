/-
# Rounding to the nearest double

Arithmetic on doubles first finds the mantissa of the exact result, with what is left over
known to the half, and then rounds it. No double lies nearer to the exact result than the one
that comes out, infinity being one of those to choose from; what goes further, such as that
rounding never passes a double, follows from that alone.
-/

import Telemetry.Proofs.Binary64.Place

namespace Telemetry.Doubles

open Float.Model (Format UnpackedFloat totalExponent)
open Float.Model.UnpackedFloat (Accuracy ExtendedMantissa Sign roundWithAccuracy shiftToExponent
  shiftToTargetExponent)

section Nearness

variable {exact chosen bound : Rat}

/-- What is nearer to a number than a bound is on the same side of the bound as the number. -/
theorem le_of_nearer (nearer : |exact - chosen| ≤ |exact - bound|) (below : exact ≤ bound) :
    chosen ≤ bound := by
  by_contra beyond
  rw [abs_of_nonpos (by linarith), abs_of_nonpos (by linarith)] at nearer
  linarith

theorem ge_of_nearer (nearer : |exact - chosen| ≤ |exact - bound|) (above : bound ≤ exact) :
    bound ≤ chosen := by
  by_contra beyond
  rw [abs_of_nonneg (by linarith), abs_of_nonneg (by linarith)] at nearer
  linarith

end Nearness

/-- No double lies nearer to a number. -/
def Nearest (exact : Rat) (number : Float) : Prop :=
  ∃ place, place? number = some place ∧
    ∀ other near, place? other = some near → |exact - place| ≤ |exact - near|

namespace Nearest

variable {exact place bound : Rat} {number other : Float}

theorem abs_sub_le (nearest : Nearest exact number) (placed : place? number = some place)
    (among : place? other = some bound) : |exact - place| ≤ |exact - bound| := by
  obtain ⟨_, same, least⟩ := nearest
  cases placed.symm.trans same
  exact least other bound among

/-- Rounding does not pass a double. -/
theorem le_place (nearest : Nearest exact number) (placed : place? number = some place)
    (among : place? other = some bound) (above : bound ≤ exact) : bound ≤ place :=
  ge_of_nearer (nearest.abs_sub_le placed among) above

/-- A double needs no rounding. -/
theorem place?_eq (nearest : Nearest exact number) (among : place? other = some exact) :
    place? number = some exact := by
  obtain ⟨place, placed, -⟩ := id nearest
  have nearer := nearest.abs_sub_le placed among
  rw [sub_self, abs_zero] at nearer
  rw [placed, sub_eq_zero.mp (abs_nonpos_iff.mp nearer)]

/-- Rounding keeps the order. Two numbers can only change places when both lie halfway between
the same doubles, and then they are one number. -/
theorem place_le_place {greater further : Rat} {second : Float} (nearest : Nearest exact number)
    (also : Nearest greater second) (placed : place? number = some place)
    (among : place? second = some further) (less : exact < greater) : place ≤ further := by
  have first := nearest.abs_sub_le placed among
  have second := also.abs_sub_le among placed
  by_contra crossed
  rcases le_or_gt exact further with before | after
  · exact crossed (le_of_nearer first before)
  · rcases le_or_gt place greater with before | after
    · exact crossed (ge_of_nearer second before)
    · rw [abs_of_neg (by linarith), abs_of_pos (by linarith)] at first
      rw [abs_of_pos (by linarith), abs_of_neg (by linarith)] at second
      linarith

end Nearest

section Mantissas

/-- What is known of what a mantissa leaves over. -/
def Covers : Accuracy → Rat → Prop
  | .exact, rest => rest = 0
  | .inexact .lt, rest => 0 < rest ∧ rest < 1 / 2
  | .inexact .eq, rest => rest = 1 / 2
  | .inexact .gt, rest => 1 / 2 < rest ∧ rest < 1

/-- A mantissa with what is known of the rest stands for a number. -/
def Holds (extended : ExtendedMantissa) (size : Rat) : Prop :=
  Covers extended.accuracy (size - extended.mantissa)

variable {extended : ExtendedMantissa} {size rest : Rat} {accuracy : Accuracy}

theorem Covers.bounds (covers : Covers accuracy rest) : 0 ≤ rest ∧ rest < 1 := by
  rcases accuracy with _ | (_ | _ | _) <;> simp only [Covers] at covers <;> constructor <;> linarith

theorem holds_ofMantissaAndAccuracy (covers : Covers accuracy rest) (mantissa : Nat) :
    Holds (.ofMantissaAndAccuracy mantissa accuracy) (mantissa + rest) := by
  rcases accuracy with _ | (_ | _ | _) <;>
    simpa [Holds, ExtendedMantissa.ofMantissaAndAccuracy, ExtendedMantissa.accuracy] using covers

/-- A digit that is shifted out tells the half from then on. -/
theorem Holds.shiftRightOne (holds : Holds extended size) :
    Holds extended.shiftRightOne (size / 2) := by
  obtain ⟨mantissa, roundBit, stickyBit⟩ := extended
  have halves : ((mantissa % 2 : Nat) : Rat) + 2 * (mantissa / 2 : Nat) = mantissa := by
    exact_mod_cast Nat.mod_add_div mantissa 2
  rcases Nat.mod_two_eq_zero_or_one mantissa with even | odd
  · rw [even, Nat.cast_zero] at halves
    cases roundBit <;> cases stickyBit <;>
      simp only [Holds, ExtendedMantissa.shiftRightOne, ExtendedMantissa.accuracy, Covers, even,
        bne_self_eq_false, Bool.or_false, Bool.or_true] at holds ⊢ <;>
      (try constructor) <;> linarith
  · rw [odd, Nat.cast_one] at halves
    have set : ((1 : Nat) != 0) = true := rfl
    cases roundBit <;> cases stickyBit <;>
      simp only [Holds, ExtendedMantissa.shiftRightOne, ExtendedMantissa.accuracy, Covers, odd,
        set, Bool.or_false, Bool.or_true] at holds ⊢ <;>
      (try constructor) <;> linarith

theorem Holds.shiftRight (holds : Holds extended size) (count : Nat) :
    Holds (extended >>> count) (size / 2 ^ count) := by
  induction count with
  | zero =>
    rw [pow_zero, div_one]
    exact holds
  | succ count recursion =>
    rw [pow_succ, ← div_div]
    exact recursion.shiftRightOne

/-- The rounded mantissa is one of the two whole numbers around, and the nearer one. -/
theorem Holds.abs_sub_rounded_le (holds : Holds extended size) :
    |size - extended.roundedMantissa| ≤ size - extended.mantissa ∧
      |size - extended.roundedMantissa| ≤ extended.mantissa + 1 - size := by
  obtain ⟨mantissa, roundBit, stickyBit⟩ := extended
  cases roundBit <;> cases stickyBit <;>
    simp only [Holds, ExtendedMantissa.accuracy, Covers, ExtendedMantissa.roundedMantissa,
      Accuracy.roundToNearestEven] at holds ⊢
  · rw [holds, abs_zero]
    constructor <;> linarith
  · rw [abs_of_pos holds.1]
    constructor <;> linarith
  · rcases Nat.mod_two_eq_zero_or_one mantissa with even | odd
    · rw [even, add_zero, holds]
      norm_num
      linarith
    · rw [odd, Nat.cast_add, Nat.cast_one, abs_of_neg (by linarith)]
      constructor <;> linarith
  · rw [Nat.cast_add, Nat.cast_one, abs_of_neg (by linarith)]
    constructor <;> linarith

/-- The mantissa is rounded to a whole number that none is nearer than. -/
theorem Holds.abs_sub_le (holds : Holds extended size) (whole : Int) :
    |size - extended.roundedMantissa| ≤ |size - whole| := by
  obtain ⟨below, above⟩ := holds.abs_sub_rounded_le
  have apart : whole ≤ extended.mantissa ∨ extended.mantissa + 1 ≤ whole := by omega
  rcases apart with low | high
  · have low : (whole : Rat) ≤ extended.mantissa := by exact_mod_cast low
    exact below.trans ((sub_le_sub_left low size).trans (le_abs_self _))
  · have high : (extended.mantissa : Rat) + 1 ≤ whole := by exact_mod_cast high
    rw [abs_sub_comm size whole]
    exact above.trans ((sub_le_sub_right high size).trans (le_abs_self _))

end Mantissas

section Grid

variable {parts : UnpackedFloat} {near size : Rat} {step : Int} {whole : Nat}

/-- What is the case for a step of a power of two: a double is a multiple of it, or lies within
the least number that has all digits at this step. -/
def OnGrid (step : Int) (near : Rat) : Prop :=
  (∃ whole : Int, near = whole * 2 ^ step) ∨ (-1074 < step ∧ |near| ≤ 2 ^ 52 * 2 ^ step)

theorem OnGrid.neg (onGrid : OnGrid step near) : OnGrid step (-near) := by
  rcases onGrid with ⟨whole, rfl⟩ | ⟨above, within⟩
  · exact .inl ⟨-whole, by push_cast; ring⟩
  · exact .inr ⟨above, (abs_neg near).trans_le within⟩

theorem OnGrid.signed (onGrid : OnGrid step near) (sign : Sign) :
    OnGrid step (signed sign near) := by
  cases sign
  · exact onGrid.neg
  · exact onGrid

theorem onGrid_of_mantissa {mantissa : Nat} {exponent : Int} (bounded : mantissa ≤ 2 ^ 53)
    (least : -1074 ≤ exponent) : OnGrid step (mantissa * 2 ^ exponent) := by
  rcases le_or_gt step exponent with coarse | fine
  · refine .inl ⟨mantissa * 2 ^ (exponent - step).toNat, ?_⟩
    have split : (2 : Rat) ^ exponent = 2 ^ (exponent - step).toNat * 2 ^ step := by
      rw [← zpow_natCast, ← zpow_add₀ two_ne_zero]
      congr 1
      omega
    push_cast
    rw [split, mul_assoc]
  · refine .inr ⟨by omega, ?_⟩
    have digits : (mantissa : Rat) ≤ 2 ^ 53 := by exact_mod_cast bounded
    have smaller : (2 : Rat) ^ exponent ≤ 2 ^ (step - 1) :=
      zpow_le_zpow_right₀ one_le_two (by omega)
    have double : (2 : Rat) ^ step = 2 * 2 ^ (step - 1) := by
      rw [mul_comm, ← zpow_add_one₀ two_ne_zero, sub_add_cancel]
    rw [abs_of_nonneg (mul_nonneg (Nat.cast_nonneg mantissa) (two_zpow_pos exponent).le)]
    calc (mantissa : Rat) * 2 ^ exponent ≤ 2 ^ 53 * 2 ^ (step - 1) :=
          mul_le_mul digits smaller (two_zpow_pos exponent).le (by positivity)
      _ = 2 ^ 52 * 2 ^ step := by rw [double]; ring

theorem onGrid_limit (step : Int) : OnGrid step limit := by
  have next : OnGrid step ((2 ^ 52 : Nat) * 2 ^ (972 : Int)) :=
    onGrid_of_mantissa (by norm_num) (by norm_num)
  rwa [Nat.cast_pow, Nat.cast_ofNat] at next

theorem onGrid_of_place {number : Float} (placed : place? number = some near) :
    OnGrid step near := by
  rw [place?] at placed
  cases parts : number.toModel.unpack with
  | notANumber =>
    rw [parts] at placed
    cases placed
  | infinity sign =>
    rw [parts] at placed
    cases placed
    exact (onGrid_limit step).signed sign
  | zero =>
    rw [parts] at placed
    cases placed
    exact .inl ⟨0, by rw [Int.cast_zero, zero_mul]⟩
  | finite sign mantissa exponent positive =>
    rw [parts] at placed
    cases placed
    obtain ⟨canonical, -⟩ := canonical_of_unpack parts
    exact (onGrid_of_mantissa canonical.bounded.le canonical.least).signed sign

/-- A whole number of steps that none is nearer than is nearer than any double. -/
theorem abs_sub_steps_le
    (nearest : ∀ other : Int, |size / 2 ^ step - whole| ≤ |size / 2 ^ step - other|)
    (reach : step = -1074 ∨ 2 ^ 52 * 2 ^ step ≤ size) (onGrid : OnGrid step near) :
    |size - whole * 2 ^ step| ≤ |size - near| := by
  have positive := two_zpow_pos step
  have scaled (other : Rat) : |size - other * 2 ^ step| = |size / 2 ^ step - other| * 2 ^ step := by
    rw [← abs_of_pos positive, ← abs_mul, abs_of_pos positive, sub_mul,
      div_mul_cancel₀ size positive.ne']
  have steps (other : Int) : |size - whole * 2 ^ step| ≤ |size - other * 2 ^ step| := by
    rw [scaled, scaled]
    exact mul_le_mul_of_nonneg_right (nearest other) positive.le
  rcases onGrid with ⟨other, rfl⟩ | ⟨above, within⟩
  · exact steps other
  · have reached : 2 ^ 52 * 2 ^ step ≤ size := reach.resolve_left (by omega)
    have first := steps (2 ^ 52)
    rw [Int.cast_pow, Int.cast_ofNat, abs_of_nonneg (sub_nonneg.mpr reached)] at first
    calc |size - whole * 2 ^ step| ≤ size - 2 ^ 52 * 2 ^ step := first
      _ ≤ size - near := sub_le_sub_left ((le_abs_self near).trans within) size
      _ ≤ |size - near| := le_abs_self _

/-- The same holds when nothing is let go beyond infinity. -/
theorem abs_sub_min_limit_le
    (nearest : ∀ other : Int, |size / 2 ^ step - whole| ≤ |size / 2 ^ step - other|)
    (reach : step = -1074 ∨ 2 ^ 52 * 2 ^ step ≤ size) (onGrid : OnGrid step near)
    (within : near ≤ limit) : |size - min ((whole : Rat) * 2 ^ step) limit| ≤ |size - near| := by
  rcases le_or_gt ((whole : Rat) * 2 ^ step) limit with inside | beyond
  · rw [min_eq_left inside]
    exact abs_sub_steps_le nearest reach onGrid
  · have overflow : limit ≤ size := by
      by_contra short
      have closer := abs_sub_steps_le nearest reach (onGrid_limit step)
      rw [abs_of_neg (by linarith), abs_of_neg (by linarith)] at closer
      linarith
    rw [min_eq_right beyond.le, abs_of_nonneg (sub_nonneg.mpr overflow)]
    exact (sub_le_sub_left within size).trans (le_abs_self _)

end Grid

section Rounding

variable {size rest : Rat} {step exponent : Int} {whole mantissa : Nat} {sign : Sign}
  {number : Float} {accuracy : Accuracy}

theorem signed_zero (sign : Sign) : signed sign 0 = 0 := by
  cases sign
  · exact neg_zero
  · rfl

theorem nearest_of_steps
    (nearest : ∀ other : Int, |size / 2 ^ step - whole| ≤ |size / 2 ^ step - other|)
    (reach : step = -1074 ∨ 2 ^ 52 * 2 ^ step ≤ size)
    (placed : place? number = some (signed sign (min (whole * 2 ^ step) limit))) :
    Nearest (signed sign size) number := by
  refine ⟨_, placed, fun other near among => ?_⟩
  have onGrid : OnGrid step near := onGrid_of_place among
  obtain ⟨within, -⟩ := abs_place among
  cases sign with
  | positive => exact abs_sub_min_limit_le nearest reach onGrid ((le_abs_self near).trans within)
  | negative =>
    have mirrored := abs_sub_min_limit_le nearest reach onGrid.neg ((neg_le_abs near).trans within)
    simp only [signed]
    rw [neg_sub_neg, abs_sub_comm, ← abs_neg (-size - near)]
    convert mirrored using 2
    ring

/-- The exponent that rounding is done at: there are 53 digits from there on, unless it is the
smallest one. -/
theorem targetExponent_eq (total : Int) :
    Format.binary64.targetExponent total = max (total - 53) (-1074) := by
  simp only [Format.targetExponent, Format.mantissaBits, Format.minExponent]
  omega

theorem targetExponent_totalExponent (mantissa : Nat) (exponent : Int) :
    Format.binary64.targetExponent (totalExponent mantissa exponent) =
      max (mantissa.log2 + exponent - 52) (-1074) := by
  rw [targetExponent_eq, totalExponent]
  omega

theorem shiftToTargetExponent_of_lt (bounded : mantissa < 2 ^ 53) (least : -1074 ≤ exponent) :
    shiftToTargetExponent Format.binary64 mantissa exponent .exact =
      (⟨mantissa, false, false⟩, exponent) := by
  have digits : mantissa.log2 ≤ 52 := by
    rcases Nat.eq_zero_or_pos mantissa with rfl | positive
    · decide
    · exact Nat.le_of_lt_succ ((Nat.log2_lt positive.ne').mpr bounded)
  have unshifted : (max (mantissa.log2 + exponent - 52) (-1074) - exponent).toNat = 0 := by omega
  rw [shiftToTargetExponent, targetExponent_totalExponent, shiftToExponent, unshifted,
    Nat.cast_zero, add_zero]
  rfl

/-- A mantissa that rounding has carried into one more digit gives its last digit up. -/
theorem shiftToTargetExponent_carry (least : -1074 ≤ exponent) :
    shiftToTargetExponent Format.binary64 (2 ^ 53) exponent .exact =
      (⟨2 ^ 52, false, false⟩, exponent + 1) := by
  have shifted :
      (max (((2 ^ 53 : Nat).log2 : Int) + exponent - 52) (-1074) - exponent).toNat = 1 := by
    rw [Nat.log2_two_pow]
    omega
  rw [shiftToTargetExponent, targetExponent_totalExponent, shiftToExponent, shifted, Nat.cast_one]
  rfl

/-- A rounded mantissa is put together into a double that lies where it says. -/
theorem place_of_rounded (bounded : whole ≤ 2 ^ 53) (least : -1074 ≤ step)
    (full : 2 ^ 52 ≤ whole ∨ step = -1074) :
    place? (.ofModel (.pack (
      let final := shiftToTargetExponent Format.binary64 whole step .exact
      if empty : final.1.mantissa = 0 then .zero sign
      else .finite sign final.1.mantissa final.2 (Nat.pos_of_ne_zero empty)))) =
      some (signed sign (min (whole * 2 ^ step) limit)) := by
  rcases bounded.lt_or_eq with fewer | rfl
  · rw [shiftToTargetExponent_of_lt fewer least]
    by_cases empty : whole = 0
    · subst empty
      rw [Nat.cast_zero, zero_mul, min_eq_left limit_pos.le, signed_zero]
      exact place_pack_zero sign
    · rw [dif_neg empty]
      exact place_pack ⟨fewer, least, full⟩
  · rw [shiftToTargetExponent_carry least]
    have carried : ((2 ^ 52 : Nat) : Rat) * 2 ^ (step + 1) = (2 ^ 53 : Nat) * 2 ^ step := by
      rw [zpow_add_one₀ two_ne_zero]
      push_cast
      ring
    rw [← carried]
    exact place_pack ⟨by norm_num, by omega, .inl le_rfl⟩

/-- The shifted mantissa has at most 53 digits, and no fewer above the smallest exponent. -/
theorem mantissa_bounds (covers : Covers accuracy rest) (mantissa count : Nat)
    (fewer : mantissa.log2 ≤ 52 + count) :
    (mantissa + rest) / 2 ^ count < 2 ^ 53 ∧
      (mantissa.log2 = 52 + count → 2 ^ 52 ≤ (mantissa + rest) / 2 ^ count) := by
  obtain ⟨nonneg, small⟩ := covers.bounds
  have scale : (0 : Rat) < 2 ^ count := by positivity
  rw [div_lt_iff₀ scale, le_div_iff₀ scale, ← pow_add, ← pow_add]
  constructor
  · have next : mantissa + 1 ≤ 2 ^ (53 + count) :=
      Nat.lt_log2_self.trans_le (Nat.pow_le_pow_right two_pos (by omega))
    have next : (mantissa : Rat) + 1 ≤ 2 ^ (53 + count) := by exact_mod_cast next
    linarith
  · intro digits
    have present : mantissa ≠ 0 := by
      rintro rfl
      rw [Nat.log2_zero] at digits
      omega
    have full : 2 ^ (52 + count) ≤ mantissa := digits ▸ Nat.log2_self_le present
    have full : (2 : Rat) ^ (52 + count) ≤ mantissa := by exact_mod_cast full
    linarith

/-- Rounding gives a nearest double, provided that the mantissa has all its digits. -/
theorem nearest_roundWithAccuracy (covers : Covers accuracy rest)
    (digits : 52 ≤ mantissa.log2 ∨ exponent ≤ -1074) :
    Nearest (signed sign ((mantissa + rest) * 2 ^ exponent))
      (.ofModel (.pack (roundWithAccuracy Format.binary64 sign mantissa exponent accuracy))) := by
  obtain ⟨step, target⟩ : ∃ step, step = max (mantissa.log2 + exponent - 52) (-1074) := ⟨_, rfl⟩
  obtain ⟨count, reached⟩ : ∃ count : Nat, exponent + count = step :=
    ⟨(step - exponent).toNat, by omega⟩
  have shifted : shiftToTargetExponent Format.binary64 mantissa exponent accuracy =
      (ExtendedMantissa.ofMantissaAndAccuracy mantissa accuracy >>> count, step) := by
    have amount : (step - exponent).toNat = count := by omega
    rw [shiftToTargetExponent, targetExponent_totalExponent, ← target, shiftToExponent, amount,
      reached]
  have holds := (holds_ofMantissaAndAccuracy covers mantissa).shiftRight count
  generalize ExtendedMantissa.ofMantissaAndAccuracy mantissa accuracy >>> count = extended at *
  have scaled : (mantissa + rest) * 2 ^ exponent / 2 ^ step = (mantissa + rest) / 2 ^ count := by
    rw [← reached, zpow_add₀ two_ne_zero, zpow_natCast]
    field_simp
  obtain ⟨fewer, full⟩ := mantissa_bounds covers mantissa count (by omega)
  have nearest := holds.abs_sub_le
  have bounded : extended.roundedMantissa ≤ 2 ^ 53 := by
    have most := le_of_nearer (nearest (2 ^ 53)) (by exact_mod_cast fewer.le)
    exact_mod_cast most
  have reach : step = -1074 ∨ 2 ^ 52 ≤ (mantissa + rest) / 2 ^ count := by
    by_cases smallest : step = -1074
    · exact .inl smallest
    · exact .inr (full (by omega))
  have least : 2 ^ 52 ≤ extended.roundedMantissa ∨ step = -1074 := by
    rcases reach with smallest | reached
    · exact .inr smallest
    · have most := ge_of_nearer (nearest (2 ^ 52)) (by exact_mod_cast reached)
      exact .inl (by exact_mod_cast most)
  rw [roundWithAccuracy, shifted]
  refine nearest_of_steps (by rwa [scaled]) (reach.imp_right fun reached => ?_)
    (place_of_rounded bounded (by omega) least)
  rwa [← scaled, le_div_iff₀ (two_zpow_pos step)] at reached

end Rounding

end Telemetry.Doubles
