/-
# Doubles out of the ordinary

A count with more digits than a mantissa is rounded like any exact result, and stays finite as
long as it fits in a word. What is infinite stays so under the addition of a finite double and
the division by one, and two infinities have no quotient. What is no number is not in order with
anything.
-/

import Telemetry.Proofs.Binary64.Quotient

namespace Telemetry.Doubles

open Float.Model (Format UnpackedFloat)
open Float.Model.UnpackedFloat (Sign roundWithAccuracy)

variable {first second number : Float} {near far place : Rat} {sign : Sign} {count : Nat}

section Counts

/-- A count that is not short is taken for a decimal fraction without decimals, and is given as
many digits as a mantissa has before it is rounded. -/
theorem ofNat_eq_round (long : 2 ^ 53 ≤ count) :
    Float.ofNat count = .ofModel (.pack (roundWithAccuracy Format.binary64 .positive
      ((count <<< 53) * 10 ^ 0) (-53 + 0) .exact)) := by
  have least : ¬ (0 : Int) < -(2 ^ Format.binary64.exponentBits + (count.log2 : Int)) := by
    show ¬ (0 : Int) < -(2 ^ 11 + (count.log2 : Int))
    omega
  show Float.ofScientific count false 0 = _
  rw [Float.ofScientific, dif_neg (by omega)]
  show Float.ofModel (.pack (UnpackedFloat.ofScientific Format.binary64 count 0)) = _
  rw [UnpackedFloat.ofScientific, dif_neg (by omega), if_neg (by decide), if_neg least,
    if_pos (by decide)]
  rfl

/-- Every count is rounded once. -/
theorem nearest_ofNat (count : Nat) : Nearest count (.ofNat count) := by
  rcases lt_or_ge count (2 ^ 53) with short | long
  · exact nearest_of_place (place_ofNat short)
  · have whole : Covers .exact 0 := rfl
    have digits := log2_shiftLeft (by omega : 0 < count) 53
    have size : (count : Rat) =
        signed .positive ((((count <<< 53 : Nat) : Rat) + 0) * 2 ^ (-53 : Int)) := by
      have shifted := shiftLeft_mul_zpow count 53 0
      rw [zpow_zero, mul_one] at shifted
      rw [signed, add_zero, ← shifted]
      rfl
    rw [ofNat_eq_round long, pow_zero, mul_one, add_zero, size]
    exact nearest_roundWithAccuracy whole (.inl (by omega))

/-- No count that fits in a word comes near infinity. -/
theorem exists_place_ofNat (word : count < 2 ^ 64) :
    ∃ place, place? (.ofNat count) = some place ∧ |place| < limit := by
  obtain ⟨place, placed, -⟩ := id (nearest_ofNat count)
  obtain ⟨most, among, finite⟩ := isDouble_of_mantissa .positive
    (by norm_num : 1 < 2 ^ 53) (by norm_num : (-1074 : Int) ≤ 64) (by norm_num)
  obtain ⟨none, nothing, -⟩ := isDouble_natCast (by norm_num : 0 < 2 ^ 53)
  have below : (count : Rat) ≤ signed .positive ((1 : Nat) * 2 ^ (64 : Int)) := by
    rw [signed, Nat.cast_one, one_mul]
    exact_mod_cast word.le
  have atMost := le_of_nearer ((nearest_ofNat count).abs_sub_le placed among) below
  have nonneg := (nearest_ofNat count).le_place placed nothing (by positivity)
  rw [Nat.cast_zero] at nonneg
  rw [abs_of_nonneg (nonneg.trans atMost)] at finite
  exact ⟨place, placed, (abs_of_nonneg nonneg).trans_lt (atMost.trans_lt finite)⟩

end Counts

section Infinity

theorem place_pack_infinity (sign : Sign) :
    place? (.ofModel (Float.Model.pack (.infinity sign))) = some (signed sign limit) := by
  cases sign <;> rfl

/-- Only the infinities lie as far out as they do. -/
theorem unpack_eq_infinity (placed : place? number = some place) (far : limit ≤ |place|) :
    ∃ sign, number.toModel.unpack = .infinity sign ∧ place = signed sign limit := by
  have finite := (abs_place placed).2.not.mpr far.not_gt
  rw [place?] at placed
  cases parts : number.toModel.unpack with
  | infinity sign =>
    rw [parts] at placed
    exact ⟨sign, rfl, (Option.some.inj placed).symm⟩
  | notANumber =>
    rw [parts] at placed
    cases placed
  | _ =>
    have reported : number.toModel.unpack.isFinite = true := by rw [parts]; rfl
    exact absurd reported finite

/-- A finite double can be added to any number. -/
theorem exists_place_add (placed : place? first = some near) (finite : |near| < limit)
    (other : place? second = some far) : ∃ place, place? (first + second) = some place := by
  rcases lt_or_ge |far| limit with also | beyond
  · obtain ⟨place, among, -⟩ := nearest_add placed other finite also
    exact ⟨place, among⟩
  · obtain ⟨side, others, -⟩ := unpack_eq_infinity other beyond
    refine ⟨signed side limit, ?_⟩
    show place? (.ofModel (.pack
      (UnpackedFloat.add Format.binary64 first.toModel.unpack second.toModel.unpack))) = _
    rcases finite_cases placed finite with ⟨sign, parts, -⟩ | ⟨sign, _, _, _, parts, -⟩ <;>
      rw [parts, others] <;>
      exact place_pack_infinity side

/-- A nonnegative number that is not finite lies at infinity. -/
theorem place_eq_limit (placed : place? number = some place) (nonneg : 0 ≤ place)
    (infinite : ¬ number.isFinite = true) : place = limit := by
  obtain ⟨within, finite⟩ := abs_place placed
  rw [abs_of_nonneg nonneg] at within finite
  exact within.antisymm (not_lt.mp (finite.not.mp infinite))

theorem unpack_eq_infinity_positive (placed : place? number = some limit) :
    number.toModel.unpack = .infinity .positive := by
  have beyond := limit_pos
  obtain ⟨sign, parts, same⟩ := unpack_eq_infinity placed (le_abs_self limit)
  cases sign with
  | negative =>
    rw [signed] at same
    linarith
  | positive => exact parts

/-- Infinity divided by a finite double is infinite, and as a whole number the largest word. -/
theorem toUInt64_limit_div (placed : place? first = some limit) (other : place? second = some far)
    (positive : 0 < far) (finite : far < limit) :
    (first / second).toUInt64.toNat = 2 ^ 64 - 1 := by
  show (Float.Model.pack (UnpackedFloat.div Format.binary64 first.toModel.unpack
    second.toModel.unpack)).unpack.toUInt64.toNat = 2 ^ 64 - 1
  rcases finite_cases other (by rwa [abs_of_pos positive]) with
    ⟨-, -, rfl⟩ | ⟨side, mantissa, exponent, some, others, rfl, -⟩
  · exact absurd positive (lt_irrefl 0)
  · have size := place_pos some exponent
    cases side with
    | negative =>
      rw [signed] at positive
      linarith
    | positive =>
      have infinite : UnpackedFloat.div Format.binary64 (.infinity .positive)
          (.finite .positive mantissa exponent some) = .infinity .positive := rfl
      rw [unpack_eq_infinity_positive placed, others, infinite]
      rfl

/-- A finite double divided by infinity is zero. -/
theorem toUInt64_div_limit (placed : place? first = some near) (finite : |near| < limit)
    (other : place? second = some limit) : (first / second).toUInt64.toNat = 0 := by
  have nothing : place? (first / second) = some 0 := by
    show place? (.ofModel (.pack (UnpackedFloat.div Format.binary64 first.toModel.unpack
      second.toModel.unpack))) = some 0
    rw [unpack_eq_infinity_positive other]
    rcases finite_cases placed finite with ⟨sign, parts, -⟩ | ⟨sign, _, _, _, parts, -⟩ <;>
      rw [parts] <;> exact place_pack_zero _
  rw [toNat_toUInt64 nothing, Nat.floor_zero]
  rfl

/-- Two infinities have no quotient, and as a whole number it counts as none. -/
theorem toUInt64_limit_div_limit (placed : place? first = some limit)
    (other : place? second = some limit) : (first / second).toUInt64.toNat = 0 := by
  show (Float.Model.pack (UnpackedFloat.div Format.binary64 first.toModel.unpack
    second.toModel.unpack)).unpack.toUInt64.toNat = 0
  have undefined : UnpackedFloat.div Format.binary64 (.infinity .positive) (.infinity .positive) =
      .notANumber := rfl
  rw [unpack_eq_infinity_positive placed, unpack_eq_infinity_positive other, undefined]
  rfl

end Infinity

section Undefined

theorem unpack_eq_notANumber (undefined : number.isNaN = true) :
    number.toModel.unpack = .notANumber := by
  have parts : number.toModel.unpack.isNaN = true := undefined
  cases unpacked : number.toModel.unpack with
  | notANumber => rfl
  | _ => rw [unpacked] at parts; cases parts

theorem isNaN_eq_false (placed : place? number = some place) : number.isNaN = false := by
  rw [Bool.eq_false_iff]
  intro undefined
  rw [place?, unpack_eq_notANumber undefined] at placed
  cases placed

theorem compare_eq_none_of_isNaN (undefined : first.isNaN = true ∨ second.isNaN = true) :
    first.toModel.unpack.compare second.toModel.unpack = none := by
  rcases undefined with undefined | undefined
  · rw [unpack_eq_notANumber undefined]
    rfl
  · rw [unpack_eq_notANumber undefined]
    cases first.toModel.unpack <;> rfl

/-- What is no number is on neither side of anything. -/
theorem not_lt_of_isNaN (undefined : first.isNaN = true ∨ second.isNaN = true) :
    ¬ first < second := by
  show ¬ decide (first.toModel < second.toModel) = true
  rw [decide_eq_true_iff]
  show ¬ (first.toModel.unpack.compare second.toModel.unpack == some .lt) = true
  rw [compare_eq_none_of_isNaN undefined]
  exact Bool.false_ne_true

/-- What is no number equals nothing. -/
theorem beq_eq_false_of_isNaN (undefined : first.isNaN = true ∨ second.isNaN = true) :
    (first == second) = false := by
  show (first.toModel.unpack.compare second.toModel.unpack == some .eq) = false
  rw [compare_eq_none_of_isNaN undefined]
  rfl

/-- What is above a number is a number. -/
theorem exists_place_of_lt (less : first < second) : ∃ place, place? second = some place :=
  exists_place (Bool.eq_false_iff.mpr fun undefined => not_lt_of_isNaN (.inr undefined) less)

end Undefined

end Telemetry.Doubles
