/-
# The total order on numbers

The bits of a double after its sign number its magnitude on the grid, infinity included. So the
total order on doubles is the order of the numbers they are, as far as they are numbers, and only
tells more of them apart: the two zeros.
-/

import Telemetry.Binary64.Grid
import Telemetry.Proofs.Binary64.Order
import Telemetry.Proofs.Binary64.Overflow

namespace Telemetry.Binary64

open Doubles (place? signed)
open Float.Model (Format UnpackedFloat)
open Float.Model.UnpackedFloat (Sign unpackExponent unpackMantissa unpackSign)

section Grid

variable {field stored : Nat}

/-- The magnitude at a number, by the exponent and the fraction that it is made of. -/
theorem Grid.magnitude_eq (short : stored < 2 ^ 52) :
    Grid.magnitude (field * 2 ^ 52 + stored) =
      if field = 0 then stored else (2 ^ 52 + stored) * 2 ^ (field - 1) := by
  have quotient : (field * 2 ^ 52 + stored) / 2 ^ 52 = field := by omega
  have remainder : (field * 2 ^ 52 + stored) % 2 ^ 52 = stored := by omega
  show (if field * 2 ^ 52 + stored < 2 ^ 52 then field * 2 ^ 52 + stored else
    (2 ^ 52 + (field * 2 ^ 52 + stored) % 2 ^ 52) *
      2 ^ ((field * 2 ^ 52 + stored) / 2 ^ 52 - 1)) = _
  rw [quotient, remainder]
  by_cases zero : field = 0
  · rw [if_pos zero, if_pos (by omega), zero, Nat.zero_mul, Nat.zero_add]
  · rw [if_neg zero, if_neg (by omega)]

/-- The grid is strictly increasing. -/
theorem Grid.strictMono_magnitude : StrictMono Grid.magnitude := by
  refine strictMono_nat_of_lt_succ fun number => ?_
  obtain ⟨field, stored, short, rfl⟩ : ∃ field stored, stored < 2 ^ 52 ∧
      number = field * 2 ^ 52 + stored :=
    ⟨_, _, Nat.mod_lt number (Nat.two_pow_pos 52), (Nat.div_add_mod' number (2 ^ 52)).symm⟩
  rw [Grid.magnitude_eq short]
  rcases Nat.lt_or_ge (stored + 1) (2 ^ 52) with inside | last
  · rw [Nat.add_assoc, Grid.magnitude_eq inside]
    split
    · exact Nat.lt_succ_self stored
    · exact Nat.mul_lt_mul_of_pos_right (Nat.lt_succ_self _) (Nat.two_pow_pos _)
  · have next : field * 2 ^ 52 + stored + 1 = (field + 1) * 2 ^ 52 + 0 := by omega
    rw [next, Grid.magnitude_eq (Nat.two_pow_pos 52), if_neg (Nat.succ_ne_zero field)]
    split
    · rename_i zero
      subst zero
      omega
    · rename_i above
      obtain ⟨lower, rfl⟩ := Nat.exists_eq_succ_of_ne_zero above
      calc (2 ^ 52 + stored) * 2 ^ lower < 2 ^ 52 * 2 * 2 ^ lower :=
            Nat.mul_lt_mul_of_pos_right (by omega) (Nat.two_pow_pos lower)
        _ = (2 ^ 52 + 0) * 2 ^ (lower + 1) := by
            rw [Nat.add_zero, pow_succ' 2 lower, Nat.mul_assoc]

/-- Where a grid point lies, at zero or above. -/
def Grid.place (number : Nat) : Rat :=
  Grid.magnitude number * 2 ^ (-1074 : Int)

theorem Grid.place_mono : Monotone Grid.place := fun _ _ atMost =>
  mul_le_mul_of_nonneg_right (Nat.cast_le.mpr (Grid.strictMono_magnitude.monotone atMost))
    (Doubles.two_zpow_pos _).le

theorem Grid.place_nonneg (number : Nat) : 0 ≤ Grid.place number :=
  mul_nonneg (Nat.cast_nonneg _) (Doubles.two_zpow_pos _).le

/-- Below the least exponent that gives a leading digit, the digits are counted in units of the
smallest positive double. -/
theorem Grid.place_stored (short : stored < 2 ^ 52) :
    Grid.place (0 * 2 ^ 52 + stored) = stored * 2 ^ (-1074 : Int) := by
  rw [Grid.place, Grid.magnitude_eq short, if_pos rfl]

theorem Grid.place_leading (short : stored < 2 ^ 52) (above : field ≠ 0) :
    Grid.place (field * 2 ^ 52 + stored) =
      (2 ^ 52 + stored : Nat) * 2 ^ ((field : Int) - 1075) := by
  have exponent : (field : Int) - 1075 = ((field - 1 : Nat) : Int) + -1074 := by omega
  rw [Grid.place, Grid.magnitude_eq short, if_neg above, exponent, zpow_add₀ two_ne_zero,
    zpow_natCast, ← mul_assoc, Nat.cast_mul, Nat.cast_pow, Nat.cast_ofNat]

end Grid

/-- The number on the grid of the magnitude of a double. -/
def index (value : Binary64) : Nat :=
  value.bits.toNat % 2 ^ 63

/-- The sign bit of a double. -/
def sign (value : Binary64) : Sign :=
  if value.bits.toNat < 2 ^ 63 then .positive else .negative

/-- What the bits of a double say about it. -/
def parts (value : Binary64) : UnpackedFloat :=
  UnpackedFloat.unpack Format.binary64 value.bits.toBitVec

section Fields

/-- The exponent that is stored, with its bias. -/
def field (value : Binary64) : BitVec 11 :=
  @unpackExponent Format.binary64 value.bits.toBitVec

/-- The digits that are stored, without the leading one. -/
def stored (value : Binary64) : BitVec 52 :=
  @unpackMantissa Format.binary64 value.bits.toBitVec

theorem toNat_field (value : Binary64) :
    value.field.toNat = value.bits.toNat / 2 ^ 52 % 2 ^ 11 := by
  show (value.bits.toNat >>> 52) % 2 ^ 11 = _
  rw [Nat.shiftRight_eq_div_pow]

theorem toNat_stored (value : Binary64) : value.stored.toNat = value.bits.toNat % 2 ^ 52 := rfl

theorem index_eq (value : Binary64) :
    value.index = value.field.toNat * 2 ^ 52 + value.stored.toNat := by
  rw [index, toNat_field, toNat_stored]
  omega

theorem ofBitVec_unpackSign (value : Binary64) :
    Sign.ofBitVec (@unpackSign Format.binary64 value.bits.toBitVec) = value.sign := by
  have bounded := value.bits.toNat_lt
  have bit : (@unpackSign Format.binary64 value.bits.toBitVec).toNat =
      value.bits.toNat / 2 ^ 63 := by
    show (value.bits.toNat >>> 63) % 2 ^ 1 = _
    rw [Nat.shiftRight_eq_div_pow]
    omega
  rw [Sign.ofBitVec, sign]
  congr 1
  rw [← BitVec.toNat_inj, bit]
  simp

end Fields

/-- A double is calculated with as what its bits say. -/
theorem unpack_toFloat (value : Binary64) : value.toFloat.toModel.unpack = value.parts := by
  show (Float.Model.pack value.parts).unpack = value.parts
  cases unpacked : value.parts with
  | notANumber => rfl
  | infinity sign => cases sign <;> rfl
  | zero sign => cases sign <;> rfl
  | finite sign mantissa exponent positive =>
    obtain ⟨canonical, room⟩ := Doubles.canonical_of_unpack unpacked
    exact Doubles.unpack_pack canonical room

/-- A double that is a number lies where its number on the grid says, infinity included. -/
theorem place_eq {value : Binary64} {place : Rat} (placed : place? value.toFloat = some place) :
    place = signed value.sign (Grid.place value.index) := by
  have short : value.stored.toNat < 2 ^ 52 := value.stored.isLt
  have bias : ((Format.binary64.exponentBias : Nat) : Int) = 1023 := rfl
  have digits : ((Format.binary64.mantissaBitsWithoutImplicit : Nat) : Int) = 52 := rfl
  rw [place?, unpack_toFloat, parts, UnpackedFloat.unpack] at placed
  simp only [ofBitVec_unpackSign, bias, digits] at placed
  rw [index_eq]
  split at placed
  case isTrue last =>
    -- Infinity lies where the next mantissa after the largest double would be.
    have field : value.field = -1#11 := last
    split at placed
    case isTrue none =>
      have stored : value.stored = 0#52 := none
      obtain rfl := Option.some.inj placed
      rw [Grid.place_leading short (by rw [field]; decide), field, stored]
      rfl
    case isFalse => cases placed
  case isFalse =>
    split at placed
    case isTrue first =>
      have field : value.field = 0#11 := first
      rw [field, BitVec.toNat_zero, Grid.place_stored short]
      split at placed
      case isTrue none =>
        have stored : value.stored = 0#52 := none
        obtain rfl := Option.some.inj placed
        rw [stored, BitVec.toNat_zero, Nat.cast_zero, zero_mul, Doubles.signed_zero]
      case isFalse =>
        rw [first] at placed
        exact (Option.some.inj placed).symm
    case isFalse above =>
      have field : value.field.toNat ≠ 0 := fun zero => above (BitVec.eq_of_toNat_eq zero)
      rw [Grid.place_leading short field, ← Doubles.toNat_leading_append]
      exact (Option.some.inj placed).symm

/-- The keys go up with the magnitude on the positive side, and down on the negative side. -/
theorem sign_cases (value : Binary64) :
    (value.sign = .positive ∧ value.key.toNat = 2 ^ 63 + value.index) ∨
      (value.sign = .negative ∧ value.key.toNat + value.index = 2 ^ 63 - 1) := by
  have bounded : value.bits.toNat < 2 ^ 64 := value.bits.toNat_lt
  rw [toNat_key, sign, index]
  by_cases nonneg : value.bits.toNat < 0x8000000000000000
  · rw [if_pos nonneg]
    exact .inl ⟨if_pos nonneg, by omega⟩
  · rw [if_neg nonneg]
    exact .inr ⟨if_neg nonneg, by omega⟩

theorem le_iff_toNat_key {first second : Binary64} :
    first ≤ second ↔ first.key.toNat ≤ second.key.toNat := by
  rw [le_iff_isLE_compare, Binary64.compare, Std.isLE_compare, UInt64.le_iff_toNat_le]

/-- Of two numbers, the one that comes first in the total order is not above the other. -/
theorem place_le_place {first second : Binary64} {near far : Rat} (ordered : first ≤ second)
    (placed : place? first.toFloat = some near) (other : place? second.toFloat = some far) :
    near ≤ far := by
  rw [place_eq placed, place_eq other]
  rw [le_iff_toNat_key] at ordered
  rcases first.sign_cases with ⟨sign, key⟩ | ⟨sign, key⟩ <;>
    rcases second.sign_cases with ⟨side, other⟩ | ⟨side, other⟩ <;> rw [sign, side]
  · exact Grid.place_mono (by omega)
  · omega
  · exact (neg_nonpos.mpr (Grid.place_nonneg _)).trans (Grid.place_nonneg _)
  · exact neg_le_neg (Grid.place_mono (by omega))

end Telemetry.Binary64
