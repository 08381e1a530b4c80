/-
# The register and the rank of a hash

A hash is read as 64 bits, the highest first. Its top bits make the number of a register.
The place of the first set bit after them is its rank, one past the last place if none of
them is set. Both are found by shifting, the rank with a bit of guard below the shifted
hash: that bit stands where a search that found nothing would end.
-/

import Mathlib.Data.Nat.Bitwise
import Telemetry.Cardinality.Sketch

namespace Telemetry.Cardinality

variable (precision : Precision) (hash : UInt64)

/-- The number that the top bits of a hash make. -/
def topBits : Nat :=
  hash.toNat / 2 ^ (64 - precision.bits)

/-- The bits of a hash after its top ones, the highest first. -/
def lowBits : List Bool :=
  (List.range (64 - precision.bits)).map fun place =>
    hash.toNat.testBit (63 - precision.bits - place)

/-- The place, counted from one, of the first set bit after the top ones, or one past all
of them if none is set. -/
def firstSetPlace : Nat :=
  (lowBits precision hash).findIdx id + 1

theorem Precision.bits_bounds : 4 ≤ precision.bits ∧ precision.bits ≤ 18 :=
  ⟨precision.least, precision.greatest⟩

theorem length_lowBits : (lowBits precision hash).length = 64 - precision.bits := by
  simp [lowBits]

theorem getElem_lowBits {place : Nat} (inside : place < (lowBits precision hash).length) :
    (lowBits precision hash)[place] = hash.toNat.testBit (63 - precision.bits - place) := by
  simp [lowBits]

theorem firstSetPlace_le : firstSetPlace precision hash ≤ 65 - precision.bits := by
  have within : (lowBits precision hash).findIdx id ≤ (lowBits precision hash).length :=
    List.findIdx_le_length
  have bounds := precision.bits_bounds
  rw [length_lowBits] at within
  rw [firstSetPlace]
  omega

theorem topBits_lt : topBits precision hash < precision.registers := by
  have bounds := precision.bits_bounds
  apply Nat.div_lt_of_lt_mul
  have bounded : hash.toNat < 2 ^ 64 := hash.toNat_lt
  have split : 2 ^ (64 - precision.bits) * precision.registers = 2 ^ 64 := by
    show 2 ^ (64 - precision.bits) * 2 ^ precision.bits = 2 ^ 64
    rw [← Nat.pow_add, Nat.sub_add_cancel (by omega)]
  omega

namespace Sketch

/-- An amount below the width of a word shifts by just that much. -/
theorem amount_mod {amount : Nat} (small : amount < 64) :
    (UInt64.ofNat amount).toNat % 64 = amount := by
  rw [UInt64.toNat_ofNat', Nat.mod_eq_of_lt (show amount < 2 ^ 64 by omega), Nat.mod_eq_of_lt small]

theorem index_eq_topBits : index precision hash = topBits precision hash := by
  have bounds := precision.bits_bounds
  rw [index, UInt64.toNat_shiftRight, amount_mod (by omega), Nat.shiftRight_eq_div_pow, topBits]

/-- The low bits moved to the top, with the guard right below them. -/
def guarded : UInt64 :=
  (hash <<< UInt64.ofNat precision.bits) ||| (1 <<< UInt64.ofNat (precision.bits - 1))

theorem testBit_guarded (place : Nat) :
    (guarded precision hash).toNat.testBit place =
      (decide (place < 64) && (decide (precision.bits ≤ place) &&
        hash.toNat.testBit (place - precision.bits)) || decide (precision.bits - 1 = place)) := by
  have bounds := precision.bits_bounds
  have guard : ((1 : UInt64) <<< UInt64.ofNat (precision.bits - 1)).toNat =
      2 ^ (precision.bits - 1) := by
    rw [UInt64.toNat_shiftLeft, amount_mod (by omega), Nat.shiftLeft_eq]
    show 1 * _ % _ = _
    rw [Nat.one_mul, Nat.mod_eq_of_lt (Nat.pow_lt_pow_right (by decide) (by omega))]
  rw [guarded, UInt64.toNat_or, Nat.testBit_or, guard, Nat.testBit_two_pow,
    UInt64.toNat_shiftLeft, amount_mod (by omega), Nat.testBit_mod_two_pow, Nat.testBit_shiftLeft]

/-- The place of the highest set bit is what the logarithm finds. -/
theorem log2_eq_of_testBit {number place : Nat} (highest : number.testBit place)
    (above : ∀ higher, place < higher → number.testBit higher = false) :
    number.log2 = place := by
  have least := Nat.ge_two_pow_of_testBit highest
  have most : number < 2 ^ (place + 1) := Nat.lt_pow_two_of_testBit _ above
  have positive := Nat.two_pow_pos place
  exact (Nat.log2_eq_iff (by omega)).mpr ⟨least, most⟩

/-- The highest set bit of the guarded word is the first set one of the low bits, or the
guard if there is none. -/
theorem log2_guarded :
    (guarded precision hash).toNat.log2 = 64 - firstSetPlace precision hash := by
  have bounds := precision.bits_bounds
  have length := length_lowBits precision hash
  have within : (lowBits precision hash).findIdx id ≤ (lowBits precision hash).length :=
    List.findIdx_le_length
  -- So many low bits are unset before the first set one; the guard stands where that is all.
  obtain ⟨first, found⟩ : ∃ first, (lowBits precision hash).findIdx id = first := ⟨_, rfl⟩
  rw [found] at within
  rw [firstSetPlace, found, show 64 - (first + 1) = 63 - first by omega]
  apply log2_eq_of_testBit
  · rw [testBit_guarded]
    by_cases any : first < (lowBits precision hash).length
    · have inside : (lowBits precision hash).findIdx id < (lowBits precision hash).length :=
        found ▸ any
      have set : id (lowBits precision hash)[(lowBits precision hash).findIdx id] = true :=
        List.findIdx_getElem
      have place : 63 - precision.bits - first = 63 - first - precision.bits := by omega
      rw [id, getElem_lowBits, found, place] at set
      simp [set, show 63 - first < 64 by omega, show precision.bits ≤ 63 - first by omega]
    · simp [show precision.bits - 1 = 63 - first by omega]
  · intro higher above
    rw [testBit_guarded]
    have noGuard : precision.bits - 1 ≠ higher := by omega
    by_cases inside : higher < 64
    · have earlier : 63 - higher < (lowBits precision hash).findIdx id := by omega
      have unset : (lowBits precision hash)[63 - higher] = false :=
        List.not_of_lt_findIdx earlier
      have place : 63 - precision.bits - (63 - higher) = higher - precision.bits := by omega
      rw [getElem_lowBits, place] at unset
      simp [unset, noGuard]
    · simp [inside, noGuard]

theorem toNat_rank : (rank precision hash).toNat = firstSetPlace precision hash := by
  have most := firstSetPlace_le precision hash
  have bounds := precision.bits_bounds
  have log : (guarded precision hash).log2.toNat = 64 - firstSetPlace precision hash :=
    log2_guarded precision hash
  have positive : 0 < firstSetPlace precision hash := Nat.succ_pos _
  have difference : (64 - (guarded precision hash).log2).toNat = firstSetPlace precision hash := by
    rw [UInt64.toNat_sub_of_le, log]
    · show 64 - (64 - firstSetPlace precision hash) = _
      omega
    · rw [UInt64.le_iff_toNat_le, log]
      exact Nat.sub_le _ _
  show (64 - (guarded precision hash).log2).toUInt8.toNat = _
  rw [UInt64.toNat_toUInt8, difference, Nat.mod_eq_of_lt (by omega)]

end Sketch

end Telemetry.Cardinality
