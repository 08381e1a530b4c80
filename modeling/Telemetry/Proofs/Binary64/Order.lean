/-
# The total order on doubles

Comparing doubles by their keys orders all bit patterns linearly: no two patterns
share a key, so values that compare as equal are the same value. Sorted samples,
heaps of staged values and ranks in a stream are all stated with this order.
-/

import Mathlib.Order.Defs.LinearOrder
import Telemetry.Binary64

namespace Telemetry.Binary64

/-- The nonnegative patterns have the upper half of the keys, in order; the negative
ones have the lower half, in reverse. -/
theorem toNat_key (value : Binary64) :
    value.key.toNat =
      if value.bits.toNat < 0x8000000000000000 then value.bits.toNat + 0x8000000000000000
      else 0xffffffffffffffff - value.bits.toNat := by
  have bounded : value.bits.toNat < UInt64.size := value.bits.toNat_lt
  by_cases nonnegative : value.bits < 0x8000000000000000
  · have small : value.bits.toNat < 0x8000000000000000 := UInt64.lt_iff_toNat_lt.mp nonnegative
    rw [key, if_pos nonnegative, if_pos small, UInt64.toNat_add]
    apply Nat.mod_eq_of_lt
    show value.bits.toNat + 0x8000000000000000 < UInt64.size
    simp only [UInt64.size] at bounded ⊢
    omega
  · have large : ¬ value.bits.toNat < 0x8000000000000000 :=
      fun small => nonnegative (UInt64.lt_iff_toNat_lt.mpr small)
    rw [key, if_neg nonnegative, if_neg large, UInt64.toNat_not]
    rfl

/-- No two doubles share a key. -/
theorem key_injective : Function.Injective key := by
  intro first second same
  have keys : first.key.toNat = second.key.toNat := congrArg UInt64.toNat same
  have firstBounded : first.bits.toNat < UInt64.size := first.bits.toNat_lt
  have secondBounded : second.bits.toNat < UInt64.size := second.bits.toNat_lt
  rw [toNat_key, toNat_key] at keys
  simp only [UInt64.size] at firstBounded secondBounded
  have bits : first.bits.toNat = second.bits.toNat := by
    split at keys <;> split at keys <;> omega
  cases first
  cases second
  exact congrArg mk (UInt64.toNat_inj.mp bits)

instance : Std.TransCmp Binary64.compare where
  eq_swap := Std.OrientedOrd.eq_swap
  isLE_trans := Std.TransOrd.isLE_trans

instance : Std.LawfulEqCmp Binary64.compare where
  compare_self := Std.ReflOrd.compare_self
  eq_of_compare equal := key_injective (Std.LawfulEqOrd.eq_of_compare equal)

instance : LE Binary64 :=
  ⟨fun first second => (first.compare second).isLE⟩

instance : LT Binary64 :=
  ⟨fun first second => first.compare second = .lt⟩

instance : DecidableLE Binary64 := fun first second =>
  inferInstanceAs (Decidable ((first.compare second).isLE = true))

instance : DecidableLT Binary64 := fun first second =>
  inferInstanceAs (Decidable (first.compare second = .lt))

theorem le_iff_isLE_compare {first second : Binary64} :
    first ≤ second ↔ (first.compare second).isLE :=
  Iff.rfl

theorem lt_iff_compare_eq_lt {first second : Binary64} :
    first < second ↔ first.compare second = .lt :=
  Iff.rfl

theorem compare_swap (first second : Binary64) :
    second.compare first = (first.compare second).swap :=
  Std.OrientedCmp.eq_swap

/-- Comparing larger is the only way not to be at or below. -/
theorem compare_eq_gt_iff {first second : Binary64} :
    first.compare second = .gt ↔ ¬ first ≤ second := by
  rw [le_iff_isLE_compare]
  cases first.compare second <;> simp

instance : LinearOrder Binary64 where
  le_refl value := by
    have equal : value.compare value = .eq := Std.ReflCmp.compare_self
    rw [le_iff_isLE_compare, equal]
    rfl
  le_trans first second third := Std.TransCmp.isLE_trans
  le_antisymm first second atMost atLeast :=
    Std.LawfulEqCmp.eq_of_compare (Std.OrientedCmp.isLE_antisymm atMost atLeast)
  lt_iff_le_not_ge first second := by
    rw [lt_iff_compare_eq_lt, le_iff_isLE_compare, le_iff_isLE_compare, compare_swap first second]
    cases first.compare second <;> simp
  le_total first second := by
    rw [le_iff_isLE_compare, le_iff_isLE_compare, compare_swap first second]
    cases first.compare second <;> simp
  toDecidableLE := inferInstance
  toDecidableEq := inferInstance
  toDecidableLT := inferInstance
  compare := Binary64.compare
  compare_eq_compareOfLessAndEq first second := by
    have equal : first.compare second = .eq ↔ first = second :=
      Std.LawfulEqCmp.compare_eq_iff_eq
    simp only [compareOfLessAndEq, lt_iff_compare_eq_lt, ← equal]
    cases first.compare second <;> simp

end Telemetry.Binary64
