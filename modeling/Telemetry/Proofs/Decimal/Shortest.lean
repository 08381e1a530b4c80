/-
# The shortest decimal reads back

Whatever the search for the shortest decimal of a double finds has been tested, and the exact
expansion that it falls back on lies on the grid. Leaving zeros out at the end does not change what
a decimal is nearest to.
-/

import Telemetry.Decimal.Shortest
import Telemetry.Proofs.Decimal.Nearest

namespace Telemetry.Decimal

open Binary64

theorem nearest_reduced (decimal : Decimal) : decimal.reduced.nearest = decimal.nearest := by
  fun_induction reduced decimal with
  | case1 decimal tens ih =>
    obtain ⟨coefficient, exponent⟩ := decimal
    have whole : coefficient / 10 * 10 ^ 1 = coefficient := by
      rw [pow_one]
      exact Nat.div_mul_cancel (Nat.dvd_of_mod_eq_zero tens.2)
    calc _ = nearest ⟨coefficient / 10, exponent + (1 : Nat)⟩ := ih
      _ = nearest ⟨coefficient / 10 * 10 ^ 1, exponent⟩ := (nearest_mul_pow _ 1 exponent).symm
      _ = nearest ⟨coefficient, exponent⟩ := by rw [whole]
  | case2 decimal _ => rfl

/-- A decimal with a given number of digits is only taken if it reads back. -/
theorem nearest_of_withDigits? {index digits : Nat} {decimal : Decimal}
    (found : withDigits? index digits = some decimal) : decimal.nearest = index := by
  rw [withDigits?] at found
  have tested := List.find?_some found
  exact beq_iff_eq.mp tested

variable {index : Nat}

theorem nearest_exact (atMost : index ≤ Grid.infinity) : (exact index).nearest = index := by
  have positive : 0 < 10 ^ Grid.unitExponent := Nat.pow_pos (by decide)
  have whole : (-(Grid.unitExponent : Int)).toNat = 0 := by omega
  have places : (-(-(Grid.unitExponent : Int))).toNat = Grid.unitExponent := by omega
  have numerator (size : Nat) : Grid.magnitude index * 5 ^ size * 2 ^ size * 10 ^ 0 =
      Grid.magnitude index * 10 ^ size := by
    have tens : 10 ^ size = 5 ^ size * 2 ^ size := Nat.mul_pow 5 2 size
    rw [pow_zero, Nat.mul_one, Nat.mul_assoc, tens]
  rw [nearest_eq, exact]
  simp only [whole, places, Nat.pow_eq]
  rw [numerator, Grid.nearest_magnitude_mul atMost positive]

/-- The shortest decimal of a double is one of that double. -/
theorem nearest_shortest (atMost : index ≤ Grid.infinity) : (shortest index).nearest = index := by
  rw [shortest, nearest_reduced]
  cases found : (List.range 17).findSome? fun fewer => withDigits? index (fewer + 1) with
  | none => exact nearest_exact atMost
  | some decimal =>
    obtain ⟨fewer, -, tested⟩ := List.exists_of_findSome?_eq_some found
    exact nearest_of_withDigits? tested

end Telemetry.Decimal
