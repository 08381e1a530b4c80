/-
# Digits around a point

Positional notation writes a decimal with a point: after its digits, between them or before them,
with zeros where digits are missing. Read as one number and counted from the point, the digits
denote a decimal with the same nearest double.
-/

import Telemetry.Decimal.Text
import Telemetry.Proofs.Decimal.Nearest
import Telemetry.Toml.Character

namespace Telemetry.Toml

/-- A text of decimal digits. -/
def IsDigits (text : List Char) : Prop :=
  ∀ char ∈ text, char.isDigit = true

/-- The digits of a whole number: a zero at the front stands alone. -/
inductive IsWhole : List Char → Prop where
  | zero : IsWhole ['0']
  | leading {lead : Char} {later : List Char} (nonzero : lead ≠ '0')
      (digits : IsDigits (lead :: later)) : IsWhole (lead :: later)

/-- Digits around a point that denote a decimal nearest to the double of a given number. -/
inductive Pointed (index : Nat) : List Char → Prop where
  | intro {whole fraction : List Char} (isWhole : IsWhole whole) (digits : IsDigits fraction)
      (present : fraction ≠ [])
      (nearest : Decimal.nearest ⟨numberOf 10 (whole ++ fraction), -fraction.length⟩ = index) :
      Pointed index (whole ++ '.' :: fraction)

/-! ## Digits -/

theorem IsDigits.append {front back : List Char} (first : IsDigits front) (second : IsDigits back) :
    IsDigits (front ++ back) := fun char among =>
  (List.mem_append.mp among).elim (first char) (second char)

theorem isDigits_replicate (count : Nat) : IsDigits (List.replicate count '0') := by
  intro char among
  rw [List.eq_of_mem_replicate among]
  rfl

theorem isDigits_toDigits (number : Nat) : IsDigits (Nat.toDigits 10 number) := fun _ =>
  Nat.isDigit_of_mem_toDigits (by decide) (by decide)

theorem IsWhole.isDigits {text : List Char} (whole : IsWhole text) : IsDigits text := by
  cases whole with
  | zero => exact isDigits_replicate 1
  | leading _ digits => exact digits

/-- A number above zero has no zero at the front. -/
theorem exists_toDigits {number : Nat} (positive : 0 < number) :
    ∃ lead later, Nat.toDigits 10 number = lead :: later ∧ lead ≠ '0' := by
  induction number using Nat.strongRecOn with
  | ind number ih =>
    rcases Nat.lt_or_ge number 10 with digit | longer
    · exact ⟨_, [], Nat.toDigits_of_lt_base digit,
        fun zero => positive.ne' (Nat.digitChar_eq_zero.mp zero)⟩
    · obtain ⟨lead, later, digits, nonzero⟩ := ih (number / 10) (by omega) (by omega)
      exact ⟨lead, later ++ [(number % 10).digitChar],
        by rw [Nat.toDigits_of_base_le (by decide) longer, digits, List.cons_append], nonzero⟩

theorem isWhole_toDigits (number : Nat) : IsWhole (Nat.toDigits 10 number) := by
  rcases Nat.eq_zero_or_pos number with rfl | positive
  · exact .zero
  · obtain ⟨lead, later, digits, nonzero⟩ := exists_toDigits positive
    have all := isDigits_toDigits number
    rw [digits] at all ⊢
    exact .leading nonzero all

theorem numberOf_eq {text : List Char} (digits : IsDigits text) :
    numberOf 10 text = Nat.ofDigitChars 10 text 0 := by
  rw [numberOf, Nat.ofDigitChars]
  refine List.foldl_ext _ _ 0 fun number digit among => ?_
  rw [hexDigit?, if_pos (digits digit among), Option.getD_some, Nat.mul_comm]

theorem numberOf_toDigits (number : Nat) : numberOf 10 (Nat.toDigits 10 number) = number := by
  rw [numberOf_eq (isDigits_toDigits number), Nat.ofDigitChars_ten_toDigits]

/-! ## Positional notation -/

/-- All digits are after the point, with zeros between. -/
theorem pointed_fraction (coefficient zeros : Nat) :
    Pointed (Decimal.nearest
        ⟨coefficient, -(zeros + (Nat.toDigits 10 coefficient).length : Nat)⟩)
      ('0' :: '.' :: (List.replicate zeros '0' ++ Nat.toDigits 10 coefficient)) := by
  have digits := (isDigits_replicate zeros).append (isDigits_toDigits coefficient)
  have zero : 10 ^ zeros * Nat.ofDigitChars 10 ['0'] 0 = 0 := Nat.mul_zero _
  have number : numberOf 10 (['0'] ++ (List.replicate zeros '0' ++ Nat.toDigits 10 coefficient)) =
      coefficient := by
    rw [numberOf_eq (IsWhole.zero.isDigits.append digits), Nat.ofDigitChars_append,
      Nat.ofDigitChars_append, Nat.ofDigitChars_replicate_zero, zero, Nat.ofDigitChars_ten_toDigits]
  refine .intro .zero digits (List.append_ne_nil_of_right_ne_nil _ Nat.toDigits_ne_nil) ?_
  rw [number, List.length_append, List.length_replicate]

section Positional

variable {coefficient : Nat} {exponent : Int} (positive : 0 < coefficient)
include positive

/-- All digits are before the point, with zeros between. -/
theorem pointed_whole (whole : 0 ≤ exponent) :
    Pointed (Decimal.nearest ⟨coefficient, exponent⟩)
      (Nat.toDigits 10 coefficient ++ List.replicate exponent.toNat '0' ++ ['.', '0']) := by
  have digits := isDigits_toDigits coefficient
  have number : numberOf 10 (Nat.toDigits 10 coefficient ++ List.replicate exponent.toNat '0' ++
      ['0']) = coefficient * 10 ^ (exponent.toNat + 1) := by
    rw [List.append_assoc, ← List.replicate_succ', numberOf_eq
      (digits.append (isDigits_replicate _)), Nat.ofDigitChars_append,
      Nat.ofDigitChars_ten_toDigits, Nat.ofDigitChars_replicate_zero, Nat.mul_comm]
  have sum : (-1 : Int) + (exponent.toNat + 1 : Nat) = exponent := by omega
  obtain ⟨lead, later, split, nonzero⟩ := exists_toDigits positive
  refine .intro ?_ (isDigits_replicate 1) (List.cons_ne_nil _ _) ?_
  · rw [split] at digits ⊢
    exact .leading nonzero (digits.append (isDigits_replicate _))
  · rw [number]
    exact (Decimal.nearest_mul_pow _ _ _).trans
      (congrArg (fun power => Decimal.nearest ⟨coefficient, power⟩) sum)

/-- The point is between the digits. -/
theorem pointed_split {whole fraction : List Char}
    (split : Nat.toDigits 10 coefficient = whole ++ fraction) (before : whole ≠ [])
    (after : fraction ≠ []) :
    Pointed (Decimal.nearest ⟨coefficient, -fraction.length⟩) (whole ++ '.' :: fraction) := by
  have digits := isDigits_toDigits coefficient
  rw [split] at digits
  refine .intro ?_ (fun char among => digits char (List.mem_append_right whole among)) after ?_
  · obtain ⟨lead, later, leading, nonzero⟩ := exists_toDigits positive
    obtain ⟨first, more, rfl⟩ := List.exists_cons_of_ne_nil before
    obtain ⟨rfl, -⟩ := List.cons.inj (leading.symm.trans split)
    exact .leading nonzero fun char among => digits char (List.mem_append_left fraction among)
  · rw [← split, numberOf_toDigits]

omit positive in
/-- Positional notation has a point, and its digits denote the decimal. -/
theorem pointed_positional {decimal : Decimal} (positive : 0 < decimal.coefficient) :
    Pointed decimal.nearest (decimal.positional ".0").toList := by
  obtain ⟨coefficient, exponent⟩ := decimal
  replace positive : 0 < coefficient := positive
  simp only [Decimal.positional]
  split
  · rw [String.toList_append, String.toList_ofList, String.toList_ofList]
    exact pointed_whole positive (by omega)
  rename_i fraction
  split
  · rename_i inside
    have length : ((Nat.toDigits 10 coefficient).drop
        ((Nat.toDigits 10 coefficient).length - (-exponent).toNat)).length =
        (-exponent).toNat := by
      rw [List.length_drop]
      omega
    have power : -((-exponent).toNat : Int) = exponent := by omega
    have pointed := pointed_split positive (List.take_append_drop
      ((Nat.toDigits 10 coefficient).length - (-exponent).toNat) _).symm
      (List.ne_nil_of_length_pos (by rw [List.length_take]; omega))
      (List.ne_nil_of_length_pos (by omega))
    rw [length, power] at pointed
    rwa [String.toList_append, String.toList_append, String.toList_ofList, String.toList_ofList,
      String.toList_ofList, List.append_assoc]
  · rename_i outside
    have power : -(((-exponent).toNat - (Nat.toDigits 10 coefficient).length +
        (Nat.toDigits 10 coefficient).length : Nat) : Int) = exponent := by omega
    have pointed := pointed_fraction coefficient
      ((-exponent).toNat - (Nat.toDigits 10 coefficient).length)
    rw [power] at pointed
    rwa [String.toList_append, String.toList_ofList, String.toList_ofList]

end Positional

end Telemetry.Toml
