/-
# Thresholds over the rationals

One target leaves a sample the larger of two shares: of the ranks up to it, and of the
ranks past it. Seen like this a threshold loosens whenever a value is merged, wherever it
goes, and a sample it left room for is never further from a lower rank than the room that
is left there.
-/

import Mathlib.Algebra.Order.Field.Rat
import Mathlib.Tactic.Linarith
import Mathlib.Tactic.Positivity
import Telemetry.Quantile.Targets

namespace Telemetry.Quantile.Targets

/-- Targets as they are accepted. -/
structure Proper (targets : Targets Rat) : Prop where
  bound_pos : 0 < targets.bound
  bound_lt : targets.bound < 1 / 2
  quantile_pos : ∀ quantile ∈ targets.quantiles, 0 < quantile
  quantile_lt : ∀ quantile ∈ targets.quantiles, quantile < 1

theorem proper_of_create {bound : Rat} {quantiles : List Rat} {targets : Targets Rat}
    (accepted : create bound quantiles = .ok targets) : targets.Proper := by
  unfold create at accepted
  split at accepted
  · cases accepted
  rename_i inside
  split at accepted
  · cases accepted
  split at accepted
  · cases accepted
  rename_i allInside
  cases accepted
  have bounds : 0 < bound ∧ bound < 1 / 2 := by
    simpa [isErrorBound, Scale.ofCount] using inside
  have each (quantile : Rat) (member : quantile ∈ quantiles) : 0 < quantile ∧ quantile < 1 := by
    have found := List.find?_eq_none.mp allInside quantile member
    simpa [isQuantile, Scale.ofCount] using found
  constructor
  · exact bounds.1
  · exact bounds.2
  · intro quantile member
    exact (each quantile ((List.mem_mergeSort).mp member)).1
  · intro quantile member
    exact (each quantile ((List.mem_mergeSort).mp member)).2

variable {targets : Targets Rat} {count : Nat} {rank quantile number : Rat}

/-- The larger of a share of the ranks up to a rank and one of the ranks past it. -/
theorem allowance_eq_max (positive : 0 < targets.bound) (above : 0 < quantile)
    (below : quantile < 1) :
    targets.allowance count rank quantile =
      max (2 * targets.bound * rank / quantile)
        (2 * targets.bound * (count - rank) / (1 - quantile)) := by
  have rest : 0 < 1 - quantile := sub_pos.mpr below
  simp only [allowance, Scale.ofCount, Nat.cast_ofNat, Nat.cast_one]
  split
  · rename_i reached
    symm
    apply max_eq_left
    rw [div_le_div_iff₀ rest above]
    nlinarith
  · rename_i before
    symm
    apply max_eq_right
    rw [div_le_div_iff₀ above rest]
    nlinarith

/-- A number is within the threshold if it is within every allowance. -/
theorem le_threshold_iff : number ≤ targets.threshold count rank ↔
    ∀ quantile ∈ targets.quantiles, number ≤ targets.allowance count rank quantile := by
  have least (later : List Rat) (start : Rat) :
      number ≤ later.foldl (fun least quantile =>
          let allowed := targets.allowance count rank quantile
          if allowed < least then allowed else least) start ↔
        number ≤ start ∧ ∀ quantile ∈ later, number ≤ targets.allowance count rank quantile := by
    induction later generalizing start with
    | nil => simp
    | cons quantile later recursion =>
      rw [List.foldl_cons, recursion, List.forall_mem_cons, ← and_assoc]
      apply and_congr_left
      intro _
      show number ≤ (if _ then _ else _) ↔ _
      split
      · rename_i less
        exact ⟨fun within => ⟨within.trans less.le, within⟩, And.right⟩
      · rename_i notLess
        exact ⟨fun within => ⟨within, within.trans (not_lt.mp notLess)⟩, And.left⟩
  obtain ⟨bound, quantiles, nonempty⟩ := targets
  obtain ⟨first, later, rfl⟩ := List.exists_cons_of_ne_nil nonempty
  rw [List.forall_mem_cons]
  exact least later _

namespace Proper

/-- A number is within the threshold if it is within one of the two shares of every
target. -/
theorem le_threshold_iff (proper : targets.Proper) : number ≤ targets.threshold count rank ↔
    ∀ quantile ∈ targets.quantiles,
      number ≤ 2 * targets.bound * rank / quantile ∨
        number ≤ 2 * targets.bound * (count - rank) / (1 - quantile) := by
  rw [Targets.le_threshold_iff]
  apply forall₂_congr
  intro quantile member
  rw [allowance_eq_max proper.bound_pos (proper.quantile_pos quantile member)
    (proper.quantile_lt quantile member), le_max_iff]

theorem threshold_nonneg (proper : targets.Proper) (nonneg : 0 ≤ rank) :
    0 ≤ targets.threshold count rank := by
  rw [proper.le_threshold_iff]
  intro quantile member
  have bound := proper.bound_pos
  have above := proper.quantile_pos quantile member
  exact Or.inl (by positivity)

/-- A value merged after a rank leaves the threshold there no lower. -/
theorem threshold_le_succ (proper : targets.Proper) :
    targets.threshold count rank ≤ targets.threshold (count + 1) rank := by
  rw [proper.le_threshold_iff]
  intro quantile member
  have bound := proper.bound_pos
  have below := proper.quantile_lt quantile member
  have least : targets.threshold count rank ≤ targets.threshold count rank := le_rfl
  rcases proper.le_threshold_iff.mp least quantile member with within | within
  · exact Or.inl within
  · refine Or.inr (within.trans (div_le_div_of_nonneg_right ?_ (sub_pos.mpr below).le))
    rw [Nat.cast_succ]
    nlinarith

/-- A value merged before a rank takes the rank along, and leaves the threshold no lower. -/
theorem threshold_le_succ_succ (proper : targets.Proper) :
    targets.threshold count rank ≤ targets.threshold (count + 1) (rank + 1) := by
  rw [proper.le_threshold_iff]
  intro quantile member
  have bound := proper.bound_pos
  have above := proper.quantile_pos quantile member
  have least : targets.threshold count rank ≤ targets.threshold count rank := le_rfl
  rcases proper.le_threshold_iff.mp least quantile member with within | within
  · refine Or.inl (within.trans (div_le_div_of_nonneg_right ?_ above.le))
    nlinarith
  · have same : ((count + 1 : Nat) : Rat) - (rank + 1) = count - rank := by
      rw [Nat.cast_succ, add_sub_add_right_eq_sub]
    rw [same]
    exact Or.inr within

/-- A band that is allowed at some rank ends above every lower rank by no more than that
rank allows. The threshold itself may fall from one rank to the next. -/
theorem sub_le_threshold (proper : targets.Proper) {band higher : Rat}
    (allowed : band ≤ targets.threshold count higher) (inside : band ≤ higher)
    (nonneg : 0 ≤ rank) (lower : rank ≤ higher) :
    rank - (higher - band) ≤ targets.threshold count rank := by
  rw [proper.le_threshold_iff] at allowed ⊢
  intro quantile member
  have bound := proper.bound_pos
  have above := proper.quantile_pos quantile member
  have below := proper.quantile_lt quantile member
  rcases allowed quantile member with within | within
  · apply Or.inl
    rw [mul_div_right_comm] at within ⊢
    -- A share of at most one shrinks no faster than the rank; a larger one allows it all.
    rcases le_total (2 * targets.bound / quantile) 1 with atMost | atLeast
    · nlinarith
    · nlinarith
  · apply Or.inr
    have rest : 0 < 1 - quantile := sub_pos.mpr below
    have wider : 2 * targets.bound * (count - higher) / (1 - quantile) ≤
        2 * targets.bound * (count - rank) / (1 - quantile) := by
      refine div_le_div_of_nonneg_right ?_ rest.le
      nlinarith
    linarith

end Proper

end Telemetry.Quantile.Targets
