/-
# Budgets of samples

A policy looks at the threshold only when it admits a fold. What a sample was allowed then, it
stays allowed: a value that is merged behind its ranks or before them leaves the threshold at
its highest rank no lower. A value put before a sample takes up the ranks that the sample took
up, ends at the rank where it ended, and so is as well within its budget.
-/

import Mathlib
import Telemetry.Proofs.Quantile.Accuracy

namespace Telemetry.Quantile

namespace Targets

/-- A sample takes up no more ranks than the targets leave it at the highest of them, among
`count` values; a single value is always allowed. -/
def Affords (targets : Targets Rat) (count : Nat) (ranked : Ranked) : Prop :=
  ((ranked.width + ranked.delta : Nat) : Rat) ≤ max 1 (targets.threshold count ranked.upper)

/-- A sample is within its budget, and one more value leaves it there, wherever that goes. -/
structure Sustains (targets : Targets Rat) (count : Nat) (ranked : Ranked) : Prop where
  affords : targets.Affords count ranked
  /-- When the value goes behind the ranks of the sample. -/
  behind : targets.Affords (count + 1) ranked
  /-- When the value goes before them. -/
  before : targets.Affords (count + 1) ranked.shift
  /-- A value put just before the sample takes over its budget. -/
  joining : ∀ value,
    targets.Affords (count + 1) ⟨⟨value, 1, ranked.width + ranked.delta - 1⟩, ranked.before⟩

variable {targets : Targets Rat} {count : Nat} {ranked : Ranked}

theorem affords_iff : targets.Affords count ranked ↔ ranked.width + ranked.delta ≤ 1 ∨
    targets.Allows count ranked.upper (ranked.width + ranked.delta) := by
  rw [Affords, le_max_iff, Nat.cast_le_one, Allows]

theorem Proper.sustains (proper : targets.Proper) (positive : 1 ≤ ranked.width)
    (affords : targets.Affords count ranked) : targets.Sustains count ranked := by
  have behind : targets.Affords (count + 1) ranked :=
    affords.trans (max_le_max_left 1 proper.threshold_le_succ)
  refine ⟨affords, behind, ?_, ?_⟩
  · have further : targets.threshold count ranked.upper ≤
        targets.threshold (count + 1) ranked.shift.upper := by
      rw [Ranked.upper_shift, Nat.cast_succ]
      exact proper.threshold_le_succ_succ
    exact affords.trans (max_le_max_left 1 further)
  · intro value
    have band : 1 + (ranked.width + ranked.delta - 1) = ranked.width + ranked.delta := by omega
    rw [affords_iff, Ranked.upper_insert _ value positive, band]
    exact affords_iff.mp behind

end Targets

/-- In a paced run all calls merge under the one policy. -/
theorem allows_of_mem_paced {targets : Targets Rat} {calls : List ((Nat → Nat) × Call)}
    {step : Policy × Call} (member : step ∈ paced targets.policy calls) {count rank band : Nat}
    (admitted : step.1.admits count rank band) : targets.Allows count rank band := by
  obtain ⟨call, -, rfl⟩ := List.mem_map.mp member
  exact Targets.admits_iff_allows.mp admitted

namespace Summary

/-- For all accepted targets and however fast the cursors move, every sample of every summary
is within its budget among the values merged by then, and stays there whatever is merged
next. -/
theorem budgets_of_run {bound : Rat} {quantiles : List Rat} {targets : Targets Rat}
    (accepted : Targets.create bound quantiles = .ok targets)
    (calls : List ((Nat → Nat) × Call)) :
    ∃ summary, (run (paced targets.policy calls)).outcome = .ok summary ∧
      ∀ ranked ∈ ranks 0 summary.samples.samples, targets.Sustains summary.count ranked := by
  have proper := Targets.proper_of_create accepted
  obtain ⟨summary, answered, merged, passed, coming, consistent, -⟩ :=
    accounts_run (paced targets.policy calls) fun _ member _ _ _ => allows_of_mem_paced member
  have grown := consistent.grown
  rw [← consistent.represents.samples_eq] at grown
  refine ⟨summary, answered, ?_⟩
  intro ranked member
  have positive := grown.width_pos _ (mem_of_mem_ranks member)
  apply proper.sustains positive
  rw [consistent.count_eq_card, Targets.affords_iff]
  exact proper.within_threshold grown ranked member

/-- Under a wide bound one value is folded into the greatest, and the last one to come is put
before that and takes over its budget of two. -/
theorem budgets_of_four_values :
    let targets : Targets Rat := ⟨2 / 5, [1 / 2], List.cons_ne_nil _ _⟩
    let calls : List ((Nat → Nat) × Call) := [.add ⟨1⟩, .add ⟨4⟩, .add ⟨2⟩, .add ⟨3⟩, .flush].map
      (fun _ => 1, ·)
    Targets.create (2 / 5) [1 / 2] = .ok targets ∧
      ∃ summary, (run (paced targets.policy calls)).outcome = .ok summary ∧
        summary.count = 4 ∧ summary.samples.samples = [⟨⟨1⟩, 1, 0⟩, ⟨⟨3⟩, 1, 1⟩, ⟨⟨4⟩, 2, 0⟩] ∧
        targets.Affords 4 ⟨⟨⟨3⟩, 1, 1⟩, 1⟩ ∧ targets.Affords 4 ⟨⟨⟨4⟩, 2, 0⟩, 2⟩ := by
  intro targets calls
  have accepted : Targets.create (2 / 5) [1 / 2] = .ok targets := by
    norm_num [Targets.create, isErrorBound, isQuantile, Scale.ofCount]
    rfl
  obtain ⟨summary, answered, sustains⟩ := budgets_of_run accepted calls
  have seen : (run (paced targets.policy calls)).outcome.map
      (fun summary => (summary.count, summary.samples.samples)) =
        .ok (4, [⟨⟨1⟩, 1, 0⟩, ⟨⟨3⟩, 1, 1⟩, ⟨⟨4⟩, 2, 0⟩]) := by cbv
  rw [answered] at seen
  obtain ⟨count, samples⟩ := Prod.mk.inj (Except.ok.inj seen)
  rw [count, samples] at sustains
  exact ⟨accepted, summary, answered, count, samples, (sustains _ (by simp)).affords,
    (sustains _ (by simp)).affords⟩

end Summary

end Telemetry.Quantile
