/-
# Samples of a timer

A timer that is only added to runs its sketch as a sketch of its own would run, and keeps
the moments of the same samples. A sketch always answers, so a timer does.
-/

import Telemetry.Aggregate.Timer
import Telemetry.Proofs.Quantile.Run

namespace Telemetry.Timer

open Quantile (Call Sketch Summary SlotFault Targets)

variable {targets : Targets Float}

/-- A timer that is created has taken no samples in. -/
theorem eq_empty_of_create {bound : Float} {quantiles : List Float} {timer : Timer}
    (created : create bound quantiles = .ok timer) : ∃ targets, timer = empty targets := by
  rw [create] at created
  split at created <;> cases created
  exact ⟨_, rfl⟩

/-- The timer of some samples, taken in one after another. -/
def ofValues (targets : Targets Float) (values : List Binary64) : Traced SlotFault Timer :=
  values.foldlM add (empty targets)

theorem ofValues_append_singleton (targets : Targets Float) (values : List Binary64)
    (value : Binary64) :
    ofValues targets (values ++ [value]) = ofValues targets values >>= (add · value) := by
  simp [ofValues, List.foldlM_append]

theorem outcome_add (timer : Timer) (value : Binary64) :
    (timer.add value).outcome = (timer.sketch.add value).outcome.map fun sketch =>
      ⟨sketch, timer.moments.add value.toFloat, false⟩ := by
  rw [add, Traced.outcome_bind]
  cases (timer.sketch.add value).outcome <;> rfl

/-- The sketch of a timer is that of its samples, and so are its moments. -/
theorem outcome_ofValues (targets : Targets Float) (values : List Binary64) :
    (ofValues targets values).outcome =
      (Sketch.run targets (values.map .add)).outcome.map fun sketch =>
        ⟨sketch, (values.map Binary64.toFloat).foldl Moments.add .empty, values.isEmpty⟩ := by
  induction values using List.reverseRecOn with
  | nil => rfl
  | append_singleton values value recursion =>
    have sketched : Sketch.run targets ((values ++ [value]).map .add) =
        Sketch.run targets (values.map .add) >>= (Sketch.add · value) := by
      simp only [Sketch.run, List.map_append, List.foldlM_append, List.map_cons, List.map_nil,
        List.foldlM_cons, List.foldlM_nil, Sketch.call, bind_pure]
    rw [ofValues_append_singleton, sketched, Traced.outcome_bind, Traced.outcome_bind, recursion]
    cases (Sketch.run targets (values.map .add)).outcome with
    | error fault => rfl
    | ok sketch =>
      show (add _ value).outcome = (Sketch.add sketch value).outcome.map _
      have unsettled : (values ++ [value]).isEmpty = false := by simp
      rw [outcome_add, List.map_append, List.foldl_append, unsettled]
      rfl

/-- Moments count the samples taken in. -/
theorem count_foldl_add {R : Type} [Scale R] [Add R] [Mul R] (values : List R)
    (moments : Moments R) :
    (values.foldl Moments.add moments).count = moments.count + values.length := by
  induction values generalizing moments with
  | nil => rfl
  | cons value later recursion =>
    rw [List.foldl_cons, recursion, List.length_cons]
    exact Nat.add_right_comm moments.count 1 later.length

/-- Whatever the samples are, there is a timer of them, and it has counted each of them. -/
theorem answers_ofValues (targets : Targets Float) (values : List Binary64) :
    Answers (ofValues targets values).outcome (·.moments.count = values.length) := by
  obtain ⟨summary, -, -, -, answered, -⟩ :=
    Summary.consistent_run ((values.map Call.add).map ((targets.policy, ·)))
  rw [outcome_ofValues, Sketch.outcome_run, answered]
  refine ⟨_, rfl, (count_foldl_add ..).trans ?_⟩
  rw [List.length_map]
  exact Nat.zero_add _

end Telemetry.Timer
