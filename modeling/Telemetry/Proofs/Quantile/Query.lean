/-
# Queries for ascending quantiles

A query answers with the last of the samples at the front that are within its window and its
rank. A higher quantile has no lower rank, so its walk can only stop earlier where its window
ends earlier. That happens: past a target, half of the threshold may shrink faster than the
rank grows. But a window that has come back has left all the ranks there are behind it, and
no sample reaches beyond these.
-/

import Mathlib
import Telemetry.Proofs.Quantile.Extremes
import Telemetry.Proofs.Quantile.Thresholds

namespace Telemetry.Quantile

section

variable {R : Type} [Scale R] [LT R] [DecidableLT R] [Add R]

/-- A walk answers with what it held at first, or with the value of a sample. -/
theorem Sketch.answer_mem (rank window : R) (before : Nat) (held : Binary64)
    (samples : List Sample) :
    answer rank window before held samples ∈ held :: samples.map (·.value) := by
  induction samples generalizing before held with
  | nil => exact List.mem_cons_self
  | cons sample later recursion =>
    rw [answer]
    split
    · exact List.mem_cons_self
    · exact List.mem_cons_of_mem _ (recursion ..)

variable [LE R] [DecidableLE R] [Sub R] [Mul R] [Div R] {targets : Targets R} {quantile : R}
  {allowed : (count rank band : Nat) → Prop} {merged : Multiset Binary64}
  {passed coming : List Entry} {summary : Summary} {value : Binary64}

namespace Summary.Core

/-- Whatever is asked, there is an answer as soon as any value is merged. -/
theorem query_eq_none_iff (core : summary.Core allowed merged passed coming) :
    Sketch.query ⟨targets, summary⟩ quantile = none ↔ merged = 0 := by
  rw [← core.grown.eq_nil_iff, ← core.represents.samples_eq, Sketch.query, Sketch.samples]
  cases summary.samples.samples <;> simp

/-- An answer is a value that was merged. -/
theorem mem_of_query (core : summary.Core allowed merged passed coming)
    (answered : Sketch.query ⟨targets, summary⟩ quantile = some value) : value ∈ merged := by
  apply Multiset.mem_of_le core.grown.values_le
  rw [Multiset.mem_coe, ← core.represents.samples_eq]
  rw [Sketch.query, Sketch.samples] at answered
  cases samples : summary.samples.samples with
  | nil =>
    rw [samples] at answered
    cases answered
  | cons first later =>
    rw [samples] at answered
    have member := Option.some.inj answered ▸ Sketch.answer_mem _ _ 0 first.value (first :: later)
    rcases List.mem_cons.mp member with rfl | member
    · exact List.mem_cons_self
    · exact member

end Summary.Core

end

namespace Sketch

/-- Of two walks over sorted samples the one for the higher rank ends no lower, provided that
its window leaves no sample out that the other one takes in. -/
theorem answer_le_answer {rank window further wider : Rat} (higher : rank ≤ further) (before : Nat)
    {held : Binary64} {samples : List Sample} (sorted : samples.Pairwise (·.value ≤ ·.value))
    (least : ∀ sample ∈ samples, held ≤ sample.value)
    (reached : ∀ ranked ∈ ranks before samples, (ranked.upper : Rat) ≤ window →
      (ranked.upper : Rat) ≤ wider) :
    answer rank window before held samples ≤ answer further wider before held samples := by
  induction samples generalizing before held with
  | nil => exact le_rfl
  | cons sample later recursion =>
    have held_le : held ≤ answer further wider before held (sample :: later) := by
      rcases List.mem_cons.mp (answer_mem further wider before held (sample :: later)) with
        same | member
      · exact same.ge
      · obtain ⟨other, among, same⟩ := List.mem_map.mp member
        exact same ▸ least other among
    rw [List.pairwise_cons] at sorted
    rw [ranks_cons, List.forall_mem_cons, Ranked.upper, Nat.add_assoc, Nat.cast_add] at reached
    rw [answer]
    split
    · exact held_le
    · rename_i goesOn
      rw [not_or, not_lt, not_lt] at goesOn
      -- What the first walk takes in is within both bounds of the second one.
      rw [answer, if_neg]
      · exact recursion (before + sample.width) sorted.2 sorted.1 reached.2
      · rw [not_or, not_lt, not_lt]
        exact ⟨reached.1 goesOn.1, goesOn.2.trans higher⟩

end Sketch

namespace Targets.Proper

variable {targets : Targets Rat} {count : Nat} {lower higher : Rat}

/-- The window of a query, not yet rounded up, ends no earlier for a higher rank, unless it is
past all the ranks there are. -/
theorem reach_mono (proper : targets.Proper) (ordered : lower ≤ higher) :
    min (lower + targets.threshold count lower / 2) count ≤
      higher + targets.threshold count higher / 2 := by
  obtain ⟨reach, isReach⟩ : ∃ reach, reach = lower + targets.threshold count lower / 2 := ⟨_, rfl⟩
  rw [← isReach]
  suffices room : 2 * (min reach count - higher) ≤ targets.threshold count higher by linarith
  rw [proper.le_threshold_iff]
  intro quantile member
  have bound := proper.bound_pos
  have above := proper.quantile_pos quantile member
  have rest : 0 < 1 - quantile := sub_pos.mpr (proper.quantile_lt quantile member)
  have atMostReach : min reach count ≤ reach := min_le_left ..
  have atMostCount : min reach count ≤ count := min_le_right ..
  rcases proper.le_threshold_iff.mp (le_refl (targets.threshold count lower)) quantile member with
    within | within
  · have grown : 2 * targets.bound * lower / quantile ≤ 2 * targets.bound * higher / quantile :=
      div_le_div_of_nonneg_right (mul_le_mul_of_nonneg_left ordered (by positivity)) above.le
    exact .inl (by linarith)
  · -- The share of the ranks past a rank shrinks as the rank grows: at most as fast as that, or
    -- the window stays past all of them.
    obtain ⟨share, isShare⟩ : ∃ share, share = targets.bound / (1 - quantile) := ⟨_, rfl⟩
    have shares (rank : Rat) :
        2 * targets.bound * (count - rank) / (1 - quantile) = 2 * (share * (count - rank)) := by
      rw [isShare]
      ring
    rw [shares] at within ⊢
    rcases le_total share 1 with slow | fast
    · have shrunk : (1 - share) * lower ≤ (1 - share) * higher :=
        mul_le_mul_of_nonneg_left ordered (sub_nonneg.mpr slow)
      exact .inr (by linarith)
    · rcases le_total higher count with inside | outside
      · have covered : 1 * (count - higher) ≤ share * (count - higher) :=
          mul_le_mul_of_nonneg_right fast (sub_nonneg.mpr inside)
        exact .inr (by linarith)
      · have nonneg : 0 ≤ higher := (Nat.cast_nonneg count).trans outside
        have some : 0 ≤ 2 * targets.bound * higher / quantile := by positivity
        exact .inl (by linarith)

/-- A rank that is within the window of a query is within that of every query for a higher
rank. -/
theorem le_window_of_le (proper : targets.Proper) {first second : Int} (ordered : first ≤ second)
    {rank : Nat} (inside : rank ≤ count)
    (reached : (rank : Rat) ≤ first + (targets.threshold count first / 2).ceil) :
    (rank : Rat) ≤ second + (targets.threshold count second / 2).ceil := by
  have further : min ((first : Rat) + targets.threshold count first / 2) count ≤
      second + targets.threshold count second / 2 := proper.reach_mono (Int.cast_le.mpr ordered)
  by_contra short
  have atMost : (targets.threshold count second / 2).ceil ≤ (rank : Int) - second - 1 := by
    have short : second + (targets.threshold count second / 2).ceil < rank := by
      exact_mod_cast not_le.mp short
    omega
  have above : (rank : Int) - first - 1 < (targets.threshold count first / 2).ceil := by
    have reached : (rank : Int) ≤ first + (targets.threshold count first / 2).ceil := by
      exact_mod_cast reached
    omega
  rw [Rat.ceil_le_iff] at atMost
  rw [Rat.lt_ceil_iff] at above
  push_cast at atMost above
  have all : (rank : Rat) ≤ count := Nat.cast_le.mpr inside
  rcases min_le_iff.mp further with within | within <;> linarith

end Targets.Proper

namespace Sketch

variable {targets : Targets Rat} {merged : Multiset Binary64} {summary : Summary}
  {allowed : (count rank band : Nat) → Prop}

/-- A query for a higher quantile answers no lower value. -/
theorem query_le_query (proper : targets.Proper)
    (grown : Grown allowed merged summary.samples.samples) (count : summary.count = merged.card)
    {lower higher : Rat} (ordered : lower ≤ higher) {found other : Binary64}
    (answered : query ⟨targets, summary⟩ lower = some found)
    (also : query ⟨targets, summary⟩ higher = some other) : found ≤ other := by
  have sorted := grown.sorted
  have sound := grown.rankSound.sound
  have ranksOrdered : (lower * summary.count).ceil ≤ (higher * summary.count).ceil :=
    Rat.ceil_le_iff.mpr
      ((mul_le_mul_of_nonneg_right ordered (Nat.cast_nonneg _)).trans Rat.le_ceil)
  simp only [query, samples] at answered also
  generalize summary.samples.samples = samples at *
  cases samples with
  | nil => cases answered
  | cons first later =>
    cases answered
    cases also
    apply answer_le_answer (Int.cast_le.mpr ranksOrdered) 0 sorted
    · exact List.forall_mem_cons.mpr ⟨le_rfl, (List.pairwise_cons.mp sorted).1⟩
    · intro ranked member reached
      have inside : ranked.upper ≤ summary.count := count ▸ (sound ranked member).bounded
      exact proper.le_window_of_le ranksOrdered inside reached

/-- Whatever was merged and however the cursors moved, a sketch with any values answers every
query, and of two queries the one for the higher quantile answers no lower value. This needs no
quantile to be between zero and one. -/
theorem ascending_of_run {bound : Rat} {quantiles : List Rat}
    (accepted : Targets.create bound quantiles = .ok targets) (calls : List (Policy × Call)) :
    ∃ summary, (Summary.run calls).outcome = .ok summary ∧
      (∀ quantile, query ⟨targets, summary⟩ quantile = none ↔ summary.count = 0) ∧
      ∀ lower higher : Rat, lower ≤ higher → ∀ found other,
        query ⟨targets, summary⟩ lower = some found →
          query ⟨targets, summary⟩ higher = some other → found ≤ other := by
  have proper := Targets.proper_of_create accepted
  obtain ⟨summary, merged, passed, coming, answered, consistent, -⟩ := Summary.consistent_run calls
  have grown := consistent.grown
  rw [← consistent.represents.samples_eq] at grown
  have count := consistent.count_eq_card
  refine ⟨summary, answered, ?_, ?_⟩
  · intro quantile
    rw [consistent.query_eq_none_iff, count, Multiset.card_eq_zero]
  · intro lower higher ordered found other first second
    exact query_le_query proper grown count ordered first second

/-- An error bound of two fifths at a quantile of nine tenths lets windows come back. The median
of two values is still no higher than the greatest of them. -/
theorem ascending_of_two_values :
    let targets : Targets Rat := ⟨2 / 5, [9 / 10], List.cons_ne_nil _ _⟩
    let calls : List Call := [.add ⟨0x4000000000000000⟩, .add ⟨0x3ff0000000000000⟩, .flush]
    Targets.create (2 / 5) [9 / 10] = .ok targets ∧ (1 / 2 : Rat) ≤ 1 ∧
      ∃ summary, (Summary.run (calls.map ((targets.policy, ·)))).outcome = .ok summary ∧
        query ⟨targets, summary⟩ (1 / 2) = some ⟨0x3ff0000000000000⟩ ∧
        query ⟨targets, summary⟩ 1 = some ⟨0x4000000000000000⟩ ∧
        (⟨0x3ff0000000000000⟩ : Binary64) ≤ ⟨0x4000000000000000⟩ := by
  intro targets calls
  have accepted : Targets.create (2 / 5) [9 / 10] = .ok targets := by
    norm_num [Targets.create, isErrorBound, isQuantile, Scale.ofCount]
    rfl
  have ordered : (1 / 2 : Rat) ≤ 1 := by norm_num
  obtain ⟨summary, answered, -, ascending⟩ :=
    ascending_of_run accepted (calls.map ((targets.policy, ·)))
  have median : (Summary.run (calls.map ((targets.policy, ·)))).outcome.map
      (query ⟨targets, ·⟩ (1 / 2)) = .ok (some ⟨0x3ff0000000000000⟩) := by cbv
  have greatest : (Summary.run (calls.map ((targets.policy, ·)))).outcome.map
      (query ⟨targets, ·⟩ 1) = .ok (some ⟨0x4000000000000000⟩) := by cbv
  rw [answered] at median greatest
  have median := Except.ok.inj median
  have greatest := Except.ok.inj greatest
  exact ⟨accepted, ordered, summary, answered, median, greatest,
    ascending _ _ ordered _ _ median greatest⟩

end Sketch

end Telemetry.Quantile
