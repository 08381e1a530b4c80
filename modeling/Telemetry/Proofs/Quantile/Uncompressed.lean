/-
# Lists without a fold

A value that is merged brings one sample with it, and only a fold takes one away. So a list
that has as many samples as values were merged was never folded: no sample had room to leave
to a value put before it, and the list is the merged values in order. A query then stops at
the rank sought, however wide its window is beyond that.
-/

import Mathlib
import Telemetry.Proofs.Quantile.Accuracy

namespace Telemetry.Quantile

/-- A sample that stands for its value alone, at a rank that is known. -/
def Sample.IsExact (sample : Sample) : Prop :=
  sample.width = 1 ∧ sample.delta = 0

namespace Grown

variable {allowed : (count rank band : Nat) → Prop} {merged : Multiset Binary64}
  {samples : List Sample}

/-- There are no more samples than values. -/
theorem length_le_card (grown : Grown allowed merged samples) : samples.length ≤ merged.card := by
  have fewer := Multiset.card_le_card grown.values_le
  rwa [Multiset.coe_card, List.length_map] at fewer

/-- As long as there are as many samples as values, all of them are exact. A value that is
merged adds one to both numbers, and a fold is what sets them apart. -/
theorem isExact_of_length_eq (grown : Grown allowed merged samples)
    (unfolded : samples.length = merged.card) : ∀ sample ∈ samples, sample.IsExact := by
  induction grown with
  | empty => exact fun _ member => absurd member List.not_mem_nil
  | @insert merged earlier later sample value grown above below recursion =>
    have before : (earlier ++ sample :: later).length = merged.card := by
      simpa [← Nat.add_assoc] using unfolded
    have exact := recursion before
    rw [List.forall_mem_append, List.forall_mem_cons] at exact ⊢
    obtain ⟨front, successor, back⟩ := exact
    refine ⟨front, ⟨rfl, ?_⟩, List.forall_mem_cons.mpr ⟨successor, back⟩⟩
    rw [successor.1, successor.2]
  | @append merged samples value grown above recursion =>
    have before : samples.length = merged.card := by simpa using unfolded
    rw [List.forall_mem_append, List.forall_mem_singleton]
    exact ⟨recursion before, rfl, rfl⟩
  | @fold merged earlier later sample next grown interior admitted recursion =>
    have fewer := grown.length_le_card
    simp only [List.length_append, List.length_cons] at unfolded fewer
    omega

/-- As long as there are as many samples as values, the values of the samples are those merged,
in order. -/
theorem values_eq_sort (grown : Grown allowed merged samples)
    (unfolded : samples.length = merged.card) :
    samples.map (·.value) = merged.sort (· ≤ ·) := by
  have all : (↑(samples.map (·.value)) : Multiset Binary64) = merged := by
    apply Multiset.eq_of_le_of_card_le grown.values_le
    rw [Multiset.coe_card, List.length_map, unfolded]
  apply List.Perm.eq_of_pairwise' _ (Multiset.pairwise_sort ..) _
  · exact List.pairwise_map.mpr grown.sorted
  · rw [← Multiset.coe_eq_coe, Multiset.sort_eq, all]

end Grown

namespace Sketch

/-- Over exact samples a walk takes one step for each rank up to the one sought, and no window
that takes that rank in makes a difference. -/
theorem answer_eq_getElem? {samples : List Sample} (exact : ∀ sample ∈ samples, sample.IsExact)
    {steps : Nat} (inside : steps ≤ samples.length) (before : Nat) (held : Binary64)
    {window : Rat} (wide : ((before + steps : Nat) : Rat) ≤ window) :
    (held :: samples.map (·.value))[steps]? =
      some (answer ((before + steps : Nat) : Rat) window before held samples) := by
  induction samples generalizing steps before held with
  | nil =>
    rw [Nat.le_zero.mp inside]
    rfl
  | cons sample later recursion =>
    obtain ⟨⟨width, delta⟩, rest⟩ := List.forall_mem_cons.mp exact
    have first : (Scale.ofCount before + Scale.ofCount 1 : Rat) = (before + 1 : Nat) :=
      (Nat.cast_add before 1).symm
    rw [answer, width, delta, Nat.add_zero, first]
    cases steps with
    | zero =>
      -- The sample would be the first one past the rank.
      rw [if_pos (.inr (Nat.cast_lt.mpr (Nat.lt_succ_self before)))]
      rfl
    | succ steps =>
      have reached : ((before + 1 : Nat) : Rat) ≤ (before + (steps + 1) : Nat) :=
        Nat.cast_le.mpr (Nat.add_le_add_left (Nat.le_add_left ..) before)
      have goesOn := not_or.mpr ⟨not_lt.mpr (reached.trans wide), not_lt.mpr reached⟩
      rw [if_neg goesOn, List.map_cons, List.getElem?_cons_succ]
      rw [show before + (steps + 1) = before + 1 + steps from Nat.add_right_comm before steps 1]
        at wide ⊢
      exact recursion rest (Nat.le_of_succ_le_succ inside) (before + 1) sample.value wide

/-- From the first sample on, a walk over exact samples ends at the rank sought. -/
theorem answer_of_isExact {samples : List Sample} (exact : ∀ sample ∈ samples, sample.IsExact)
    {rank : Nat} (positive : 1 ≤ rank) (inside : rank ≤ samples.length) (held : Binary64)
    {window : Rat} (wide : (rank : Rat) ≤ window) :
    (samples.map (·.value))[rank - 1]? = some (answer (rank : Rat) window 0 held samples) := by
  obtain ⟨steps, rfl⟩ := Nat.exists_eq_add_of_le' positive
  rw [← Nat.zero_add (steps + 1)] at wide
  have ends := answer_eq_getElem? exact inside 0 held wide
  rwa [List.getElem?_cons_succ, Nat.zero_add] at ends

variable {targets : Targets Rat} {summary : Summary} {merged : Multiset Binary64}
  {allowed : (count rank band : Nat) → Prop}

/-- A query of a sketch that was never folded answers with the merged value at its rank, and so
does every walk with a window that is no shorter. -/
theorem query_of_length_eq (proper : targets.Proper)
    (grown : Grown allowed merged summary.samples.samples) (count : summary.count = merged.card)
    (unfolded : summary.samples.samples.length = merged.card) (nonempty : 1 ≤ summary.count)
    {quantile : Rat} (positive : 0 < quantile) (atMostOne : quantile ≤ 1) :
    ∃ rank value, (quantile * summary.count).ceil = (rank : Nat) ∧ 1 ≤ rank ∧
      (merged.sort (· ≤ ·))[rank - 1]? = some value ∧
      query ⟨targets, summary⟩ quantile = some value ∧
      ∀ (room : Rat) held, 0 ≤ room →
        answer (rank : Rat) (rank + (room / 2).ceil) 0 held summary.samples.samples = value := by
  obtain ⟨rank, isRank, first, last⟩ := exists_rank positive atMostOne nonempty
  have exact := grown.isExact_of_length_eq unfolded
  have inside : rank ≤ summary.samples.samples.length := by rwa [unfolded, ← count]
  obtain ⟨value, found⟩ : ∃ value, (merged.sort (· ≤ ·))[rank - 1]? = some value := by
    rw [← grown.values_eq_sort unfolded]
    exact ⟨_, answer_of_isExact exact first inside 0 le_rfl⟩
  have answers (room : Rat) (held : Binary64) (nonneg : 0 ≤ room) :
      answer (rank : Rat) (rank + (room / 2).ceil) 0 held summary.samples.samples = value := by
    have ends := answer_of_isExact exact first inside held (le_add_ceil_half nonneg)
    rw [grown.values_eq_sort unfolded, found] at ends
    exact (Option.some.inj ends).symm
  refine ⟨rank, value, isRank, first, found, ?_, answers⟩
  have sampled : summary.samples.samples ≠ [] :=
    List.ne_nil_of_length_pos (first.trans inside)
  obtain ⟨least, later, shape⟩ := List.exists_cons_of_ne_nil sampled
  have rankEq : ((quantile * summary.count).ceil : Rat) = rank := by
    rw [isRank, Int.cast_natCast]
  have room : 0 ≤ targets.threshold summary.count ((quantile * summary.count).ceil : Rat) :=
    proper.threshold_nonneg (rankEq ▸ Nat.cast_nonneg rank)
  have walked := answers _ least.value room
  rw [← rankEq, shape] at walked
  simp only [query, samples, shape]
  exact congrArg some walked

/-- Whatever may be merged and however the cursors move, a sketch that has as many samples as
merged values was never folded: its samples are exact and have the merged values in order, and
a query for a quantile answers with the one at its rank. For this the room that a query is
granted on top of the rank only has to be no less than none. -/
theorem exact_of_run {bound : Rat} {quantiles : List Rat}
    (accepted : Targets.create bound quantiles = .ok targets) (calls : List (Policy × Call)) :
    ∃ summary merged, (Summary.run calls).outcome = .ok summary ∧
      merged + summary.staged = added calls ∧
      let sketch : Sketch Rat := ⟨targets, summary⟩
      sketch.length = sketch.count → 1 ≤ sketch.count →
        (∀ sample ∈ sketch.samples, sample.IsExact) ∧
        sketch.samples.map (·.value) = merged.sort (· ≤ ·) ∧
        ∀ quantile : Rat, 0 < quantile → quantile ≤ 1 →
          ∃ rank value, (quantile * sketch.count).ceil = (rank : Nat) ∧ 1 ≤ rank ∧
            (merged.sort (· ≤ ·))[rank - 1]? = some value ∧
            sketch.query quantile = some value ∧
            ∀ (room : Rat) held, 0 ≤ room →
              answer (rank : Rat) (rank + (room / 2).ceil) 0 held sketch.samples = value := by
  obtain ⟨summary, merged, passed, coming, answered, consistent, values⟩ :=
    Summary.consistent_run calls
  have grown := consistent.grown
  have length : summary.samples.length = (samplesOf (passed ++ coming)).length :=
    consistent.represents.length_eq.trans (List.length_map _).symm
  rw [← consistent.represents.samples_eq] at grown length
  refine ⟨summary, merged, answered, values, ?_⟩
  intro sketch full nonempty
  have count : summary.count = merged.card := consistent.count_eq_card
  have unfolded : summary.samples.samples.length = merged.card :=
    length.symm.trans (full.trans count)
  refine ⟨grown.isExact_of_length_eq unfolded, grown.values_eq_sort unfolded, ?_⟩
  intro quantile positive atMostOne
  exact query_of_length_eq (Targets.proper_of_create accepted) grown count unfolded nonempty
    positive atMostOne

/-- Three values that come out of order are all kept, and the median is the second of them. -/
theorem exact_of_three_values :
    let targets : Targets Rat := ⟨1 / 100, [1 / 2], List.cons_ne_nil _ _⟩
    let calls : List Call := [.add ⟨0x4072c00000000000⟩, .add ⟨0x4059000000000000⟩,
      .add ⟨0x4069000000000000⟩, .flush]
    Targets.create (1 / 100) [1 / 2] = .ok targets ∧
      ∃ summary, (Summary.run (calls.map ((targets.policy, ·)))).outcome = .ok summary ∧
        let sketch : Sketch Rat := ⟨targets, summary⟩
        sketch.length = sketch.count ∧ 1 ≤ sketch.count ∧ (0 : Rat) < 1 / 2 ∧ (1 / 2 : Rat) ≤ 1 ∧
          sketch.query (1 / 2) = some ⟨0x4069000000000000⟩ := by
  intro targets calls
  have accepted : Targets.create (1 / 100) [1 / 2] = .ok targets := by
    norm_num [Targets.create, isErrorBound, isQuantile, Scale.ofCount]
    rfl
  obtain ⟨summary, merged, answered, -, exact⟩ :=
    exact_of_run accepted (calls.map ((targets.policy, ·)))
  have seen : (Summary.run (calls.map ((targets.policy, ·)))).outcome.map
      (fun summary => (summary.samples.length, summary.count, summary.samples.samples)) =
        .ok (3, 3, [⟨⟨0x4059000000000000⟩, 1, 0⟩, ⟨⟨0x4069000000000000⟩, 1, 0⟩,
          ⟨⟨0x4072c00000000000⟩, 1, 0⟩]) := by cbv
  rw [answered] at seen
  obtain ⟨length, tail⟩ := Prod.mk.inj (Except.ok.inj seen)
  obtain ⟨count, samples⟩ := Prod.mk.inj tail
  have full : summary.samples.length = summary.count := length.trans count.symm
  have nonempty : 1 ≤ summary.count := count ▸ by decide
  have positive : (0 : Rat) < 1 / 2 := by norm_num
  have atMostOne : (1 / 2 : Rat) ≤ 1 := by norm_num
  obtain ⟨-, sorted, answers⟩ := exact full nonempty
  obtain ⟨rank, value, isRank, -, found, query, -⟩ := answers (1 / 2) positive atMostOne
  have second : rank = 2 := by
    have middle : ((1 / 2 : Rat) * (3 : Nat)).ceil = 2 := by decide +kernel
    rw [Sketch.count, count, middle] at isRank
    exact_mod_cast isRank.symm
  rw [← sorted, Sketch.samples, samples, second] at found
  cases found
  exact ⟨accepted, summary, answered, full, nonempty, positive, atMostOne, query⟩

end Sketch

end Telemetry.Quantile
