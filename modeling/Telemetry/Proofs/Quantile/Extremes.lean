/-
# Exact extremes

The first sample is a single value with no room before it, so by the bounds of its rank
nothing that was merged is below it. The last sample ends at the count, so everything that
was merged is at or below it. Folding keeps both: nothing is folded into the first sample,
and the last one is never folded away.
-/

import Mathlib.Order.Bounds.Basic
import Telemetry.Proofs.Quantile.Run

namespace Telemetry.Quantile

namespace Grown

variable {allowed : (count rank band : Nat) → Prop} {merged : Multiset Binary64}
  {samples : List Sample}

theorem isLeast_head (grown : Grown allowed merged samples) :
    ∀ first ∈ samples.head?, IsLeast {value | value ∈ merged} first.value := by
  intro first isFirst
  obtain ⟨width, delta⟩ := grown.head_exact first isFirst
  obtain ⟨later, rfl⟩ := List.head?_eq_some_iff.mp isFirst
  have bounds : Ranked.Sound merged ⟨first, 0⟩ := grown.rankSound.sound _ List.mem_cons_self
  refine ⟨bounds.mem, ?_⟩
  intro value member
  have upper := bounds.upper
  have noneBelow : merged.countP (· < first.value) = 0 := by
    simp only [Ranked.upper, width, delta] at upper
    omega
  exact le_of_not_gt (Multiset.countP_eq_zero.mp noneBelow value member)

theorem isGreatest_last (grown : Grown allowed merged samples) :
    ∀ last ∈ samples.getLast?, IsGreatest {value | value ∈ merged} last.value := by
  intro last isLast
  obtain ⟨init, rfl⟩ := List.getLast?_eq_some_iff.mp isLast
  have bounds : Ranked.Sound merged ⟨last, weight init⟩ :=
    grown.rankSound.sound _ (by simp)
  refine ⟨bounds.mem, ?_⟩
  have lower := bounds.lower
  have total := grown.weight_eq
  have allBelow : merged.countP (· ≤ last.value) = merged.card := by
    simp only [Ranked.lower] at lower
    simp only [weight_append, weight_cons, weight_nil] at total
    have most := Multiset.countP_le_card (· ≤ last.value) merged
    omega
  exact Multiset.countP_eq_card.mp allBelow

/-- Some values are merged as soon as there is any sample. -/
theorem eq_nil_iff (grown : Grown allowed merged samples) : samples = [] ↔ merged = 0 := by
  rw [← Multiset.card_eq_zero, ← grown.weight_eq]
  cases samples with
  | nil => simp
  | cons sample later =>
    have positive := grown.width_pos sample List.mem_cons_self
    have heavy : weight (sample :: later) ≠ 0 := by
      rw [weight_cons]
      omega
    simp [heavy, -weight_cons]

end Grown

namespace SampleList

variable {list : SampleList} {entries : List Entry}

theorem Represents.first?_eq (represents : list.Represents entries) :
    list.first? = (samplesOf entries).head? := by
  rw [first?, represents.head]
  cases entries with
  | nil => rfl
  | cons entry later =>
    have held : list.node? entry.1 = _ := represents.chain.1
    simp [held]

theorem Represents.last?_eq (represents : list.Represents entries) :
    list.last? = (samplesOf entries).getLast? := by
  rw [last?, represents.tail]
  cases entries using List.reverseRecOn with
  | nil => rfl
  | append_singleton earlier entry =>
    have held := represents.chain.node?
    simp [held]

theorem Represents.isEmpty_iff (represents : list.Represents entries) :
    list.isEmpty ↔ samplesOf entries = [] := by
  rw [isEmpty, beq_iff_eq, represents.length_eq, List.length_eq_zero_iff, samplesOf,
    List.map_eq_nil_iff]

end SampleList

namespace Summary.Core

variable {R : Type} {targets : Targets R} {allowed : (count rank band : Nat) → Prop}
  {merged : Multiset Binary64} {passed coming : List Entry} {summary : Summary} {value : Binary64}

theorem isLeast_of_min? (core : summary.Core allowed merged passed coming)
    (found : Sketch.min? ⟨targets, summary⟩ = some value) :
    IsLeast {value | value ∈ merged} value := by
  rw [Sketch.min?, core.represents.first?_eq, Option.map_eq_some_iff] at found
  obtain ⟨first, isFirst, rfl⟩ := found
  exact core.grown.isLeast_head first isFirst

theorem isGreatest_of_max? (core : summary.Core allowed merged passed coming)
    (found : Sketch.max? ⟨targets, summary⟩ = some value) :
    IsGreatest {value | value ∈ merged} value := by
  rw [Sketch.max?, core.represents.last?_eq, Option.map_eq_some_iff] at found
  obtain ⟨last, isLast, rfl⟩ := found
  exact core.grown.isGreatest_last last isLast

theorem min?_eq_none_iff (core : summary.Core allowed merged passed coming) :
    Sketch.min? ⟨targets, summary⟩ = none ↔ merged = 0 := by
  rw [Sketch.min?, core.represents.first?_eq, Option.map_eq_none_iff, List.head?_eq_none_iff]
  exact core.grown.eq_nil_iff

theorem max?_eq_none_iff (core : summary.Core allowed merged passed coming) :
    Sketch.max? ⟨targets, summary⟩ = none ↔ merged = 0 := by
  rw [Sketch.max?, core.represents.last?_eq, Option.map_eq_none_iff, List.getLast?_eq_none_iff]
  exact core.grown.eq_nil_iff

end Summary.Core

namespace Summary

/-- Whatever is merged and however the cursors move, the ends of a list with any samples are
the least and the greatest value merged, and the first sample stands for that value alone.
After a flush these are the extremes of all values ever added. -/
theorem extremes_of_run {R : Type} (targets : Targets R) (calls : List (Policy × Call)) :
    ∃ summary merged, (run calls).outcome = .ok summary ∧
      merged + summary.staged = added calls ∧
      (∀ earlier policy, calls = earlier ++ [(policy, .flush)] → merged = added calls) ∧
      (summary.samples.isEmpty ↔ merged = 0) ∧
      (summary.samples.isEmpty = false → ∃ first last,
        summary.samples.first? = some first ∧ summary.samples.last? = some last ∧
          Sketch.min? ⟨targets, summary⟩ = some first.value ∧
          Sketch.max? ⟨targets, summary⟩ = some last.value ∧
          IsLeast {value | value ∈ merged} first.value ∧
          IsGreatest {value | value ∈ merged} last.value ∧
          first.width = 1 ∧ first.delta = 0 ∧ last.delta = 0) := by
  obtain ⟨summary, merged, passed, coming, answered, consistent, values⟩ := consistent_run calls
  have grown := consistent.grown
  have represents := consistent.represents
  refine ⟨summary, merged, answered, values, ?_, ?_, ?_⟩
  · rintro earlier policy rfl
    obtain ⟨flushed, same, none⟩ := staged_of_run_flush earlier policy
    rw [answered] at same
    cases same
    rw [← values, none, Multiset.add_zero]
  · rw [represents.isEmpty_iff, grown.eq_nil_iff]
  · intro several
    have nonempty : samplesOf (passed ++ coming) ≠ [] := by
      rw [ne_eq, ← represents.isEmpty_iff, several]
      exact Bool.false_ne_true
    obtain ⟨first, isFirst⟩ : ∃ first, (samplesOf (passed ++ coming)).head? = some first :=
      ⟨_, List.head?_eq_some_head nonempty⟩
    obtain ⟨last, isLast⟩ : ∃ last, (samplesOf (passed ++ coming)).getLast? = some last :=
      ⟨_, List.getLast?_eq_some_getLast nonempty⟩
    have atHead := represents.first?_eq.trans isFirst
    have atTail := represents.last?_eq.trans isLast
    obtain ⟨width, delta⟩ := grown.head_exact first isFirst
    refine ⟨first, last, atHead, atTail, ?_, ?_, grown.isLeast_head first isFirst,
      grown.isGreatest_last last isLast, width, delta, grown.last_delta last isLast⟩
    · rw [Sketch.min?, atHead]
      rfl
    · rw [Sketch.max?, atTail]
      rfl

end Summary

end Telemetry.Quantile
