/-
# What holds of a summary

The entries of a summary are cut in two: those that the insert sweep has passed in the
pass under way, and those still to come. Nothing staged for this pass is below a sample
that was passed, so whatever is merged next finds its place at the cut or after it. The
compress sweep moves over the same entries on its own and keeps the weight before it.

The sweeps hold a cursor in hand while they run, and the one in the summary is out of date
until they end; hence the part about the entries stands apart from those about the cursors.
-/

import Telemetry.Proofs.PagedHeap.Queue
import Telemetry.Proofs.Quantile.Arena
import Telemetry.Proofs.Quantile.Growth
import Telemetry.Quantile.Summary

namespace Telemetry.Quantile

/-- A backward sweep stands at an entry that is not the last, and its rank is the weight
of the samples before that. -/
def Sweep.StandsIn (sweep : Sweep) (entries : List Entry) : Prop :=
  ∃ earlier sample later, entries = earlier ++ (sweep.slot, sample) :: later ∧ later ≠ [] ∧
    sweep.rankBefore = weight (samplesOf earlier)

namespace Sweep.StandsIn

variable {sweep : Sweep} {earlier later : List Entry}

/-- Going back over one entry takes its width off the rank, which covers it. -/
theorem back {rankBefore : Nat} {before : Entry}
    (rank : rankBefore = weight (samplesOf (earlier ++ [before]))) (nonempty : later ≠ []) :
    before.2.width ≤ rankBefore ∧
      StandsIn ⟨before.1, rankBefore - before.2.width⟩ (earlier ++ before :: later) := by
  rw [samplesOf_append, samplesOf_cons, samplesOf_nil, weight_append, weight_cons, weight_nil,
    Nat.add_zero] at rank
  refine ⟨rank ▸ Nat.le_add_left _ _, earlier, before.2, later, rfl, nonempty, ?_⟩
  rw [rank, Nat.add_sub_cancel]

/-- Entries added after the last one are not before the sweep. -/
theorem append (stands : sweep.StandsIn earlier) (more : List Entry) :
    sweep.StandsIn (earlier ++ more) := by
  obtain ⟨before, sample, after, rfl, nonempty, rank⟩ := stands
  exact ⟨before, sample, after ++ more, by simp, by simp [nonempty], rank⟩

/-- A sample added before the sweep counts for its rank. -/
theorem insert_before (stands : sweep.StandsIn (earlier ++ later))
    (nodup : (slotsOf (earlier ++ later)).Nodup) (behind : sweep.slot ∈ slotsOf later)
    (entry : Entry) :
    StandsIn { sweep with rankBefore := sweep.rankBefore + entry.2.width }
      (earlier ++ entry :: later) := by
  obtain ⟨before, sample, after, split, nonempty, rank⟩ := stands
  rw [slotsOf_append, List.nodup_append] at nodup
  rcases List.append_eq_append_iff.mp split with ⟨between, rfl, rfl⟩ | ⟨between, rfl, shape⟩
  · refine ⟨earlier ++ entry :: between, sample, after, by simp, nonempty, ?_⟩
    simp only [rank, samplesOf_append, samplesOf_cons, weight_append, weight_cons]
    omega
  · cases between with
    | nil =>
      obtain rfl : later = (sweep.slot, sample) :: after := shape.symm
      refine ⟨before ++ [entry], sample, after, by simp, nonempty, ?_⟩
      simp [rank]
    | cons held between =>
      cases shape
      exact absurd rfl (nodup.2.2 sweep.slot (by simp) sweep.slot behind)

/-- A sample added after the sweep does not. -/
theorem insert_after (stands : sweep.StandsIn (earlier ++ later))
    (passed : sweep.slot ∉ slotsOf later) (entry : Entry) :
    sweep.StandsIn (earlier ++ entry :: later) := by
  obtain ⟨before, sample, after, split, nonempty, rank⟩ := stands
  rcases List.append_eq_append_iff.mp split with ⟨between, rfl, rfl⟩ | ⟨between, rfl, shape⟩
  · exact absurd (by simp) passed
  · cases between with
    | nil =>
      obtain rfl : later = (sweep.slot, sample) :: after := shape.symm
      exact absurd (by simp) passed
    | cons held between =>
      cases shape
      exact ⟨before, sample, between ++ entry :: later, by simp, by simp, rank⟩

end Sweep.StandsIn

namespace Summary

/-- The values staged, however often each. -/
def staged (summary : Summary) : Multiset Binary64 :=
  summary.ahead.keys + summary.behind.keys

@[simp] theorem card_staged (summary : Summary) : summary.staged.card = summary.buffered := by
  rw [staged, buffered, Multiset.card_add, PagedHeap.card_keys, PagedHeap.card_keys]

theorem buffered_eq_zero_iff {summary : Summary} : summary.buffered = 0 ↔ summary.staged = 0 := by
  rw [← card_staged, Multiset.card_eq_zero]

/-- The entries of a summary and its heaps, whatever the cursors say. -/
structure Core (allowed : (count rank band : Nat) → Prop) (merged : Multiset Binary64)
    (passed coming : List Entry) (summary : Summary) : Prop where
  represents : summary.samples.Represents (passed ++ coming)
  grown : Grown allowed merged (samplesOf (passed ++ coming))
  count : summary.count = weight (samplesOf (passed ++ coming))
  aheadHeap : summary.ahead.IsHeap
  behindHeap : summary.behind.IsHeap
  ordered : ∀ waiting ∈ summary.ahead.keys, ∀ other ∈ samplesOf passed, other.value ≤ waiting

/-- The compress sweep, if there is one, stands where it says. -/
def Sweeping (entries : List Entry) (summary : Summary) : Prop :=
  ∀ sweep, summary.compressCursor = some sweep → sweep.StandsIn entries

/-- The insert sweep stands at the first entry that is still to come; between two passes
that is every entry, and nothing waits for the next pass. -/
structure Passing (passed coming : List Entry) (summary : Summary) : Prop where
  underway : ∀ slot, summary.insertCursor = some slot → firstSlot none coming = some slot
  resting : summary.insertCursor = none → passed = [] ∧ summary.behind.keys = 0

/-- All that holds of a summary between two calls. -/
structure Consistent (allowed : (count rank band : Nat) → Prop) (merged : Multiset Binary64)
    (passed coming : List Entry) (summary : Summary) : Prop extends
    Core allowed merged passed coming summary where
  sweeping : summary.Sweeping (passed ++ coming)
  passing : summary.Passing passed coming

variable {allowed : (count rank band : Nat) → Prop} {merged : Multiset Binary64}
  {passed coming : List Entry} {entry : Entry} {summary : Summary} {value : Binary64}

theorem consistent_empty : Summary.empty.Consistent allowed 0 [] [] where
  represents := SampleList.represents_empty
  grown := .empty
  count := rfl
  aheadHeap := PagedHeap.isHeap_create _ _
  behindHeap := PagedHeap.isHeap_create _ _
  ordered := by simp
  sweeping := by simp [Sweeping, empty]
  passing := ⟨by simp [empty], fun _ => ⟨rfl, rfl⟩⟩

theorem Core.sorted (core : summary.Core allowed merged passed coming) :
    (samplesOf (passed ++ coming)).Pairwise (·.value ≤ ·.value) :=
  core.grown.sorted

theorem Core.count_eq_card (core : summary.Core allowed merged passed coming) :
    summary.count = merged.card :=
  core.count.trans core.grown.weight_eq

/-- The entry at the cut is at or above all that was passed. -/
theorem Core.passed_le (core : summary.Core allowed merged passed (entry :: coming)) :
    ∀ other ∈ samplesOf passed, other.value ≤ entry.2.value := by
  have sorted := core.sorted
  rw [samplesOf_append, List.pairwise_append] at sorted
  exact fun other member => sorted.2.2 other member entry.2 List.mem_cons_self

end Summary

end Telemetry.Quantile
