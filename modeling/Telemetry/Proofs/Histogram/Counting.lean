/-
# Counting samples

Each sample raises one bin by one, so the bins add up to the number of samples. The index of the
bin goes up with the sample: the distance from the least number and its quotient by the width are
both rounded, but rounding keeps the order, and so does cutting to whole numbers. The outer bins
hold what is below or beyond all the others.

A checked insertion computes the same index step by step, and answers nothing if a step falls
below zero, leaves the words that there are, or ends outside the bins. It always answers.
-/

import Mathlib.Data.Nat.PSub
import Telemetry.Proofs.Binary64.Monotone
import Telemetry.Proofs.Histogram.Cover

namespace Telemetry

open Doubles

namespace Binning

variable {binning : Binning} {first second value : Float}
  {least greatest width near far place apart further : Rat}

namespace Measured

variable (measured : Measured binning least greatest width)
include measured

theorem finite_of_within (above : least ≤ place) (below : place ≤ greatest) : |place| < limit := by
  have low := abs_lt.mp measured.finite_least
  have high := abs_lt.mp measured.finite_greatest
  exact abs_lt.mpr ⟨by linarith, by linarith⟩

/-- The number of widths goes up with the distance. -/
theorem widthsTo_le (away : place? (first - binning.least) = some apart)
    (beyond : place? (second - binning.least) = some further) (finite : |apart| < limit)
    (also : |further| < limit) (ordered : apart ≤ further) :
    binning.widthsTo first ≤ binning.widthsTo second := by
  obtain ⟨low, cut, -⟩ :=
    nearest_div away measured.place_width finite measured.finite_width measured.positive.ne'
  obtain ⟨high, divided, -⟩ :=
    nearest_div beyond measured.place_width also measured.finite_width measured.positive.ne'
  have ratios : low ≤ high := div_place_le measured.place_width measured.finite_width
    measured.positive away beyond finite also ordered cut divided
  rw [widthsTo, widthsTo, toNat_toUInt64 cut, toNat_toUInt64 divided]
  exact min_le_min_right _ (Nat.floor_mono ratios)

/-- So it goes up with the sample, within the range. -/
theorem widthsTo_mono (placed : place? first = some near) (other : place? second = some far)
    (above : least ≤ near) (ordered : near ≤ far) (below : far < greatest) :
    binning.widthsTo first ≤ binning.widthsTo second := by
  obtain ⟨apart, away, finite, -⟩ := measured.exists_apart placed above (ordered.trans_lt below)
  obtain ⟨further, beyond, also, -⟩ := measured.exists_apart other (above.trans ordered) below
  have inside := measured.finite_of_within above (ordered.trans below.le)
  have within := measured.finite_of_within (above.trans ordered) below.le
  exact measured.widthsTo_le away beyond finite also (sub_place_le measured.place_least
    measured.finite_least placed other inside within ordered away beyond)

/-- There are no more widths to a sample within the range than there are to its end. -/
theorem widthsTo_le_greatest (placed : place? value = some place) (above : least ≤ place)
    (below : place < greatest) : binning.widthsTo value ≤ binning.widthsTo binning.greatest := by
  obtain ⟨apart, away, finite, -⟩ := measured.exists_apart placed above below
  obtain ⟨range, spanned, also, -⟩ := measured.fits
  have inside := measured.finite_of_within above below.le
  exact measured.widthsTo_le away spanned finite also (sub_place_le measured.place_least
    measured.finite_least placed measured.place_greatest inside measured.finite_greatest below.le
    away spanned)

end Measured

section Accepted

variable (checked : binning.check = .ok ()) (place_least : place? binning.least = some least)
  (place_greatest : place? binning.greatest = some greatest)
include checked place_least

/-- There are no widths to any sample if the width is infinite. -/
theorem widthsTo_eq_zero (infinite : ¬ binning.width.isFinite = true)
    (placed : place? value = some place) (finite : |place| < limit) (above : least ≤ place) :
    binning.widthsTo value = 0 := by
  obtain ⟨bounded, -⟩ := fits_of_check checked
  obtain ⟨-, width, -, place_width, positive, -⟩ := width_le_range checked
  rw [place_eq_limit place_width positive.le infinite] at place_width
  have rounded := nearest_sub placed place_least finite ((abs_place place_least).2.mp bounded)
  obtain ⟨apart, away, -⟩ := id rounded
  have zero : place? 0 = some 0 := rfl
  have nonneg : 0 ≤ apart := rounded.le_place away zero (sub_nonneg.mpr above)
  rw [widthsTo]
  by_cases close : (value - binning.least).isFinite = true
  · exact toUInt64_div_limit away ((abs_place away).2.mp close) place_width
  · rw [place_eq_limit away nonneg close] at away
    exact toUInt64_limit_div_limit away place_width

include place_greatest

/-- The bin goes up with the sample. -/
theorem binOf_le_binOf (words : binning.bins < 2 ^ 64) (placed : place? first = some near)
    (other : place? second = some far) (ordered : near ≤ far) :
    binning.binOf first ≤ binning.binOf second := by
  obtain ⟨-, -, ascending, -⟩ := fits_of_check checked
  rw [le_iff place_greatest place_least, not_le] at ascending
  have last := binning.binOf_lt_bins first
  rcases binOf_cases place_least place_greatest placed with
      ⟨-, bin⟩ | ⟨beyond, -⟩ | ⟨above, -, bin⟩ <;>
    rcases binOf_cases place_least place_greatest other with
      ⟨under, -⟩ | ⟨-, next⟩ | ⟨-, within, next⟩
  case inl.inl | inl.inr.inl | inl.inr.inr => rw [bin]; exact Nat.zero_le _
  case inr.inl.inr.inl | inr.inr.inr.inl => rw [next]; omega
  case inr.inl.inl | inr.inr.inl | inr.inl.inr.inr => linarith
  case inr.inr.inr.inr =>
    -- Both samples are in regular bins. Without a finite width there is only one place for them.
    rw [bin, next]
    by_cases finite : binning.width.isFinite = true
    · have spanned := isFinite_range checked finite words
      obtain ⟨_, _, width, measured⟩ := exists_measured checked finite spanned
      cases measured.place_least.symm.trans place_least
      cases measured.place_greatest.symm.trans place_greatest
      have widths := measured.widthsTo_mono placed other above ordered within
      omega
    · rw [bins_eq_two checked finite]
      omega

/-- One more width than there are to a sample within the range is still a word. -/
theorem widthsTo_succ_lt (words : binning.bins < 2 ^ 64) (placed : place? value = some place)
    (above : least ≤ place) (below : place < greatest) : binning.widthsTo value + 1 < 2 ^ 64 := by
  by_cases finite : binning.width.isFinite = true
  · have spanned := isFinite_range checked finite words
    obtain ⟨_, _, width, measured⟩ := exists_measured checked finite spanned
    cases measured.place_least.symm.trans place_least
    cases measured.place_greatest.symm.trans place_greatest
    have widths := measured.widthsTo_le_greatest placed above below
    rw [bins] at words
    omega
  · obtain ⟨bounded, also, -⟩ := fits_of_check checked
    have low := abs_lt.mp ((abs_place place_least).2.mp bounded)
    have high := abs_lt.mp ((abs_place place_greatest).2.mp also)
    have inside : |place| < limit := abs_lt.mpr ⟨by linarith, by linarith⟩
    rw [widthsTo_eq_zero checked place_least finite placed inside above]
    norm_num

end Accepted

/-- One more, as long as it is a word. -/
def checkedSucc (number : Nat) : Option Nat :=
  if number + 1 < 2 ^ 64 then some (number + 1) else none

/-- The bin of a sample among so many bins, with a look at each step. -/
def checkedBinOf (binning : Binning) (bins : Nat) (value : Float) : Option Nat := do
  let last ← bins.psub 1
  if value < binning.least then return 0
  if !(value < binning.greatest) then return last
  return min (← checkedSucc (binning.widthsTo value)) (← last.psub 1)

theorem checkedBinOf_eq (checked : binning.check = .ok ()) (words : binning.bins < 2 ^ 64)
    (value : Float) : binning.checkedBinOf binning.bins value = some (binning.binOf value) := by
  have outer := binning.two_le_bins
  have last : binning.bins.psub 1 = some (binning.bins - 1) := Nat.psub_eq_sub (by omega)
  have inner : (binning.bins - 1).psub 1 = some (binning.bins - 1 - 1) := Nat.psub_eq_sub (by omega)
  rw [checkedBinOf, binOf, last]
  by_cases below : value < binning.least
  · simp [below]
  · by_cases inside : value < binning.greatest
    · obtain ⟨bounded, also, -⟩ := fits_of_check checked
      obtain ⟨least, place_least, -⟩ := exists_place_of_isFinite bounded
      obtain ⟨greatest, place_greatest, -⟩ := exists_place_of_isFinite also
      obtain ⟨place, placed⟩ := exists_place
        (Bool.eq_false_iff.mpr fun undefined => not_lt_of_isNaN (.inl undefined) inside)
      have above := not_lt.mp ((lt_iff placed place_least).not.mp below)
      have within := (lt_iff placed place_greatest).mp inside
      have word := widthsTo_succ_lt checked place_least place_greatest words placed above within
      have more : checkedSucc (binning.widthsTo value) = some (binning.widthsTo value + 1) :=
        if_pos word
      simp only [below, inside, if_false, decide_true, Bool.not_true, Bool.false_eq_true, more,
        inner, Option.bind_eq_bind, Option.bind_some, pure]
    · simp [below, inside]

end Binning

namespace Histogram

variable {histogram : Histogram} {binning : Binning} {value : Float} {index : Nat}

/-- Count a sample in its bin, with a look at each step on the way to the bin. -/
def checkedInsert (histogram : Histogram) (value : Float) : Option Histogram := do
  let index ← histogram.binning.checkedBinOf histogram.counts.size value
  if index < histogram.counts.size then
    return { histogram with
      count := histogram.count + 1
      counts := histogram.counts.modify index (· + 1) }
  else none

/-- What holds of a histogram after any samples: all its bins are there, and they add up. -/
structure Complete (histogram : Histogram) (binning : Binning) (samples : Nat) : Prop where
  binning_eq : histogram.binning = binning
  size_counts : histogram.counts.size = binning.bins
  count_eq : histogram.count = samples
  sum_eq : (histogram.bins.map (·.count)).sum = samples

theorem map_count_bins (histogram : Histogram) :
    histogram.bins.map (·.count) = histogram.counts.toList := by
  apply List.ext_getElem?
  intro index
  rw [List.getElem?_map, getElem?_bins, Option.map_map, Array.getElem?_toList]
  exact congrFun Option.map_id _

/-- Where one of some counts is raised, their sum is. -/
theorem sum_modify_succ {counts : List Nat} (inside : index < counts.length) :
    (counts.modify index (· + 1)).sum = counts.sum + 1 := by
  induction counts generalizing index with
  | nil => cases inside
  | cons count later recursion =>
    cases index with
    | zero =>
      rw [List.modify_zero_cons, List.sum_cons, List.sum_cons]
      omega
    | succ index =>
      rw [List.modify_succ_cons, List.sum_cons, List.sum_cons,
        recursion (Nat.lt_of_succ_lt_succ inside)]
      omega

theorem complete_empty (binning : Binning) : (empty binning).Complete binning 0 where
  binning_eq := rfl
  size_counts := Array.size_replicate
  count_eq := rfl
  sum_eq := by
    rw [map_count_bins]
    simp [empty]

namespace Complete

variable {samples : Nat} (complete : histogram.Complete binning samples)
include complete

theorem length_bins : histogram.bins.length = histogram.binning.bins := by
  rw [Histogram.length_bins, complete.size_counts, complete.binning_eq]

theorem insert (value : Float) : (histogram.insert value).Complete binning (samples + 1) where
  binning_eq := complete.binning_eq
  size_counts := (Array.size_modify ..).trans complete.size_counts
  count_eq := congrArg (· + 1) complete.count_eq
  sum_eq := by
    have inside : histogram.binning.binOf value < histogram.counts.toList.length := by
      rw [Array.length_toList, complete.size_counts, ← complete.binning_eq]
      exact histogram.binning.binOf_lt_bins value
    have before := complete.sum_eq
    rw [map_count_bins] at before ⊢
    rw [Histogram.insert, Array.toList_modify, sum_modify_succ inside, before]

theorem checkedInsert_eq (checked : binning.check = .ok ()) (words : binning.bins < 2 ^ 64)
    (value : Float) : histogram.checkedInsert value = some (histogram.insert value) := by
  obtain ⟨rfl, sized, -, -⟩ := complete
  have inside := histogram.binning.binOf_lt_bins value
  rw [checkedInsert, sized, Binning.checkedBinOf_eq checked words]
  simp [inside, Histogram.insert]

theorem raises_iff (value : Float) :
    histogram.Raises value index ↔ binning.binOf value = index := by
  rw [Histogram.raises_iff complete.length_bins, complete.binning_eq]

end Complete

/-- Whatever is inserted, the bins stay complete, and no step of an insertion fails. -/
theorem complete_foldl_insert (checked : binning.check = .ok ()) (words : binning.bins < 2 ^ 64)
    (values : List Float) :
    (values.foldl insert (empty binning)).Complete binning values.length ∧
      values.foldlM checkedInsert (empty binning) = some (values.foldl insert (empty binning)) := by
  induction values using List.reverseRecOn with
  | nil => exact ⟨complete_empty binning, rfl⟩
  | append_singleton values value recursion =>
    obtain ⟨complete, inserted⟩ := recursion
    rw [List.foldl_append, List.foldlM_append, inserted, List.length_append]
    refine ⟨complete.insert value, ?_⟩
    show List.foldlM checkedInsert (values.foldl insert (empty binning)) [value] = _
    rw [List.foldlM_cons, complete.checkedInsert_eq checked words value]
    rfl

/-- No insertion relies on anything that does not hold. Each one raises exactly one bin, by one, so
that the bins add up to the number of samples, and of two samples the larger one is in the same bin
or a later one, whatever has been counted before. -/
theorem counts_of_run (accepted : binning.check = .ok ()) (words : binning.bins < 2 ^ 64)
    (values : List Float) :
    let histogram := empty binning
    values.foldlM checkedInsert histogram = some (values.foldl insert histogram) ∧
      (values.foldl insert histogram).count = values.length ∧
      ((values.foldl insert histogram).bins.map (·.count)).sum =
        (values.foldl insert histogram).count ∧
      (∀ value, ∃! index, (values.foldl insert histogram).Raises value index) ∧
      ∀ (others : List Float) (first second : Float) (lower upper : Nat),
        first.isNaN = false → second.isNaN = false → first ≤ second →
          (values.foldl insert histogram).Raises first lower →
          (others.foldl insert histogram).Raises second upper → lower ≤ upper := by
  intro histogram
  obtain ⟨complete, inserted⟩ := complete_foldl_insert accepted words values
  refine ⟨inserted, complete.count_eq, complete.sum_eq.trans complete.count_eq.symm,
    fun value => ?_, fun others first second lower upper number also ordered raised next => ?_⟩
  · refine ⟨binning.binOf value, (complete.raises_iff value).mpr rfl, fun index raised => ?_⟩
    exact ((complete.raises_iff value).mp raised).symm
  · obtain ⟨others_complete, -⟩ := complete_foldl_insert accepted words others
    obtain ⟨near, placed⟩ := exists_place number
    obtain ⟨far, other⟩ := exists_place also
    obtain ⟨bounded, finite, -⟩ := Binning.fits_of_check accepted
    obtain ⟨least, place_least, -⟩ := exists_place_of_isFinite bounded
    obtain ⟨greatest, place_greatest, -⟩ := exists_place_of_isFinite finite
    rw [← (complete.raises_iff first).mp raised, ← (others_complete.raises_iff second).mp next]
    exact Binning.binOf_le_binOf accepted place_least place_greatest words placed other
      ((le_iff placed other).mp ordered)

/-- Four samples, among them an infinite one and one that is no number. A sample of 30 then raises
no later bin than one of 80. -/
theorem counts_of_four_samples :
    let histogram := empty ⟨"t.", 0, 100, 25⟩
    let values : List Float := [30, 1 / 0, 0 / 0, 80]
    Binning.check ⟨"t.", 0, 100, 25⟩ = .ok () ∧ Binning.bins ⟨"t.", 0, 100, 25⟩ < 2 ^ 64 ∧
      ((values.foldl insert histogram).bins.map (·.count)).sum = 4 ∧
      (∃! index, (values.foldl insert histogram).Raises (0 / 0) index) ∧
      ∀ lower upper, (values.foldl insert histogram).Raises 30 lower →
        histogram.Raises 80 upper → lower ≤ upper := by
  intro histogram values
  have accepted : Binning.check ⟨"t.", 0, 100, 25⟩ = .ok () := rfl
  have words : Binning.bins ⟨"t.", 0, 100, 25⟩ < 2 ^ 64 := by decide
  have ordered : (30 : Float) ≤ 80 := by decide
  obtain ⟨-, count, total, raised, rising⟩ := counts_of_run accepted words values
  exact ⟨accepted, words, total.trans count, raised _, fun lower upper =>
    rising [] 30 80 lower upper rfl rfl ordered⟩

end Histogram

end Telemetry
