/-
# Bins without gaps

The bins of an accepted binning begin below every number and end above every number, and each
one begins where the one before ends. A sample is counted in the first bin just when it is below
the range, in the last one just when it is beyond it or no number, and else in a regular bin.

All this rests on a regular bin being there, and the check grants that only for a width that is
finite. An infinite width passes for a range so wide that its length is infinite, too. The
quotient of the two is no number, so that only the outer bins remain.
-/

import Telemetry.Proofs.Binary64.Overflow
import Telemetry.Proofs.Histogram.Edges

namespace Telemetry

open Doubles

namespace Bound

variable {first second : Float} {place : Rat}

theorem same_at (placed : place? first = some place) (other : place? second = some place) :
    (Bound.at first).same (.at second) = true := by
  rw [same, compare?_at placed other, compare_eq_iff_eq.mpr rfl]
  rfl

end Bound

namespace Binning

variable {binning : Binning} {value : Float} {least greatest width place : Rat} {bin : Nat}

/-- The length of an accepted range, finite or not, is no less than the width. -/
theorem width_le_range (checked : binning.check = .ok ()) :
    ∃ range width, place? (binning.greatest - binning.least) = some range ∧
      place? binning.width = some width ∧ 0 < width ∧ width ≤ range := by
  obtain ⟨bounded, also, -, positive, fits⟩ := fits_of_check checked
  obtain ⟨least, place_least, finite_least⟩ := exists_place_of_isFinite bounded
  obtain ⟨greatest, place_greatest, finite_greatest⟩ := exists_place_of_isFinite also
  obtain ⟨width, place_width⟩ := exists_place_of_lt positive
  obtain ⟨range, place_range, -⟩ :=
    nearest_sub place_greatest place_least finite_greatest finite_least
  have zero : place? 0 = some 0 := rfl
  rw [lt_iff zero place_width] at positive
  rw [lt_iff place_range place_width, not_lt] at fits
  exact ⟨range, width, place_range, place_width, positive, fits⟩

/-- The range is finite where the width is, as there are too many bins else. -/
theorem isFinite_range (checked : binning.check = .ok ())
    (finite : binning.width.isFinite = true) (words : binning.bins < 2 ^ 64) :
    (binning.greatest - binning.least).isFinite = true := by
  obtain ⟨range, width, place_range, place_width, positive, fits⟩ := width_le_range checked
  by_contra infinite
  have endless := place_eq_limit place_range (positive.le.trans fits) infinite
  have inside := (abs_place place_width).2.mp finite
  rw [endless] at place_range
  have most := toUInt64_limit_div place_range place_width positive (lt_of_abs_lt inside)
  rw [bins, widthsTo, most] at words
  omega

/-- Without a finite width there is no regular bin. -/
theorem bins_eq_two (checked : binning.check = .ok ())
    (infinite : ¬ binning.width.isFinite = true) : binning.bins = 2 := by
  obtain ⟨range, width, place_range, place_width, positive, fits⟩ := width_le_range checked
  have endless := place_eq_limit place_width positive.le infinite
  have within := (le_abs_self range).trans (abs_place place_range).1
  have equal : range = limit := within.antisymm (endless ▸ fits)
  rw [equal] at place_range
  rw [endless] at place_width
  rw [bins, widthsTo, toUInt64_limit_div_limit place_range place_width]

section Samples

variable (regular : 3 ≤ binning.bins)

include regular

theorem binOf_eq_zero_iff : binning.binOf value = 0 ↔ value < binning.least := by
  rw [binOf]
  split
  case isTrue below => exact iff_of_true rfl below
  case isFalse above => split <;> exact iff_of_false (by omega) above

theorem binOf_eq_last_iff :
    binning.binOf value = binning.bins - 1 ↔
      ¬ value < binning.least ∧ ¬ value < binning.greatest := by
  rw [binOf]
  split
  case isTrue below => exact iff_of_false (by omega) fun outside => outside.1 below
  case isFalse above =>
    by_cases inside : value < binning.greatest
    · simp only [inside, decide_true, Bool.not_true, Bool.false_eq_true, if_false]
      exact iff_of_false (by omega) fun outside => outside.2 trivial
    · simp [inside, above]

end Samples

namespace Measured

/-- Beyond the range is what is not below the one end or the other. -/
theorem beyond_iff (measured : Measured binning least greatest width) :
    ¬ value < binning.least ∧ ¬ value < binning.greatest ↔
      value.isNaN = true ∨ binning.greatest ≤ value := by
  cases defined : value.isNaN with
  | true =>
    exact iff_of_true ⟨not_lt_of_isNaN (.inl defined), not_lt_of_isNaN (.inl defined)⟩ (.inl rfl)
  | false =>
    obtain ⟨place, placed⟩ := exists_place defined
    have ascending := measured.ascending
    rw [lt_iff placed measured.place_least, lt_iff placed measured.place_greatest,
      le_iff measured.place_greatest placed, not_lt, not_lt]
    constructor
    · exact fun outside => .inr outside.2
    · rintro (undefined | beyond)
      · cases undefined
      · exact ⟨ascending.le.trans beyond, beyond⟩

/-- Where an edge is computed it is at a number, if perhaps an infinite one. -/
theorem exists_place_lowerEdge (measured : Measured binning least greatest width)
    (word : bin < 2 ^ 64) : ∃ edge, place? (binning.lowerEdge bin) = some edge := by
  obtain ⟨count, counted, finite⟩ := exists_place_ofNat (by omega : bin - 1 < 2 ^ 64)
  obtain ⟨product, among, -⟩ :=
    nearest_mul counted measured.place_width finite measured.finite_width
  exact exists_place_add measured.place_least measured.finite_least among

/-- Every bin ends where the next one begins. -/
theorem same_edges (measured : Measured binning least greatest width)
    (words : binning.bins < 2 ^ 64) (inner : bin + 1 < binning.bins) :
    (binning.edges bin).2.same (binning.edges (bin + 1)).1 = true := by
  have regular := measured.three_le_bins
  rcases Nat.eq_zero_or_pos bin with rfl | first
  · -- The first regular bin begins at a sum, which is the least number again.
    have begins := measured.place_lowerEdge measured.sharp_zero
    rw [Nat.cast_zero, zero_mul, add_zero] at begins
    show (Bound.at binning.least).same (binning.edges 1).1 = true
    rw [edges_regular (by omega) (by omega)]
    exact Bound.same_at measured.place_least begins
  · rw [edges_regular first (by omega)]
    split
    case isTrue close =>
      have last : bin + 1 = binning.bins - 1 := by omega
      rw [last, edges_last regular]
      exact Bound.same_at measured.place_greatest measured.place_greatest
    case isFalse apart =>
      obtain ⟨edge, placed⟩ := measured.exists_place_lowerEdge (by omega : bin + 1 < 2 ^ 64)
      rw [edges_regular (by omega) (by omega)]
      exact Bound.same_at placed placed

end Measured

end Binning

namespace Histogram

variable {histogram : Histogram} {binning : Binning} {value : Float} {index : Nat}

/-- A sample raises the bin at an index and no other. -/
def Raises (histogram : Histogram) (value : Float) (index : Nat) : Prop :=
  index < histogram.bins.length ∧
    (histogram.insert value).bins = histogram.bins.modify index Bin.raise

/-- The bins of a histogram divide all numbers, with regular ones for the range. -/
structure Covers (histogram : Histogram) (binning : Binning) : Prop where
  /-- There is a regular bin. -/
  regular : 3 ≤ binning.bins
  complete : histogram.bins.length = binning.bins
  begins : histogram.bins.head?.map (·.lower) = some .below
  ends : histogram.bins.getLast?.map (·.upper) = some .above
  /-- No bin begins elsewhere than the one before it ends. -/
  gapless : histogram.bins.IsChain fun first second => first.upper.same second.lower = true
  under value : histogram.Raises value 0 ↔ value < binning.least
  beyond value : histogram.Raises value (binning.bins - 1) ↔
    value.isNaN = true ∨ binning.greatest ≤ value
  within value : ¬ value < binning.least → ¬ (value.isNaN = true ∨ binning.greatest ≤ value) →
    ∃ index, 1 ≤ index ∧ index ≤ binning.bins - 2 ∧ histogram.Raises value index

theorem length_bins (histogram : Histogram) : histogram.bins.length = histogram.counts.size := by
  simp [bins]

theorem getElem_bins (histogram : Histogram) (inside : index < histogram.bins.length) :
    ∃ count, histogram.bins[index] = histogram.binning.bin index count := by
  have reported := getElem?_bins histogram index
  rw [List.getElem?_eq_getElem inside] at reported
  obtain ⟨count, -, same⟩ := Option.map_eq_some_iff.mp reported.symm
  exact ⟨count, same.symm⟩

theorem raises_iff (complete : histogram.bins.length = histogram.binning.bins) :
    histogram.Raises value index ↔ histogram.binning.binOf value = index := by
  constructor
  · rintro ⟨inside, raised⟩
    by_contra apart
    rw [bins_insert] at raised
    have counted := congrArg (·[index]?) raised
    simp only [List.getElem?_modify, apart, if_false, if_true, List.getElem?_eq_getElem inside,
      Option.map_eq_map, Option.map_some, Option.some.injEq] at counted
    have more : histogram.bins[index].count = histogram.bins[index].count + 1 :=
      congrArg Bin.count counted
    omega
  · rintro rfl
    exact ⟨complete ▸ Binning.binOf_lt_bins _ value, bins_insert histogram value⟩

theorem covers_of_measured {least greatest width : Rat}
    (measured : histogram.binning.Measured least greatest width)
    (complete : histogram.bins.length = histogram.binning.bins)
    (words : histogram.binning.bins < 2 ^ 64) : histogram.Covers histogram.binning := by
  have regular := measured.three_le_bins
  have last : histogram.bins.length - 1 < histogram.bins.length := by omega
  obtain ⟨lowest, first⟩ := getElem_bins histogram (by omega : 0 < histogram.bins.length)
  obtain ⟨highest, final⟩ := getElem_bins histogram last
  refine ⟨regular, complete, ?_, ?_, ?_, fun value => ?_, fun value => ?_,
    fun value above inside => ?_⟩
  · rw [List.head?_eq_getElem?, List.getElem?_eq_getElem (by omega), first]
    rfl
  · rw [List.getLast?_eq_getElem?, List.getElem?_eq_getElem last, final, complete, Option.map_some,
      Binning.bin, Binning.edges_last regular]
  · refine List.isChain_iff_getElem.mpr fun index inside => ?_
    obtain ⟨_, one⟩ := getElem_bins histogram (by omega : index < histogram.bins.length)
    obtain ⟨_, next⟩ := getElem_bins histogram inside
    rw [one, next]
    exact measured.same_edges words (complete ▸ inside)
  · rw [raises_iff complete, Binning.binOf_eq_zero_iff regular]
  · rw [raises_iff complete, Binning.binOf_eq_last_iff regular, measured.beyond_iff]
  · rw [← measured.beyond_iff, ← Binning.binOf_eq_last_iff regular] at inside
    rw [← Binning.binOf_eq_zero_iff regular] at above
    have bounded := histogram.binning.binOf_lt_bins value
    exact ⟨histogram.binning.binOf value, by omega, by omega,
      (raises_iff complete).mpr rfl⟩

/-- Whatever has been counted, the bins cover the range just when their width is finite. -/
theorem covers_iff_of_run (accepted : binning.check = .ok ()) (words : binning.bins < 2 ^ 64)
    (earlier : List Float) :
    (earlier.foldl insert (empty binning)).Covers binning ↔ binning.width.isFinite = true := by
  constructor
  · intro covers
    by_contra infinite
    have regular := covers.regular
    rw [Binning.bins_eq_two accepted infinite] at regular
    omega
  · intro finite
    have spanned := Binning.isFinite_range accepted finite words
    obtain ⟨least, greatest, width, measured⟩ := Binning.exists_measured accepted finite spanned
    obtain ⟨kept, size⟩ := binning_foldl_insert earlier (empty binning)
    have kept : (earlier.foldl insert (empty binning)).binning = binning := by rw [kept]; rfl
    have complete : (earlier.foldl insert (empty binning)).bins.length = binning.bins := by
      rw [length_bins, size]
      exact Array.size_replicate
    generalize earlier.foldl insert (empty binning) = reached at kept complete ⊢
    rw [← kept] at measured complete words ⊢
    exact covers_of_measured measured complete words

/-- Bins of a width of 25 cover the range up to 100, after samples on all sides of it. -/
theorem covers_of_three_samples :
    ([-1, 30, 1 / 0].foldl insert (empty ⟨"t.", 0, 100, 25⟩)).Covers ⟨"t.", 0, 100, 25⟩ := by
  have accepted : Binning.check ⟨"t.", 0, 100, 25⟩ = .ok () := rfl
  exact (covers_iff_of_run accepted (by decide) [-1, 30, 1 / 0]).mpr rfl

/-- The range of all finite doubles, which is too wide for its length, in bins of infinite width. -/
def widest : Binning :=
  ⟨"t.", .ofBits 0xffefffffffffffff, .ofBits 0x7fefffffffffffff, 1 / 0⟩

/-- Such bins are accepted, although there is none for the range, and a sample from within the
range is counted below it. -/
theorem raises_first_within :
    create widest = .ok (empty widest) ∧ widest.bins = 2 ∧
      (empty widest).bins.map (fun bin => (bin.lower, bin.upper)) =
        [(.below, .at widest.least), (.at widest.greatest, .above)] ∧
      widest.least < 0 ∧ 0 < widest.greatest ∧ (empty widest).Raises 0 0 :=
  ⟨rfl, rfl, rfl, rfl, rfl, by decide, rfl⟩

end Histogram

end Telemetry
