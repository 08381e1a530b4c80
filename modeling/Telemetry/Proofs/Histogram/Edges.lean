/-
# Samples and the edges of their bins

A sample finds its bin by a subtraction and a division, and the edges of a bin follow by a
multiplication and an addition, so that the two may be rounded apart. They are not at an edge
that takes no rounding: no sample from there on is counted below it, and a sample short of it
is counted above only when its own distance from the least number is rounded. With edges
that are rounded, a sample may lie outside of its own bin.
-/

import Telemetry.Histogram.Basic
import Telemetry.Proofs.Answers
import Telemetry.Proofs.Binary64.Quotient

namespace Telemetry

open Doubles

namespace Bound

/-- The edge is at a number or below it. -/
def AtMost (edge : Bound) (number : Float) : Prop :=
  (edge.compare? (.at number)).any (·.isLE) = true

/-- The edge is above a number. -/
def Exceeds (edge : Bound) (number : Float) : Prop :=
  (Bound.at number).compare? edge = some .lt

variable {first second : Float} {near far : Rat}

theorem compare?_at (placed : place? first = some near) (other : place? second = some far) :
    (Bound.at first).compare? (.at second) = some (compare near far) := by
  rw [compare?, compareNumbers]
  simp only [lt_iff placed other, lt_iff other placed, beq_iff placed other]
  rcases lt_trichotomy near far with less | rfl | more
  · rw [if_pos less, compare_lt_iff_lt.mpr less]
  · rw [if_neg (lt_irrefl near), if_neg (lt_irrefl near), if_pos rfl, compare_eq_iff_eq.mpr rfl]
  · rw [if_neg more.not_gt, if_pos more, compare_gt_iff_gt.mpr more]

theorem atMost_at_iff (placed : place? first = some near) (other : place? second = some far) :
    (Bound.at first).AtMost second ↔ near ≤ far := by
  rw [AtMost, compare?_at placed other, Option.any_some, ← not_lt, ← compare_gt_iff_gt]
  cases compare near far <;> simp

theorem exceeds_at_iff (placed : place? first = some near) (other : place? second = some far) :
    (Bound.at first).Exceeds second ↔ far < near := by
  rw [Exceeds, compare?_at other placed, Option.some.injEq, compare_lt_iff_lt]

end Bound

namespace Binning

variable {binning : Binning} {value : Float} {least greatest width place apart : Rat} {count : Nat}

/-- What an accepted binning consists of, with a finite width and a finite range. -/
structure Measured (binning : Binning) (least greatest width : Rat) : Prop where
  place_least : place? binning.least = some least
  place_greatest : place? binning.greatest = some greatest
  place_width : place? binning.width = some width
  finite_least : |least| < limit
  finite_greatest : |greatest| < limit
  finite_width : |width| < limit
  ascending : least < greatest
  positive : 0 < width
  fits : ∃ range, place? (binning.greatest - binning.least) = some range ∧ |range| < limit ∧
    width ≤ range

theorem fits_of_check (checked : binning.check = .ok ()) :
    binning.least.isFinite = true ∧ binning.greatest.isFinite = true ∧
      ¬ binning.greatest ≤ binning.least ∧ 0 < binning.width ∧
      ¬ binning.greatest - binning.least < binning.width := by
  rw [check] at checked
  split at checked
  case isTrue => cases checked
  case isFalse finite =>
    split at checked
    case isTrue => cases checked
    case isFalse ascending =>
      split at checked
      case isTrue => cases checked
      case isFalse fits =>
        simp only [Bool.not_eq_true, Bool.not_eq_false', Bool.and_eq_true] at finite
        simp only [Bool.or_eq_true, Bool.not_eq_true', decide_eq_true_eq, decide_eq_false_iff_not,
          not_or, not_not] at fits
        exact ⟨finite.1, finite.2, ascending, fits⟩

theorem exists_measured (checked : binning.check = .ok ())
    (finite : binning.width.isFinite = true)
    (spanned : (binning.greatest - binning.least).isFinite = true) :
    ∃ least greatest width, Measured binning least greatest width := by
  obtain ⟨bounded, also, ascending, positive, fits⟩ := fits_of_check checked
  obtain ⟨least, place_least, finite_least⟩ := exists_place_of_isFinite bounded
  obtain ⟨greatest, place_greatest, finite_greatest⟩ := exists_place_of_isFinite also
  obtain ⟨width, place_width, finite_width⟩ := exists_place_of_isFinite finite
  obtain ⟨range, place_range, finite_range⟩ := exists_place_of_isFinite spanned
  have zero : place? 0 = some 0 := rfl
  rw [le_iff place_greatest place_least, not_le] at ascending
  rw [lt_iff zero place_width] at positive
  rw [lt_iff place_range place_width, not_lt] at fits
  exact ⟨least, greatest, width, place_least, place_greatest, place_width, finite_least,
    finite_greatest, finite_width, ascending, positive, range, place_range, finite_range, fits⟩

/-- An edge that takes no rounding: so many widths are a double, and so is the place that lies
so far from the least number. -/
def Sharp (binning : Binning) (count : Nat) : Prop :=
  count < 2 ^ 53 ∧ ∃ least width, place? binning.least = some least ∧
    place? binning.width = some width ∧ IsDouble (count * width) ∧ IsDouble (least + count * width)

/-- A sample whose distance from the least number takes no rounding. -/
def Aligned (binning : Binning) (value : Float) : Prop :=
  ∃ least place, place? binning.least = some least ∧ place? value = some place ∧
    IsDouble (place - least)

namespace Measured

theorem sharp_iff (measured : Measured binning least greatest width) :
    binning.Sharp count ↔
      count < 2 ^ 53 ∧ IsDouble (count * width) ∧ IsDouble (least + count * width) := by
  simp [Sharp, measured.place_least, measured.place_width]

theorem aligned_iff (measured : Measured binning least greatest width)
    (placed : place? value = some place) : binning.Aligned value ↔ IsDouble (place - least) := by
  simp [Aligned, measured.place_least, placed]

/-- The first regular bin begins at the least number, which is a double. -/
theorem sharp_zero (measured : Measured binning least greatest width) : binning.Sharp 0 := by
  rw [measured.sharp_iff, Nat.cast_zero, zero_mul, add_zero]
  refine ⟨by norm_num, ?_, binning.least, measured.place_least, measured.finite_least⟩
  exact_mod_cast isDouble_natCast (by norm_num : 0 < 2 ^ 53)

/-- A sharp edge is where it should be. -/
theorem place_lowerEdge (measured : Measured binning least greatest width)
    (sharp : binning.Sharp count) :
    place? (binning.lowerEdge (count + 1)) = some (least + count * width) := by
  obtain ⟨short, ⟨product, among, small⟩, ⟨edge, reached, -⟩⟩ := measured.sharp_iff.mp sharp
  obtain ⟨_, -, bounded⟩ := isDouble_natCast short
  have scaled := nearest_mul (place_ofNat short) measured.place_width bounded measured.finite_width
  have moved := nearest_add measured.place_least (scaled.place?_eq among) measured.finite_least
    small
  exact moved.place?_eq reached

/-- The distance from the least number is divided, with one rounding, and cut down. -/
theorem exists_ratio (measured : Measured binning least greatest width)
    (placed : place? (value - binning.least) = some apart) (finite : |apart| < limit) :
    ∃ quotient ratio, place? quotient = some ratio ∧ Nearest (apart / width) quotient ∧
      binning.widthsTo value = min ⌊ratio⌋₊ (2 ^ 64 - 1) := by
  have nearest := nearest_div placed measured.place_width finite measured.finite_width
    measured.positive.ne'
  obtain ⟨ratio, among, -⟩ := id nearest
  exact ⟨_, ratio, among, nearest, toNat_toUInt64 among⟩

/-- There is a regular bin. -/
theorem three_le_bins (measured : Measured binning least greatest width) : 3 ≤ binning.bins := by
  obtain ⟨range, placed, finite, fits⟩ := measured.fits
  obtain ⟨quotient, ratio, among, nearest, counted⟩ := measured.exists_ratio placed finite
  have reached : ((1 : Nat) : Rat) ≤ ratio := by
    refine nearest.le_place among (place_ofNat (by norm_num)) ?_
    rwa [Nat.cast_one, one_le_div measured.positive]
  have whole : 1 ≤ ⌊ratio⌋₊ := Nat.le_floor reached
  rw [bins]
  omega

/-- The distance of a sample within the range is finite, as the range is. -/
theorem exists_apart (measured : Measured binning least greatest width)
    (placed : place? value = some place) (above : least ≤ place) (below : place < greatest) :
    ∃ apart, place? (value - binning.least) = some apart ∧ |apart| < limit ∧
      Nearest (place - least) (value - binning.least) := by
  obtain ⟨range, spanned, finite, -⟩ := measured.fits
  have inside : |place| < limit := by
    have low := abs_lt.mp measured.finite_least
    have high := abs_lt.mp measured.finite_greatest
    exact abs_lt.mpr ⟨by linarith, by linarith⟩
  have nearest := nearest_sub placed measured.place_least inside measured.finite_least
  have widest := nearest_sub measured.place_greatest measured.place_least measured.finite_greatest
    measured.finite_least
  obtain ⟨apart, among, -⟩ := id nearest
  have most := nearest.place_le_place widest among spanned (by linarith)
  have zero : place? 0 = some 0 := rfl
  have nonneg := nearest.le_place among zero (by linarith)
  exact ⟨apart, among, abs_lt.mpr ⟨by linarith [limit_pos], most.trans_lt (abs_lt.mp finite).2⟩,
    nearest⟩

/-- No sample from a sharp edge on is counted below it. -/
theorem le_widthsTo (measured : Measured binning least greatest width)
    (sharp : binning.Sharp count) (placed : place? value = some place) (above : least ≤ place)
    (below : place < greatest) (reached : least + count * width ≤ place) :
    count ≤ binning.widthsTo value := by
  obtain ⟨short, ⟨product, among, -⟩, -⟩ := measured.sharp_iff.mp sharp
  obtain ⟨apart, away, finite, rounded⟩ := measured.exists_apart placed above below
  obtain ⟨quotient, ratio, cut, nearest, counted⟩ := measured.exists_ratio away finite
  have far : count * width ≤ apart := rounded.le_place away among (by linarith)
  have whole : (count : Rat) ≤ ratio :=
    nearest.le_place cut (place_ofNat short) ((le_div_iff₀ measured.positive).mpr far)
  have floor : count ≤ ⌊ratio⌋₊ := Nat.le_floor whole
  omega

/-- No sample short of a sharp edge is counted above it, unless its distance is rounded. -/
theorem widthsTo_lt (measured : Measured binning least greatest width)
    (sharp : binning.Sharp count) (aligned : binning.Aligned value)
    (placed : place? value = some place) (above : least ≤ place) (below : place < greatest)
    (short : place < least + count * width) : binning.widthsTo value < count := by
  obtain ⟨bounded, ⟨product, among, -⟩, -⟩ := measured.sharp_iff.mp sharp
  obtain ⟨_, exact, -⟩ := (measured.aligned_iff placed).mp aligned
  obtain ⟨apart, away, finite, rounded⟩ := measured.exists_apart placed above below
  obtain ⟨quotient, ratio, cut, nearest, counted⟩ := measured.exists_ratio away finite
  cases away.symm.trans (rounded.place?_eq exact)
  have counts : 0 < count := by
    rcases Nat.eq_zero_or_pos count with rfl | counts
    · rw [Nat.cast_zero, zero_mul, add_zero] at short
      exact absurd above (not_le.mpr short)
    · exact counts
  have within := place_lt_of_div_lt away among measured.positive counts bounded (by linarith)
    nearest cut
  have floor : ⌊ratio⌋₊ < count := (Nat.floor_lt' counts.ne').mpr within
  omega

/-- On a grid of a power of two, an edge is sharp as long as its mantissa is short enough. -/
theorem sharp_of_grid (measured : Measured binning least greatest width) {start : Int}
    {steps : Nat} {step : Int} (begins : least = start * 2 ^ step) (wide : width = steps * 2 ^ step)
    (fine : -1074 ≤ step) (room : step ≤ 971) (short : count < 2 ^ 53)
    (product : count * steps < 2 ^ 53) (edge : (start + (count * steps : Nat)).natAbs < 2 ^ 53) :
    binning.Sharp count := by
  have far : (count : Rat) * width = (count * steps : Nat) * 2 ^ step := by
    rw [wide]
    push_cast
    ring
  refine measured.sharp_iff.mpr ⟨short, ?_, ?_⟩
  · rw [far]
    exact isDouble_of_mantissa .positive product fine room
  · rw [begins, far, ← add_mul]
    exact_mod_cast isDouble_of_whole edge fine room

end Measured

/-- The bin of a sample below, beyond, and within the range. -/
theorem binOf_cases (place_least : place? binning.least = some least)
    (place_greatest : place? binning.greatest = some greatest)
    (placed : place? value = some place) :
    place < least ∧ binning.binOf value = 0 ∨
      greatest ≤ place ∧ binning.binOf value = binning.bins - 1 ∨
      least ≤ place ∧ place < greatest ∧
        binning.binOf value = min (binning.widthsTo value + 1) (binning.bins - 2) := by
  rw [binOf]
  simp only [lt_iff placed place_least, lt_iff placed place_greatest]
  rcases lt_or_ge place least with below | above
  · exact .inl ⟨below, if_pos below⟩
  · rw [if_neg above.not_gt]
    rcases lt_or_ge place greatest with inside | beyond
    · exact .inr (.inr ⟨above, inside, by simp [inside]; omega⟩)
    · exact .inr (.inl ⟨beyond, by simp [beyond.not_gt]⟩)

theorem two_le_bins (binning : Binning) : 2 ≤ binning.bins :=
  Nat.le_add_left 2 _

theorem binOf_lt_bins (binning : Binning) (value : Float) : binning.binOf value < binning.bins := by
  have outer := binning.two_le_bins
  rw [binOf]
  split
  · omega
  · split <;> omega

theorem edges_last (regular : 3 ≤ binning.bins) :
    binning.edges (binning.bins - 1) = (.at binning.greatest, .above) := by
  rw [edges, if_neg (by omega), if_pos rfl]

theorem edges_regular {bin : Nat} (first : 0 < bin) (last : bin + 2 ≤ binning.bins) :
    binning.edges bin = (.at (binning.lowerEdge bin),
      .at (if bin + 2 = binning.bins then binning.greatest else binning.lowerEdge (bin + 1))) := by
  have close : bin = binning.bins - 1 - 1 ↔ bin + 2 = binning.bins := by omega
  rw [edges, if_neg (by omega), if_neg (by omega)]
  simp only [close]

namespace Measured

/-- A sample is below the upper edge of its bin where that edge is sharp. -/
theorem exceeds_upper (measured : Measured binning least greatest width)
    (placed : place? value = some place)
    (exact : place < least ∨ greatest ≤ place ∨ binning.binOf value + 2 = binning.bins ∨
      binning.Sharp (binning.binOf value)) :
    (binning.edges (binning.binOf value)).2.Exceeds value := by
  have regular := measured.three_le_bins
  rcases binOf_cases measured.place_least measured.place_greatest placed with ⟨below, bin⟩ | ⟨-, bin⟩ | ⟨above, below, bin⟩
  · rw [bin]
    exact (Bound.exceeds_at_iff measured.place_least placed).mpr below
  · rw [bin, edges_last regular]
    rfl
  · rw [edges_regular (by omega) (by omega)]
    split
    case isTrue => exact (Bound.exceeds_at_iff measured.place_greatest placed).mpr below
    case isFalse inner =>
      have sharp : binning.Sharp (binning.binOf value) := by
        rcases exact with outside | outside | last | sharp
        · exact absurd above outside.not_ge
        · exact absurd below outside.not_gt
        · exact absurd last inner
        · exact sharp
      refine (Bound.exceeds_at_iff (measured.place_lowerEdge sharp) placed).mpr ?_
      by_contra reached
      have counted := measured.le_widthsTo sharp placed above below (not_lt.mp reached)
      omega

/-- A sample is at or above the lower edge of its bin where that edge is sharp, and where its own
distance from the least number is not rounded. -/
theorem atMost_lower (measured : Measured binning least greatest width)
    (placed : place? value = some place)
    (exact : place < least ∨ greatest ≤ place ∨ binning.binOf value = 1 ∨
      binning.Sharp (binning.binOf value - 1) ∧ binning.Aligned value) :
    (binning.edges (binning.binOf value)).1.AtMost value := by
  have regular := measured.three_le_bins
  rcases binOf_cases measured.place_least measured.place_greatest placed with ⟨-, bin⟩ | ⟨beyond, bin⟩ | ⟨above, below, bin⟩
  · rw [bin]
    rfl
  · rw [bin, edges_last regular]
    exact (Bound.atMost_at_iff measured.place_greatest placed).mpr beyond
  · rw [edges_regular (by omega) (by omega)]
    rcases exact with outside | outside | first | ⟨sharp, aligned⟩
    · exact absurd above outside.not_ge
    · exact absurd below outside.not_gt
    · rw [first]
      refine (Bound.atMost_at_iff (measured.place_lowerEdge measured.sharp_zero) placed).mpr ?_
      rwa [Nat.cast_zero, zero_mul, add_zero]
    · have edge := measured.place_lowerEdge sharp
      rw [Nat.sub_add_cancel (by omega)] at edge
      refine (Bound.atMost_at_iff edge placed).mpr ?_
      by_contra short
      have counted := measured.widthsTo_lt sharp aligned placed above below (not_le.mp short)
      omega

end Measured

end Binning

/-- A bin of a binning, with its samples. -/
def Binning.bin (binning : Binning) (index count : Nat) : Bin :=
  ⟨index, (binning.edges index).1, (binning.edges index).2, count⟩

/-- A bin with one more sample. -/
def Bin.raise (bin : Bin) : Bin :=
  { bin with count := bin.count + 1 }

namespace Histogram

variable {histogram : Histogram} {binning : Binning} {value : Float} {bin : Bin}

/-- The one bin that a sample raises, and the side on which the sample lies of each edge of
this bin. -/
structure Lands (histogram : Histogram) (value : Float) (bin : Bin) : Prop where
  reported : histogram.bins[bin.index]? = some bin
  raised : (histogram.insert value).bins = histogram.bins.modify bin.index Bin.raise
  /-- The last regular bin ends at the greatest number, whatever its width is. -/
  exceeds : value < histogram.binning.least ∨ histogram.binning.greatest ≤ value ∨
    bin.index + 2 = histogram.binning.bins ∨ histogram.binning.Sharp bin.index →
      bin.upper.Exceeds value
  /-- The first regular bin begins at the least number. -/
  atMost : value < histogram.binning.least ∨ histogram.binning.greatest ≤ value ∨
    bin.index = 1 ∨ histogram.binning.Sharp (bin.index - 1) ∧ histogram.binning.Aligned value →
      bin.lower.AtMost value

theorem getElem?_bins (histogram : Histogram) (index : Nat) :
    histogram.bins[index]? = histogram.counts[index]?.map (histogram.binning.bin index) := by
  rw [bins, List.getElem?_map, List.getElem?_zipIdx, Array.getElem?_toList, Option.map_map,
    Nat.zero_add]
  rfl

/-- A sample raises its bin and no other. -/
theorem bins_insert (histogram : Histogram) (value : Float) :
    (histogram.insert value).bins =
      histogram.bins.modify (histogram.binning.binOf value) Bin.raise := by
  apply List.ext_getElem?
  intro index
  rw [List.getElem?_modify, getElem?_bins, getElem?_bins, insert, Array.getElem?_modify]
  by_cases raised : histogram.binning.binOf value = index
  · simp only [raised, if_true, Option.map_eq_map, Option.map_map]
    rfl
  · simp only [raised, if_false, Option.map_eq_map, Option.map_id']

theorem binning_foldl_insert (values : List Float) (histogram : Histogram) :
    (values.foldl insert histogram).binning = histogram.binning ∧
      (values.foldl insert histogram).counts.size = histogram.counts.size := by
  induction values generalizing histogram with
  | nil => exact ⟨rfl, rfl⟩
  | cons value later recursion =>
    obtain ⟨same, size⟩ := recursion (histogram.insert value)
    exact ⟨same, size.trans (Array.size_modify ..)⟩

theorem exists_lands {least greatest width : Rat}
    (measured : histogram.binning.Measured least greatest width)
    (complete : histogram.counts.size = histogram.binning.bins) (isNumber : value.isNaN = false) :
    ∃ bin, Lands histogram value bin := by
  obtain ⟨place, placed⟩ := exists_place isNumber
  obtain ⟨index, same⟩ : ∃ index, histogram.binning.binOf value = index := ⟨_, rfl⟩
  have within : index < histogram.counts.size := same ▸ complete ▸ Binning.binOf_lt_bins _ value
  have reported := getElem?_bins histogram index
  rw [Array.getElem?_eq_getElem within, Option.map_some] at reported
  refine ⟨histogram.binning.bin index histogram.counts[index], reported,
    same ▸ bins_insert histogram value, fun exact => ?_, fun exact => ?_⟩ <;>
    rw [lt_iff placed measured.place_least, le_iff measured.place_greatest placed] at exact <;>
    subst same
  · exact measured.exceeds_upper placed exact
  · exact measured.atMost_lower placed exact

/-- Whatever was counted before, a sample raises one bin, and it is on the right side of those
edges of the bin that take no rounding. -/
theorem lands_of_run (accepted : binning.check = .ok ())
    (finite : binning.width.isFinite = true)
    (spanned : (binning.greatest - binning.least).isFinite = true) (earlier : List Float)
    (isNumber : value.isNaN = false) :
    ∃ bin, Lands (earlier.foldl insert (empty binning)) value bin := by
  obtain ⟨least, greatest, width, measured⟩ := Binning.exists_measured accepted finite spanned
  obtain ⟨same, size⟩ := binning_foldl_insert earlier (empty binning)
  refine exists_lands (by rw [same]; exact measured) ?_ isNumber
  rw [size, same]
  exact Array.size_replicate

/-- Whole numbers need no rounding, so that 30 lies between the edges of its bin. -/
theorem lands_of_run_whole : ∃ bin, Lands (empty ⟨"t.", 0, 100, 25⟩) 30 bin ∧
    bin.lower.AtMost 30 ∧ bin.upper.Exceeds 30 := by
  have isNumber : Float.isNaN 30 = false := rfl
  have checked : Binning.check ⟨"t.", 0, 100, 25⟩ = .ok () := rfl
  obtain ⟨bin, lands⟩ := lands_of_run checked rfl rfl [] isNumber
  obtain ⟨least, greatest, width, measured⟩ := Binning.exists_measured checked rfl rfl
  have begins : place? 0 = some 0 := rfl
  have wide : place? 25 = some ((25 : Nat) : Rat) := place_ofNat (by norm_num)
  have placed : place? 30 = some ((30 : Nat) : Rat) := place_ofNat (by norm_num)
  cases measured.place_least.symm.trans begins
  cases measured.place_width.symm.trans wide
  have few : bin.index < 6 := (List.getElem?_eq_some_iff.mp lands.reported).1
  have sharp : ∀ count < 6, Binning.Sharp ⟨"t.", 0, 100, 25⟩ count := fun count few =>
    measured.sharp_of_grid (by norm_num : (0 : Rat) = (0 : Int) * 2 ^ (0 : Int))
      (by rw [zpow_zero, mul_one]) (by norm_num) (by norm_num) (by omega) (by omega) (by omega)
  have aligned : Binning.Aligned ⟨"t.", 0, 100, 25⟩ 30 := by
    rw [measured.aligned_iff placed, sub_zero]
    exact isDouble_natCast (by norm_num)
  exact ⟨bin, lands, lands.atMost (.inr (.inr (.inr ⟨sharp _ (by omega), aligned⟩))),
    lands.exceeds (.inr (.inr (.inr (sharp _ few))))⟩

/-- From 1 in widths of 0.1, the second bin ends at 1.2 as its edges are computed, and 1.2 itself
is counted in it. -/
theorem insert_beyond_upper :
    create ⟨"t.", 1, 2, 0.1⟩ = .ok (empty ⟨"t.", 1, 2, 0.1⟩) ∧
      Float.isFinite 0.1 = true ∧ Float.isFinite (2 - 1) = true ∧ Float.isNaN 1.2 = false ∧
      ∃ bin, ((empty ⟨"t.", 1, 2, 0.1⟩).insert 1.2).used = [bin] ∧ ¬ bin.upper.Exceeds 1.2 := by
  refine ⟨rfl, rfl, rfl, rfl, _, rfl, ?_⟩
  intro exceeds
  cases exceeds

/-- Whole edges do not help a sample just short of 50: its distance from -1000 is rounded to that
of 50, and so it is counted from 50 on. -/
example : ∃ bin, ((empty ⟨"t.", -1000, 1000, 50⟩).insert 49.99999999999999).used = [bin] ∧
    ¬ bin.lower.AtMost 49.99999999999999 := by
  refine ⟨_, rfl, ?_⟩
  intro atMost
  cases atMost

end Histogram

end Telemetry
