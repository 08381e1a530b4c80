/-
# Histograms

A histogram keeps one counter for each bin of its binning, all of them from the start. So a
binning with very many bins has no histogram, though nothing else is wrong with it.
-/

import Telemetry.Histogram.Binning

namespace Telemetry

/-- How many samples fell into each bin of a binning. -/
structure Histogram where
  binning : Binning
  /-- The number of samples. -/
  count : Nat
  /-- The number of samples in each bin. -/
  counts : Array Nat

/-- A bin with its edges and its samples. -/
structure Bin where
  index : Nat
  lower : Bound
  upper : Bound
  count : Nat

namespace Binning

/-- A machine word counts up to here, this number excluded. -/
def countLimit : Nat :=
  0x10000000000000000

/-- The counters of so many bins, at eight bytes each, are more than signed addresses reach. -/
def storageLimit : Nat :=
  0x1000000000000000

/-- Whether there can be counters for all bins. How much memory is at hand is another matter. -/
def checkStorage (binning : Binning) : Except StorageFault Unit :=
  if countLimit ≤ binning.bins then .error (.uncountable binning.bins)
  else if storageLimit ≤ binning.bins then .error (.oversized binning.bins)
  else .ok ()

end Binning

namespace Histogram

/-- The histogram of no samples. -/
def empty (binning : Binning) : Histogram :=
  ⟨binning, 0, Array.replicate binning.bins 0⟩

/-- The histogram of no samples, if the binning has regular bins and these can be counted in. -/
def create (binning : Binning) : Except Error Histogram := do
  binning.check.mapError Error.binning
  binning.checkStorage.mapError Error.storage
  return empty binning

/-- Count a sample in its bin. -/
def insert (histogram : Histogram) (value : Float) : Histogram :=
  let ⟨binning, count, counts⟩ := histogram
  ⟨binning, count + 1, counts.modify (binning.binOf value) (· + 1)⟩

/-- The bins in order. -/
def bins (histogram : Histogram) : List Bin :=
  histogram.counts.toList.zipIdx.map fun (count, index) =>
    let (lower, upper) := histogram.binning.edges index
    ⟨index, lower, upper, count⟩

/-- The bins that hold a sample. -/
def used (histogram : Histogram) : List Bin :=
  histogram.bins.filter fun bin => 0 < bin.count

end Histogram

end Telemetry
