/-
# Binnings

A binning divides the numbers from a least to a greatest one into bins of one width,
with one more bin below and one above, so that every sample has a bin. Where the width
does not divide the range, the last of them is wider and reaches up to the greatest number.

A sample finds its bin by a subtraction and a division, and the edges of a bin follow
by a multiplication and an addition.
-/

import Telemetry.Error
import Telemetry.Histogram.Bound

namespace Telemetry

/-- Bins for the timers whose names begin with `stem`. -/
structure Binning where
  stem : String
  /-- The lower edge of the first regular bin. -/
  least : Float
  /-- The upper edge of the last regular bin. -/
  greatest : Float
  width : Float
deriving BEq

namespace Binning

/-- Whether a regular bin fits: the range has finite ends in ascending order, and the
width is positive and no larger than the range. -/
def check (binning : Binning) : Except BinningFault Unit :=
  if !(binning.least.isFinite && binning.greatest.isFinite) then
    .error (.unbounded binning.stem)
  else if binning.greatest ≤ binning.least then
    .error (.emptyRange binning.stem binning.least binning.greatest)
  else if !(0 < binning.width) || binning.greatest - binning.least < binning.width then
    .error (.misfit binning.stem binning.width binning.least binning.greatest)
  else .ok ()

/-- The bin widths from the least number to another, in whole numbers. -/
def widthsTo (binning : Binning) (number : Float) : Nat :=
  ((number - binning.least) / binning.width).toUInt64.toNat

/-- The number of bins, the two outer ones included. Whether there can be a histogram of so many
is looked at when one is made. -/
def bins (binning : Binning) : Nat :=
  binning.widthsTo binning.greatest + 2

/-- The bin of a sample. Regular bins include their lower and exclude their upper edge;
what is no number belongs to the last bin. -/
def binOf (binning : Binning) (value : Float) : Nat :=
  let last := binning.bins - 1
  if value < binning.least then 0
  else if !(value < binning.greatest) then last
  else min (binning.widthsTo value + 1) (last - 1)

/-- The lower edge of a regular bin, counted from one. -/
def lowerEdge (binning : Binning) (bin : Nat) : Float :=
  binning.least + Float.ofNat (bin - 1) * binning.width

/-- The lower and the upper edge of a bin. -/
def edges (binning : Binning) (bin : Nat) : Bound × Bound :=
  let last := binning.bins - 1
  if bin = 0 then (.below, .at binning.least)
  else if bin = last then (.at binning.greatest, .above)
  else
    let upper := if bin = last - 1 then binning.greatest else binning.lowerEdge (bin + 1)
    (.at (binning.lowerEdge bin), .at upper)

end Binning

end Telemetry
