/-
# Running moments

Counters and timers report the number, the sum and the sum of squares of their samples,
with the mean and the sample deviation derived from them.
-/

import Telemetry.Scale

namespace Telemetry

open Scale (ofCount)

/-- The first moments of some samples. -/
structure Moments (R : Type) where
  count : Nat
  sum : R
  squaredSum : R

namespace Moments

section

variable {R : Type} [Scale R]

/-- The moments of no samples. -/
def empty : Moments R :=
  ⟨0, ofCount 0, ofCount 0⟩

/-- Take one more sample in. -/
@[specialize] def add [Add R] [Mul R] (moments : Moments R) (value : R) : Moments R :=
  ⟨moments.count + 1, moments.sum + value, moments.squaredSum + value * value⟩

/-- The mean of the samples, or zero without any. -/
def mean [Div R] (moments : Moments R) : R :=
  if moments.count = 0 then ofCount 0 else moments.sum / ofCount moments.count

/-- The sample variance in terms of the moments, before rounding errors are dealt with. -/
def variance [Sub R] [Mul R] [Div R] (moments : Moments R) : R :=
  let count : R := ofCount moments.count
  (count * moments.squaredSum - moments.sum * moments.sum) / (count * (count - ofCount 1))

end

/-- A number, or zero in place of a negative one or of no number. -/
def nonnegative (number : Float) : Float :=
  if 0 < number then number else 0

/-- The sample deviation, or zero below two samples. Cancellation can make the variance
of equal samples slightly negative, which counts as zero. -/
def deviation (moments : Moments Float) : Float :=
  if moments.count < 2 then 0 else (nonnegative moments.variance).sqrt

end Moments

end Telemetry
