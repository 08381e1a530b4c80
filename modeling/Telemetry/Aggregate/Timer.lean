/-
# Timers

A timer keeps the exact moments of its samples and a sketch of their distribution. The
moments can be read at any time. Quantiles and extremes come from the sketch, which has
to merge its staged values first; a timer remembers whether that has been done since
the last sample.
-/

import Telemetry.Aggregate.Moments
import Telemetry.Error
import Telemetry.Quantile.Sketch

namespace Telemetry

open Quantile (Sketch SlotFault Targets)

/-- Moments and distribution of the samples of a timer. -/
structure Timer where
  sketch : Sketch Float
  moments : Moments Float
  /-- Nothing has been added since the sketch was last flushed. -/
  settled : Bool

namespace Timer

/-- The timer of no samples. -/
def empty (targets : Targets Float) : Timer :=
  ⟨.empty targets, .empty, true⟩

/-- A timer with an error bound at some quantiles. -/
def create (bound : Float) (quantiles : List Float) : Except Error Timer :=
  match Targets.create bound quantiles with
  | .ok targets => .ok (empty targets)
  | .error fault => .error (.targets fault)

/-- Take a sample in. -/
def add (timer : Timer) (value : Binary64) : Traced SlotFault Timer := do
  let ⟨sketch, moments, _⟩ := timer
  return ⟨← sketch.add value, moments.add value.toFloat, false⟩

/-- Make every sample visible to queries. -/
def settle (timer : Timer) : Traced SlotFault Timer := do
  if timer.settled then return timer
  let ⟨sketch, moments, _⟩ := timer
  return ⟨← sketch.flush, moments, true⟩

/-- The sample at a quantile, or zero without samples. -/
def query (timer : Timer) (quantile : Float) : Traced SlotFault (Binary64 × Timer) := do
  let timer ← timer.settle
  return ((timer.sketch.query quantile).getD 0, timer)

/-- The least sample, or zero without samples. -/
def least (timer : Timer) : Traced SlotFault (Binary64 × Timer) := do
  let timer ← timer.settle
  return (timer.sketch.min?.getD 0, timer)

/-- The greatest sample, or zero without samples. -/
def greatest (timer : Timer) : Traced SlotFault (Binary64 × Timer) := do
  let timer ← timer.settle
  return (timer.sketch.max?.getD 0, timer)

end Timer

end Telemetry
