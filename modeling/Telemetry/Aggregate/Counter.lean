/-
# Counters

A counter keeps no samples, only their moments and extremes, so it costs the same for
ten samples as for ten million.
-/

import Telemetry.Aggregate.Moments

namespace Telemetry

/-- The moments and extremes of the samples of a counter. -/
structure Counter where
  moments : Moments Float
  /-- The least sample that is a number, or zero without samples. -/
  least : Float
  /-- The greatest sample that is a number, or zero without samples. -/
  greatest : Float

namespace Counter

/-- The counter of no samples. -/
def empty : Counter :=
  ⟨.empty, 0, 0⟩

/-- The lesser of two samples; one that is no number loses to one that is. -/
def lesser (first second : Float) : Float :=
  if second < first || first.isNaN then second else first

/-- The greater of two samples; one that is no number loses to one that is. -/
def greater (first second : Float) : Float :=
  if first < second || first.isNaN then second else first

/-- Take a sample in. The first one is both extremes. -/
def add (counter : Counter) (value : Float) : Counter :=
  if counter.moments.count = 0 then ⟨counter.moments.add value, value, value⟩
  else
    ⟨counter.moments.add value, lesser counter.least value, greater counter.greatest value⟩

end Counter

end Telemetry
