/-
# Edges of bins

An edge is a number or lies beyond all numbers on one side. A number that happens to be
infinite is still a number: it lies strictly between the two outer edges.
-/

namespace Telemetry

/-- One edge of a bin. -/
inductive Bound where
  /-- Below every number. -/
  | below
  /-- At a number. -/
  | at (number : Float)
  /-- Above every number. -/
  | above

namespace Bound

/-- The order of two numbers, unless one of them is no number. -/
def compareNumbers (first second : Float) : Option Ordering :=
  if first < second then some .lt
  else if second < first then some .gt
  else if first == second then some .eq
  else none

/-- The order of two edges, unless an edge is at no number and the other one at a number
too. -/
def compare? : Bound → Bound → Option Ordering
  | .at first, .at second => compareNumbers first second
  | .below, .below | .above, .above => some .eq
  | .below, _ | _, .above => some .lt
  | _, .below | .above, _ => some .gt

/-- Whether two edges are at the same place; an edge at no number is nowhere. -/
def same (first second : Bound) : Bool :=
  first.compare? second == some .eq

end Bound

end Telemetry
