/-
# The grid of doubles

Without their sign bit, the finite doubles are numbered `0, 1, 2, …` in order of
magnitude. Every magnitude is a natural multiple of the smallest positive one, so
the grid is a strictly increasing sequence of natural numbers and rounding to it
needs no fractions: a ratio is rounded by one division and one comparison with the
midpoint above.
-/

namespace Telemetry.Binary64.Grid

/-- The number that stands for infinity: one past the largest finite double. -/
def infinity : Nat :=
  2047 * Nat.pow 2 52

/-- Powers of two between one and the smallest positive double. -/
def unitExponent : Nat :=
  1074

/-- The magnitude of a grid point, in units of the smallest positive double. Below
`2 ^ 53` the grid is the natural numbers themselves; each later run of `2 ^ 52` points
is twice as coarse as the one before. -/
def magnitude (index : Nat) : Nat :=
  if index < Nat.pow 2 52 then index
  else (Nat.pow 2 52 + index % Nat.pow 2 52) * Nat.pow 2 (index / Nat.pow 2 52 - 1)

/-- Halvings after which a magnitude keeps 53 binary digits. -/
def coarseness (whole : Nat) : Nat :=
  whole.log2 - 52

/-- The last grid point at or below a whole magnitude. -/
def below (whole : Nat) : Nat :=
  coarseness whole * Nat.pow 2 52 + whole / Nat.pow 2 (coarseness whole)

/-- The grid point nearest to `numerator / denominator` units, an exact midpoint going
to the even neighbour. Whatever passes the last midpoint is infinite. -/
def nearest (numerator denominator : Nat) : Nat :=
  let whole := numerator / denominator
  let lower := below whole
  let excess := 2 * (numerator - denominator * magnitude lower)
  let step := denominator * Nat.pow 2 (coarseness whole)
  let rounded :=
    if excess < step then lower
    else if excess = step then lower + lower % 2
    else lower + 1
  min rounded infinity

end Telemetry.Binary64.Grid
