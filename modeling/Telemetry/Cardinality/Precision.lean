/-
# Precisions

A sketch of precision `p` keeps `2 ^ p` registers, and its standard error is about
`1.04 / sqrt (2 ^ p)`. Sketches are kept between a precision that still estimates
anything and one whose registers still fit in little memory.
-/

namespace Telemetry.Cardinality

/-- The smallest precision of a sketch. -/
def leastPrecision : Nat :=
  4

/-- The largest precision of a sketch. -/
def greatestPrecision : Nat :=
  18

/-- A precision for which there are sketches. -/
structure Precision where
  bits : Nat
  least : leastPrecision ≤ bits := by decide
  greatest : bits ≤ greatestPrecision := by decide
deriving DecidableEq

namespace Precision

/-- The precision with a given number of bits, if there are sketches for it. -/
def ofNat? (bits : Nat) : Option Precision :=
  if least : leastPrecision ≤ bits then
    if greatest : bits ≤ greatestPrecision then some ⟨bits, least, greatest⟩ else none
  else none

/-- The number of registers of a sketch. -/
def registers (precision : Precision) : Nat :=
  Nat.pow 2 precision.bits

end Precision

end Telemetry.Cardinality
