/-
# Decimals and the doubles they denote

A decimal is a whole coefficient with a power of ten. Reading one as a double means
taking the nearest grid point, whatever the number of digits. Exponents far outside
the range of doubles are answered without building the power of ten.
-/

import Telemetry.Binary64.Grid

namespace Telemetry

/-- A nonnegative decimal: `coefficient * 10 ^ exponent`. -/
structure Decimal where
  coefficient : Nat
  exponent : Int
deriving DecidableEq, Repr

namespace Decimal

open Binary64 (Grid.nearest Grid.unitExponent Grid.infinity)

/-- The grid point nearest to a decimal. A coefficient of at least one with exponent
above 400 is past every double, and one below `10 ^ (-400)` is nearest to zero. -/
def nearest (decimal : Decimal) : Nat :=
  if decimal.coefficient = 0 then 0
  else if 400 < decimal.exponent then Grid.infinity
  else if decimal.exponent + decimal.coefficient.log2 + 1 < -400 then 0
  else
    let scaled := decimal.coefficient * Nat.pow 2 Grid.unitExponent
    if 0 ≤ decimal.exponent then Grid.nearest (scaled * Nat.pow 10 decimal.exponent.toNat) 1
    else Grid.nearest scaled (Nat.pow 10 (-decimal.exponent).toNat)

/-- The double with a given sign nearest to a decimal. -/
def toFloat (negative : Bool) (decimal : Decimal) : Float :=
  let bits := UInt64.ofNat decimal.nearest
  Float.ofBits (if negative then bits ||| 0x8000000000000000 else bits)

end Decimal

end Telemetry
