/-
# Scales

Counts are weighed in some arithmetic. Running aggregates weigh them in doubles. The same
rules over the rationals say what the aggregates mean without rounding, so a rule that
needs no more than the four operations is stated once, for every scale.
-/

namespace Telemetry

/-- Conversions between an arithmetic and the counts weighed in it. -/
class Scale (R : Type) where
  /-- A count as a number. -/
  ofCount : Nat → R
  /-- The least whole number at or above a number. -/
  ceil : R → R
  /-- The whole part of a number, or zero for a negative one. -/
  toCount : R → Nat

instance : Scale Float where
  ofCount := Float.ofNat
  ceil := Float.ceil
  toCount number := number.toUInt64.toNat

instance : Scale Rat where
  ofCount count := count
  ceil number := number.ceil
  toCount number := number.floor.toNat

end Telemetry
