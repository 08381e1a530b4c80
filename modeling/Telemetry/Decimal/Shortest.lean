/-
# The shortest decimal of a double

Among the decimals that read back as a given double, the shortest has the fewest
digits and, among those, lies nearest to it. On the decimal grid with a given number
of digits only the two neighbours of the double need testing: if any point of that
grid reads back, so does one of them. Seventeen digits always suffice; the exact
expansion behind the search reads back by itself, so no case is left open.
-/

import Telemetry.Decimal.Nearest

namespace Telemetry.Decimal

open Binary64 (Grid.magnitude Grid.unitExponent)

/-- The same decimal without zeros at the end of its coefficient. -/
def reduced (decimal : Decimal) : Decimal :=
  if h : 0 < decimal.coefficient ∧ decimal.coefficient % 10 = 0 then
    reduced ⟨decimal.coefficient / 10, decimal.exponent + 1⟩
  else decimal
termination_by decimal.coefficient
decreasing_by omega

/-- How many decimal digits a natural number has. -/
def digitCount (number : Nat) : Nat :=
  (Nat.toDigits 10 number).length

/-- The power of ten just above a positive double. Scaling by `10 ^ 324` makes the
smallest double exceed one, so its whole part has the digits that locate it. -/
def leadingExponent (index : Nat) : Int :=
  (digitCount (Grid.magnitude index * Nat.pow 10 324 / Nat.pow 2 Grid.unitExponent) : Int) - 324

/-- The nearer of the two decimals with the given number of digits that surround a
double, if it reads back, else the other one if that does. A tie goes to the larger. -/
def withDigits? (index digits : Nat) : Option Decimal :=
  let exponent := leadingExponent index - digits
  let numerator := Grid.magnitude index * Nat.pow 10 (-exponent).toNat
  let denominator := Nat.pow 2 Grid.unitExponent * Nat.pow 10 exponent.toNat
  let lower : Decimal := ⟨numerator / denominator, exponent⟩
  let upper : Decimal := ⟨numerator / denominator + 1, exponent⟩
  let nearer :=
    if 2 * (numerator % denominator) < denominator then [lower, upper] else [upper, lower]
  nearer.find? fun candidate => candidate.nearest == index

/-- Every digit of a double. -/
def exact (index : Nat) : Decimal :=
  ⟨Grid.magnitude index * Nat.pow 5 Grid.unitExponent, -Grid.unitExponent⟩

/-- The shortest decimal that reads back as the double with this number. -/
def shortest (index : Nat) : Decimal :=
  let found := (List.range 17).findSome? fun fewer => withDigits? index (fewer + 1)
  (found.getD (exact index)).reduced

end Telemetry.Decimal
