/-
# Numbers as text

Messages and settings documents write doubles in positional notation with the fewest
digits that read back. They differ in how a whole number ends and how the values that
are no numbers are called, so each has a style record.
-/

import Telemetry.Decimal.Shortest

namespace Telemetry

namespace Decimal

/-- Positional notation: zeros fill the places between the digits and the point. -/
def positional (decimal : Decimal) (wholeEnding : String) : String :=
  let digits := Nat.toDigits 10 decimal.coefficient
  let places := (-decimal.exponent).toNat
  if places = 0 then
    String.ofList (digits ++ List.replicate decimal.exponent.toNat '0') ++ wholeEnding
  else if places < digits.length then
    String.ofList (digits.take (digits.length - places)) ++ "." ++
      String.ofList (digits.drop (digits.length - places))
  else "0." ++ String.ofList (List.replicate (places - digits.length) '0' ++ digits)

end Decimal

/-- How a kind of text spells doubles. -/
structure NumberStyle where
  /-- What follows the digits of a whole number. -/
  wholeEnding : String
  /-- The name of every NaN; its sign is not shown. -/
  notANumber : String

namespace NumberStyle

/-- Messages for people write whole numbers without a point. -/
def message : NumberStyle :=
  ⟨"", "NaN"⟩

/-- Settings documents keep a point, so that a double is not taken for an integer. -/
def document : NumberStyle :=
  ⟨".0", "nan"⟩

/-- The text of the double with a given sign whose magnitude has number `index`. -/
def renderSigned (style : NumberStyle) (negative : Bool) (index : Nat) : String :=
  let sign := if negative then "-" else ""
  if Binary64.Grid.infinity < index then style.notANumber
  else if index = Binary64.Grid.infinity then sign ++ "inf"
  else if index = 0 then sign ++ "0" ++ style.wholeEnding
  else sign ++ (Decimal.shortest index).positional style.wholeEnding

/-- The text of a double. -/
def render (style : NumberStyle) (number : Float) : String :=
  let bits := number.toBits.toNat
  style.renderSigned (0x8000000000000000 ≤ bits) (bits % 0x8000000000000000)

end NumberStyle

end Telemetry
