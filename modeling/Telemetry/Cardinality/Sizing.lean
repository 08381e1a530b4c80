/-
# Choosing a precision

A precision is given outright or derived from the standard error that is wanted. The
derived number of bits is the least that meets the error; there need not be sketches
with so few or so many.
-/

import Telemetry.Error

namespace Telemetry.Cardinality.Precision

/-- The precision with a given number of bits. -/
def ofNat (bits : Nat) : Except Error Precision :=
  match ofNat? bits with
  | some precision => .ok precision
  | none => .error (.precision bits)

/-- The least number of bits at which the standard error is at most `error`. -/
def bitsForError (error : Float) : Except Error Nat :=
  if !(0 < error && error < 1) then .error (.cardinalityError error)
  else
    let ratio := 1.04 / error
    let bits := (ratio * ratio).log2.ceil
    if Float.ofNat nameablePrecision < bits then .error (.cardinalityErrorTooSmall error)
    else .ok bits.toUInt8.toNat

end Telemetry.Cardinality.Precision
