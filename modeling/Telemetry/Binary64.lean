/-
# Sample values

A sample is one double, kept by its bits rather than as a `Float`. A `Float` has
a single NaN, while a stored sample must come back exactly as it was given, sign
and payload of a NaN included. Arithmetic converts to `Float`; storage and
ordering do not.

The order used for storage is total. It is the numeric order with `-0` below `+0`,
negative NaNs below everything and positive NaNs above everything, and it is read
off the bits by one monotone key.
-/

namespace Telemetry

/-- One double, identified by its sign, exponent and fraction bits. -/
structure Binary64 where
  bits : UInt64
deriving DecidableEq, Inhabited, Repr

namespace Binary64

/-- The double a `Float` holds; every NaN arrives as the canonical one. -/
def ofFloat (number : Float) : Binary64 :=
  ⟨number.toBits⟩

/-- The number to calculate with; the payload of a NaN is forgotten here. -/
def toFloat (value : Binary64) : Float :=
  Float.ofBits value.bits

/-- The double nearest to a count. -/
def ofNat (count : Nat) : Binary64 :=
  ofFloat (Float.ofNat count)

/-- Positive zero, which aggregates without samples report. -/
def zero : Binary64 :=
  ⟨0⟩

instance : Zero Binary64 :=
  ⟨zero⟩

/-- Words whose unsigned order is the total order: a negative double loses to every
positive one and loses more the larger its magnitude, so all its bits are flipped. -/
def key (value : Binary64) : UInt64 :=
  if value.bits < 0x8000000000000000 then value.bits + 0x8000000000000000 else ~~~value.bits

/-- The total order on all bit patterns. -/
protected def compare (first second : Binary64) : Ordering :=
  compare first.key second.key

instance : Ord Binary64 :=
  ⟨Binary64.compare⟩

end Binary64

end Telemetry
