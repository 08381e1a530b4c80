/-
# Distinct sets

A small set is counted exactly by remembering the hashes of its members. The hash that
no longer fits turns the set into a cardinality sketch of everything seen, for good. How a
member is hashed is for the caller to say.
-/

import Telemetry.Cardinality.Sketch
import Telemetry.Traced

namespace Telemetry

open Cardinality (Precision Sketch)

/-- How a set counts its members. -/
inductive DistinctSet.Tally where
  /-- Every distinct hash, in order of arrival. -/
  | exact (hashes : List UInt64)
  /-- A sketch of all hashes. -/
  | approximate (sketch : Sketch)

/-- A set that counts its distinct members. -/
structure DistinctSet where
  /-- The precision of the sketch, once there is one. -/
  precision : Precision
  tally : DistinctSet.Tally

namespace DistinctSet

/-- Hashes remembered at most. -/
def exactLimit : Nat :=
  64

/-- The set without members. -/
def empty (precision : Precision) : DistinctSet :=
  ⟨precision, .exact []⟩

/-- A set for a number of bits, which is looked at now so that no sketch is refused later. -/
def create (bits : Nat) : Except Error DistinctSet :=
  empty <$> Precision.ofNat bits

/-- Add a hash, and answer whether the set has just stopped counting exactly. -/
def addHash (set : DistinctSet) (hash : UInt64) : DistinctSet × Bool :=
  let ⟨precision, tally⟩ := set
  match tally with
  | .approximate sketch => (⟨precision, .approximate (sketch.addHash hash)⟩, false)
  | .exact hashes =>
    if hashes.contains hash then (⟨precision, .exact hashes⟩, false)
    else if hashes.length < exactLimit then (⟨precision, .exact (hashes ++ [hash])⟩, false)
    else
      let sketch := (hashes ++ [hash]).foldl Sketch.addHash (.empty precision)
      (⟨precision, .approximate sketch⟩, true)

/-- Add a member. -/
def add {ε : Type} (hasher : ByteArray → UInt64) (set : DistinctSet) (key : ByteArray) :
    Traced ε DistinctSet := do
  let precision := set.precision.bits
  let (set, turned) := set.addHash (hasher key)
  if turned then Traced.report [.setApproximated precision]
  return set

/-- The number of distinct members: exact while small, the next whole number to an
estimate after. -/
def size (set : DistinctSet) : Nat :=
  match set.tally with
  | .exact hashes => hashes.length
  | .approximate sketch => sketch.size.ceil.toUInt64.toNat

/-- Whether the members are still counted exactly. -/
def isExact (set : DistinctSet) : Bool :=
  match set.tally with
  | .exact _ => true
  | .approximate _ => false

end DistinctSet

end Telemetry
