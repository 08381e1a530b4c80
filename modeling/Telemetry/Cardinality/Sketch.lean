/-
# Cardinality sketches

A sketch estimates how many distinct hashes it has been given. The top bits of a hash
pick a register, and the register keeps the largest rank seen, a rank being the place
of the first set bit in the rest of the hash. Keeping the largest makes repetition and
order immaterial, and makes the merge of two sketches the sketch of both streams.
-/

import Telemetry.Cardinality.Correction
import Telemetry.Cardinality.Registers
import Telemetry.Cardinality.Sizing

namespace Telemetry.Cardinality

/-- Registers for the ranks of the hashes seen, `2 ^ precision` of them. -/
structure Sketch where
  precision : Precision
  registers : Registers
deriving DecidableEq

namespace Sketch

/-- The sketch of no hashes. -/
def empty (precision : Precision) : Sketch :=
  ⟨precision, .blank precision.registers⟩

/-- The register a hash belongs to: its top bits. -/
def index (precision : Precision) (hash : UInt64) : Nat :=
  (hash >>> UInt64.ofNat (64 - precision.bits)).toNat

/-- The place, counted from one, of the first set bit after the top ones. A bit set just
past the end of the hash bounds the rank of a hash that has none. -/
def rank (precision : Precision) (hash : UInt64) : UInt8 :=
  let rest := hash <<< UInt64.ofNat precision.bits
  let guard := 1 <<< UInt64.ofNat (precision.bits - 1)
  (64 - (rest ||| guard).log2).toUInt8

/-- Add a hash. -/
def addHash (sketch : Sketch) (hash : UInt64) : Sketch :=
  let ⟨precision, registers⟩ := sketch
  ⟨precision, registers.raise (index precision hash) (rank precision hash)⟩

/-- Add a key by its hash. -/
def add (hasher : ByteArray → UInt64) (sketch : Sketch) (key : ByteArray) : Sketch :=
  sketch.addHash (hasher key)

/-- Whether another sketch can be merged in. The precisions must agree, or the registers would
not mean the same. -/
def checkPrecision (sketch other : Sketch) : Except Error Unit :=
  if sketch.precision = other.precision then .ok ()
  else .error (.precisionMismatch other.precision.bits sketch.precision.bits)

/-- Raise every register to what another sketch has there. -/
def raiseAll (sketch other : Sketch) : Sketch :=
  let ⟨precision, registers⟩ := sketch
  ⟨precision, other.registers.toList.zipIdx.foldl
    (fun registers (rank, index) => registers.raise index rank) registers⟩

/-- The sketch of both streams. Nothing is raised before the precisions are known to agree. -/
def merge (sketch other : Sketch) : Except Error Sketch := do
  sketch.checkPrecision other
  return sketch.raiseAll other

/-- The constant that makes the raw estimate right on average. -/
def scale (precision : Precision) : Float :=
  match precision.bits with
  | 4 => 0.673
  | 5 => 0.697
  | 6 => 0.709
  | _ => 0.7213 / (1.0 + 1.079 / Float.ofNat precision.registers)

/-- The sum of `2 ^ (-rank)` over the registers, and how many of them are zero. -/
def harmonic (ranks : List UInt8) : Float × Nat :=
  ranks.foldl
    (fun (sum, zeros) (rank : UInt8) =>
      (sum + 1.0 / (1 <<< rank.toUInt64 : UInt64).toFloat, if rank = 0 then zeros + 1 else zeros))
    (0.0, 0)

/-- The estimated number of distinct hashes: the corrected raw estimate, or a count of
the empty registers where that is the better of the two. -/
def size (sketch : Sketch) : Float :=
  let total := Float.ofNat sketch.precision.registers
  let (sum, zeros) := harmonic sketch.registers.toList
  let raw := scale sketch.precision * total * total / sum
  let estimate :=
    if raw ≤ 5.0 * total then raw - Correction.overshoot sketch.precision raw else raw
  if 0 < zeros then
    let linear := total * (total / Float.ofNat zeros).log
    if linear ≤ Float.ofNat (Correction.switchingPoint sketch.precision) then linear else estimate
  else estimate

/-- The inner layout as text, for diagnosis. -/
def describe (sketch : Sketch) : String :=
  "Hll \x7b precision: " ++ toString sketch.precision.bits ++ ", registers: " ++
    sketch.registers.describe ++ " \x7d"

end Sketch

end Telemetry.Cardinality
