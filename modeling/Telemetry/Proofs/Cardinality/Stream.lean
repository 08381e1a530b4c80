/-
# Sketches of streams

Each register of a sketch holds the largest rank among the hashes that belong to it. The
largest of some ranks does not depend on their order or on how often each occurs, and the
packed words are told apart by what they hold, so neither does the sketch. Ranks are taken
together register by register, as a supremum of functions; adding a hash and merging a
sketch are both such suprema.
-/

import Mathlib.Data.Finset.Lattice.Fold
import Mathlib.Order.Lattice.Nat
import Telemetry.Proofs.Answers
import Telemetry.Proofs.Cardinality.Packing
import Telemetry.Proofs.Cardinality.Ranks

namespace Telemetry.Cardinality

/-- The largest rank of the hashes that belong to a register, or zero if there are none. -/
def largestRank (precision : Precision) (hashes : List UInt64) (register : Nat) : Nat :=
  (hashes.toFinset.filter (topBits precision · = register)).sup (firstSetPlace precision)

variable {precision : Precision} {hashes others : List UInt64}

theorem largestRank_nil : largestRank precision [] = ⊥ := by
  funext register
  simp [largestRank]

theorem largestRank_append (precision : Precision) (hashes others : List UInt64) :
    largestRank precision (hashes ++ others) =
      largestRank precision hashes ⊔ largestRank precision others := by
  funext register
  simp only [largestRank, List.toFinset_append, Finset.filter_union, Finset.sup_union,
    Pi.sup_apply]

theorem largestRank_singleton (precision : Precision) (hash : UInt64) (register : Nat) :
    largestRank precision [hash] register =
      if topBits precision hash = register then firstSetPlace precision hash else 0 := by
  by_cases belongs : topBits precision hash = register
  · simp [largestRank, Finset.filter_singleton, belongs]
  · simp [largestRank, Finset.filter_singleton, belongs]

/-- Only which hashes there are matters. -/
theorem largestRank_congr (same : ∀ hash, hash ∈ others ↔ hash ∈ hashes) :
    largestRank precision others = largestRank precision hashes := by
  have sets : others.toFinset = hashes.toFinset := by
    ext hash
    simpa using same hash
  funext register
  rw [largestRank, sets, largestRank]

theorem largestRank_le (precision : Precision) (hashes : List UInt64) (register : Nat) :
    largestRank precision hashes register ≤ 65 - precision.bits :=
  Finset.sup_le fun hash _ => firstSetPlace_le precision hash

namespace Sketch

/-- The sketch of a stream of hashes. -/
def ofHashes (precision : Precision) (hashes : List UInt64) : Sketch :=
  hashes.foldl addHash (empty precision)

/-- The registers hold given ranks, and nothing else is set. -/
structure Holds (sketch : Sketch) (precision : Precision) (ranks : Nat → Nat) : Prop where
  precision_eq : sketch.precision = precision
  length_eq : sketch.registers.length = precision.registers
  canonical : sketch.registers.Canonical
  reads : ∀ register < precision.registers,
    (sketch.registers.get register).toNat = ranks register

namespace Holds

variable {sketch other : Sketch} {ranks more : Nat → Nat}

/-- Two sketches that hold the same ranks are the same, word by word. -/
theorem eq (holds : sketch.Holds precision ranks) (also : other.Holds precision ranks) :
    sketch = other := by
  have registers : sketch.registers = other.registers := by
    apply holds.canonical.ext also.canonical (holds.length_eq.trans also.length_eq.symm)
    intro register meant
    have within := meant.trans_eq holds.length_eq
    exact UInt8.toNat_inj.mp ((holds.reads register within).trans (also.reads register within).symm)
  have precisions := holds.precision_eq.trans also.precision_eq.symm
  cases sketch
  cases other
  congr

theorem congr (holds : sketch.Holds precision ranks)
    (same : ∀ register < precision.registers, ranks register = more register) :
    sketch.Holds precision more :=
  { holds with reads := fun register within => (holds.reads register within).trans (same _ within) }

/-- Raising a register takes the larger of two ranks there. -/
theorem raise {registers : Registers} (holds : Holds ⟨precision, registers⟩ precision ranks)
    {index : Nat} (within : index < precision.registers) {value : UInt8}
    (fits : value.toNat < 2 ^ 6) :
    Holds ⟨precision, registers.raise index value⟩ precision fun register =>
      if register = index then max (ranks index) value.toNat else ranks register where
  precision_eq := rfl
  length_eq := (registers.length_raise index value).trans holds.length_eq
  canonical := holds.canonical.raise (within.trans_eq holds.length_eq.symm) value
  reads register inside := by
    have meant : index < registers.length := within.trans_eq holds.length_eq.symm
    have before : ∀ register < precision.registers,
        (registers.get register).toNat = ranks register := holds.reads
    show ((registers.raise index value).get register).toNat = _
    rw [holds.canonical.toNat_get_raise meant fits, before index within, before register inside]

theorem addHash (holds : sketch.Holds precision ranks) (hash : UInt64) :
    (sketch.addHash hash).Holds precision (ranks ⊔ largestRank precision [hash]) := by
  obtain ⟨own, registers⟩ := sketch
  obtain rfl : own = precision := holds.precision_eq
  have most := firstSetPlace_le own hash
  have bounds := own.bits_bounds
  have within : index own hash < own.registers := index_eq_topBits own hash ▸ topBits_lt own hash
  have fits : (rank own hash).toNat < 2 ^ 6 := by
    rw [toNat_rank]
    omega
  apply (holds.raise within fits).congr
  intro register _
  rw [Pi.sup_apply, largestRank_singleton, index_eq_topBits, toNat_rank]
  by_cases belongs : topBits own hash = register
  · simp [belongs]
  · simp [belongs, Ne.symm belongs]

end Holds

theorem holds_empty (precision : Precision) : (empty precision).Holds precision ⊥ where
  precision_eq := rfl
  length_eq := rfl
  canonical := Registers.canonical_blank _
  reads register _ := by
    show ((Registers.blank _).get register).toNat = 0
    rw [Registers.get_blank]
    rfl

theorem ofHashes_append_singleton (precision : Precision) (hashes : List UInt64) (hash : UInt64) :
    ofHashes precision (hashes ++ [hash]) = (ofHashes precision hashes).addHash hash := by
  simp [ofHashes]

/-- The sketch of a stream holds the largest rank of each register. -/
theorem holds_ofHashes (precision : Precision) (hashes : List UInt64) :
    (ofHashes precision hashes).Holds precision (largestRank precision hashes) := by
  induction hashes using List.reverseRecOn with
  | nil =>
    rw [largestRank_nil]
    exact holds_empty precision
  | append_singleton hashes hash recursion =>
    rw [ofHashes_append_singleton, largestRank_append]
    exact recursion.addHash hash

/-- Streams of the same hashes have the same sketch. -/
theorem ofHashes_congr (same : ∀ hash, hash ∈ others ↔ hash ∈ hashes) :
    ofHashes precision others = ofHashes precision hashes := by
  have holds := holds_ofHashes precision others
  rw [largestRank_congr same] at holds
  exact holds.eq (holds_ofHashes precision hashes)

/-- Every register reads as the largest rank of the hashes that belong to it. No rank is too
large for six bits or for the shift that weighs it, and the sketch depends on nothing but
which hashes there were. -/
theorem registers_of_stream (precision : Precision) (hashes : List UInt64) :
    (∀ register < 2 ^ precision.bits, ∃ value,
      (ofHashes precision hashes).registers.get? register = some value ∧
        value.toNat = largestRank precision hashes register) ∧
    (∀ hash, (rank precision hash).toNat ≤ 65 - precision.bits ∧
      (rank precision hash).toNat < 2 ^ 6) ∧
    (ofHashes precision hashes).registers.toList.length = 2 ^ precision.bits ∧
    (∀ value ∈ (ofHashes precision hashes).registers.toList,
      value.toNat ≤ 65 - precision.bits ∧
        ((1 : UInt64) <<< value.toUInt64).toNat = 2 ^ value.toNat) ∧
    (∀ others : List UInt64, (∀ hash, hash ∈ others ↔ hash ∈ hashes) →
      ofHashes precision others = ofHashes precision hashes) := by
  have holds := holds_ofHashes precision hashes
  have bounds := precision.bits_bounds
  refine ⟨?_, ?_, ?_, ?_, fun others same => ofHashes_congr same⟩
  · intro register within
    have meant := within.trans_eq holds.length_eq.symm
    have present := Registers.get?_eq_some_get (holds.canonical.within meant)
    exact ⟨_, present, holds.reads register within⟩
  · intro hash
    have most := firstSetPlace_le precision hash
    rw [toNat_rank]
    omega
  · rw [Registers.toList, List.length_map, List.length_range]
    exact holds.length_eq
  · intro value listed
    obtain ⟨register, meant, rfl⟩ := List.mem_map.mp listed
    have within := (List.mem_range.mp meant).trans_eq holds.length_eq
    have most := largestRank_le precision hashes register
    rw [← holds.reads register within] at most
    refine ⟨most, ?_⟩
    have small : (ofHashes precision hashes |>.registers.get register).toNat < 64 := by omega
    rw [UInt64.toNat_shiftLeft, UInt8.toNat_toUInt64, Nat.mod_eq_of_lt small, Nat.shiftLeft_eq]
    show 1 * _ % 2 ^ 64 = _
    rw [Nat.one_mul, Nat.mod_eq_of_lt (Nat.pow_lt_pow_right (by decide) small)]

/-- A hash whose low bits begin with three zeros, and one whose low bits are all zero. -/
theorem registers_of_two_hashes :
    let precision : Precision := ⟨4, by decide, by decide⟩
    let hashes : List UInt64 := [0xA100000000000000, 0x3000000000000000]
    (10 < 2 ^ precision.bits ∧ 3 < 2 ^ precision.bits) ∧
      largestRank precision hashes 10 = 4 ∧ largestRank precision hashes 3 = 61 ∧
      (∃ value, (ofHashes precision hashes).registers.get? 10 = some value ∧ value.toNat = 4) ∧
      (∃ value, (ofHashes precision hashes).registers.get? 3 = some value ∧ value.toNat = 61) ∧
      ofHashes precision (hashes.reverse ++ hashes) = ofHashes precision hashes := by
  intro precision hashes
  obtain ⟨reads, -, -, -, sets⟩ := registers_of_stream precision hashes
  have four : largestRank precision hashes 10 = 4 := by decide
  have none : largestRank precision hashes 3 = 61 := by decide
  exact ⟨by decide, four, none, four ▸ reads 10 (by decide), none ▸ reads 3 (by decide),
    sets _ (by simp)⟩

end Sketch

end Telemetry.Cardinality
