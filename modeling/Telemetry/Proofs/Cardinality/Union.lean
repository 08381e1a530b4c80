/-
# Merging is taking streams together

Merging raises every register to the rank that the other sketch holds there, so it takes
the larger rank of each register, which is what the sketch of both streams holds. Whatever
is built by adding hashes and merging is thus the sketch of some stream, and the laws of
merging are those of putting streams together when only their hashes count.
-/

import Telemetry.Proofs.Cardinality.Stream

namespace Telemetry.Cardinality

/-- The registers are listed in order, each with its own number. -/
theorem Registers.zipIdx_toList (registers : Registers) :
    registers.toList.zipIdx =
      (List.range registers.length).map fun register => (registers.get register, register) := by
  apply List.ext_getElem
  · simp [toList]
  · intro register inList inRange
    simp [toList]

namespace Sketch

variable {precision : Precision} {sketch other : Sketch} {ranks more : Nat → Nat}

/-- Raising the registers one after the other takes the larger of two ranks in each that has
had its turn. -/
theorem Holds.raiseFirst {registers : Registers}
    (holds : Holds ⟨precision, registers⟩ precision ranks) (source : Registers)
    (reads : ∀ register < precision.registers, (source.get register).toNat = more register)
    (count : Nat) (within : count ≤ precision.registers) :
    Holds
      ⟨precision, (List.range count).foldl
        (fun registers register => registers.raise register (source.get register)) registers⟩
      precision
      (fun register => if register < count then max (ranks register) (more register)
        else ranks register) := by
  -- A register is read from the source, so those that were raised before do not matter to
  -- the next one, and that one still holds its own rank.
  induction count with
  | zero => exact holds.congr fun register _ => rfl
  | succ count recursion =>
    rw [List.range_succ, List.foldl_append]
    have turn : count < precision.registers := within
    have raised := (recursion turn.le).raise turn (source.get_lt count)
    apply raised.congr
    intro register _
    rw [reads count turn]
    by_cases current : register = count
    · simp [current]
    · simp [current, show register < count + 1 ↔ register < count by omega]

/-- The merge of two sketches answers with the larger rank in each register. -/
theorem Holds.merge (holds : sketch.Holds precision ranks) (also : other.Holds precision more) :
    Answers (sketch.merge other) (·.Holds precision (ranks ⊔ more)) := by
  obtain ⟨own, registers⟩ := sketch
  obtain rfl : own = precision := holds.precision_eq
  have agree : own = other.precision := also.precision_eq.symm
  rw [Sketch.merge, checkPrecision, if_pos agree]
  apply answers_ok
  rw [raiseAll, Registers.zipIdx_toList, List.foldl_map, also.length_eq]
  apply (holds.raiseFirst other.registers also.reads own.registers le_rfl).congr
  intro register within
  rw [if_pos within, Pi.sup_apply]

/-- The merge of two sketches of streams is the sketch of both streams. -/
theorem merge_ofHashes (precision : Precision) (hashes others : List UInt64) :
    (ofHashes precision hashes).merge (ofHashes precision others) =
      .ok (ofHashes precision (hashes ++ others)) := by
  obtain ⟨merged, answered, holds⟩ :=
    (holds_ofHashes precision hashes).merge (holds_ofHashes precision others)
  rw [← largestRank_append] at holds
  rw [answered, holds.eq (holds_ofHashes precision (hashes ++ others))]

/-- What can be built at one precision by adding hashes and merging. -/
inductive Built (precision : Precision) : Sketch → Prop where
  | empty : Built precision (empty precision)
  | addHash {sketch : Sketch} (built : Built precision sketch) (hash : UInt64) :
      Built precision (sketch.addHash hash)
  | merge {sketch other merged : Sketch} (built : Built precision sketch)
      (also : Built precision other) (answered : sketch.merge other = .ok merged) :
      Built precision merged

/-- Whatever is built is the sketch of some stream. -/
theorem Built.exists_stream (built : Built precision sketch) :
    ∃ hashes, sketch = ofHashes precision hashes := by
  induction built with
  | empty => exact ⟨[], rfl⟩
  | addHash built hash recursion =>
    obtain ⟨hashes, rfl⟩ := recursion
    exact ⟨hashes ++ [hash], (ofHashes_append_singleton precision hashes hash).symm⟩
  | merge built also answered recursion alsoRecursion =>
    obtain ⟨hashes, rfl⟩ := recursion
    obtain ⟨others, rfl⟩ := alsoRecursion
    rw [merge_ofHashes] at answered
    exact ⟨hashes ++ others, (Except.ok.inj answered).symm⟩

theorem foldl_addHash_ofHashes (precision : Precision) (hashes later : List UInt64) :
    later.foldl addHash (ofHashes precision hashes) = ofHashes precision (hashes ++ later) := by
  rw [ofHashes, ofHashes, List.foldl_append]

/-- Merging in place, with both sketches as they are afterwards. The registers of the first one
are raised once the precisions are known to agree, and the second one is only read. -/
def mergeInto (sketch other : Sketch) : Except Error Unit × Sketch × Sketch :=
  match sketch.checkPrecision other with
  | .ok () => (.ok (), sketch.raiseAll other, other)
  | .error error => (.error error, sketch, other)

/-- Merging in place leaves the merged sketch behind. -/
theorem mergeInto_of_merge {merged : Sketch} (answered : sketch.merge other = .ok merged) :
    mergeInto sketch other = (.ok (), merged, other) := by
  obtain ⟨_, agrees, raised⟩ := exists_of_bind_eq_ok answered
  rw [mergeInto, agrees, ← Except.ok.inj raised]

/-- Merging is the union of streams: it answers for any two sketches of one precision, with
the sketch that both streams together would have. So among all sketches that adding and
merging can build, it is commutative, associative and idempotent, the empty sketch changes
nothing, and hashes may as well be added before as after. Sketches of different precision
are refused and stay as they are. -/
theorem union_of_streams (precision : Precision) :
    (∀ hashes others : List UInt64,
      mergeInto (ofHashes precision hashes) (ofHashes precision others) =
        (.ok (), ofHashes precision (hashes ++ others), ofHashes precision others)) ∧
    (∀ first second third, Built precision first → Built precision second →
      Built precision third →
        first.merge first = .ok first ∧ first.merge (empty precision) = .ok first ∧
        (empty precision).merge first = .ok first ∧
        ∃ both, first.merge second = .ok both ∧ second.merge first = .ok both ∧
          (∃ all rest, both.merge third = .ok all ∧ second.merge third = .ok rest ∧
            first.merge rest = .ok all) ∧
          ∀ later : List UInt64,
            (later.foldl addHash first).merge second = .ok (later.foldl addHash both) ∧
            first.merge (later.foldl addHash second) = .ok (later.foldl addHash both)) ∧
    (∀ first second : Sketch, first.precision ≠ second.precision →
      mergeInto first second =
        (.error (.precisionMismatch second.precision.bits first.precision.bits),
          first, second)) := by
  refine ⟨?_, ?_, ?_⟩
  · intro hashes others
    exact mergeInto_of_merge (merge_ofHashes precision hashes others)
  · intro first second third builtFirst builtSecond builtThird
    obtain ⟨hashes, rfl⟩ := builtFirst.exists_stream
    obtain ⟨others, rfl⟩ := builtSecond.exists_stream
    obtain ⟨rest, rfl⟩ := builtThird.exists_stream
    -- A law holds when both of its sides are merges of the same hashes.
    have merged {left right whole : List UInt64}
        (same : ∀ hash, hash ∈ left ++ right ↔ hash ∈ whole) :
        (ofHashes precision left).merge (ofHashes precision right) =
          .ok (ofHashes precision whole) := by
      rw [merge_ofHashes, ofHashes_congr same]
    have nothing : empty precision = ofHashes precision [] := rfl
    rw [nothing]
    refine ⟨merged (by simp), merged (by simp), merged (by simp),
      ofHashes precision (hashes ++ others), merged (by simp), merged (by simp [or_comm]), ?_, ?_⟩
    · exact ⟨ofHashes precision (hashes ++ others ++ rest), ofHashes precision (others ++ rest),
        merged (by simp), merged (by simp), merged (by simp)⟩
    · intro later
      rw [foldl_addHash_ofHashes, foldl_addHash_ofHashes, foldl_addHash_ofHashes]
      exact ⟨merged (by simp [or_comm]), merged (by simp)⟩
  · intro first second different
    rw [mergeInto, checkPrecision, if_neg different]

/-- Two sketches of one hash each, which fall into different registers, are merged either way, with
a third hash before or after; a sketch of another precision is refused. -/
theorem union_of_two_hashes :
    let narrow : Precision := ⟨4, by decide, by decide⟩
    let wide : Precision := ⟨5, by decide, by decide⟩
    let first := ofHashes narrow [0xA100000000000000]
    let second := ofHashes narrow [0x3000000000000001]
    let both := ofHashes narrow [0xA100000000000000, 0x3000000000000001]
    Built narrow first ∧ Built narrow second ∧ first ≠ second ∧ both ≠ first ∧ both ≠ second ∧
      mergeInto first second = (.ok (), both, second) ∧
      first.merge second = .ok both ∧ second.merge first = .ok both ∧
      (first.addHash 0x3F00000000000000).merge second = .ok (both.addHash 0x3F00000000000000) ∧
      first.merge (second.addHash 0x3F00000000000000) = .ok (both.addHash 0x3F00000000000000) ∧
      first.precision ≠ (empty wide).precision ∧
      mergeInto first (empty wide) = (.error (.precisionMismatch 5 4), first, empty wide) := by
  intro narrow wide first second both
  obtain ⟨streams, laws, refused⟩ := union_of_streams narrow
  have builtFirst : Built narrow first := .addHash .empty _
  have builtSecond : Built narrow second := .addHash .empty _
  have different : first.precision ≠ (empty wide).precision := by decide
  have merged : mergeInto first second = (.ok (), both, second) := streams _ _
  obtain ⟨-, -, -, union, answered, swapped, -, later⟩ :=
    laws first second first builtFirst builtSecond builtFirst
  have same : union = both := by
    have inPlace := mergeInto_of_merge answered
    rw [merged] at inPlace
    cases inPlace
    rfl
  rw [same] at answered swapped later
  obtain ⟨before, after⟩ := later [0x3F00000000000000]
  exact ⟨builtFirst, builtSecond, by decide +kernel, by decide +kernel, by decide +kernel, merged,
    answered, swapped, before, after, different, refused first (empty wide) different⟩

end Sketch

end Telemetry.Cardinality
