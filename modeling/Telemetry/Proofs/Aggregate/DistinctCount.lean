/-
# Counting distinct keys

A set remembers the distinct hashes of its keys while they fit, and is the sketch of all of
them after. The hash that no longer fits is one more than can be remembered, so a set counts
exactly for just as long as there are at most that many distinct hashes, whatever order they
come in and however often each of them comes. None of this depends on how keys are hashed.
-/

import Telemetry.Aggregate.DistinctSet
import Telemetry.Cardinality.KeyHash
import Telemetry.Proofs.Cardinality.Stream

namespace Telemetry.DistinctSet

open Cardinality (Precision Sketch hashKey)

variable {precision : Precision} {hashes remembered : List UInt64} {hash : UInt64}
  {set : DistinctSet}

/-- A set counts some hashes: it remembers the distinct ones as long as they fit, and is the
sketch of all of them from then on. -/
inductive Counts (precision : Precision) (hashes : List UInt64) : DistinctSet → Prop where
  | exact {remembered : List UInt64} (distinct : remembered.Nodup)
      (fits : remembered.length ≤ 64) (same : ∀ hash, hash ∈ remembered ↔ hash ∈ hashes) :
      Counts precision hashes ⟨precision, .exact remembered⟩
  | approximate (many : 64 < hashes.toFinset.card) :
      Counts precision hashes ⟨precision, .approximate (Sketch.ofHashes precision hashes)⟩

/-- A hash that is remembered changes nothing. -/
theorem addHash_of_mem (known : hash ∈ remembered) :
    (addHash ⟨precision, .exact remembered⟩ hash).1 = ⟨precision, .exact remembered⟩ := by
  simp [addHash, known]

theorem addHash_of_length_lt (fresh : hash ∉ remembered) (room : remembered.length < 64) :
    (addHash ⟨precision, .exact remembered⟩ hash).1 =
      ⟨precision, .exact (remembered ++ [hash])⟩ := by
  simp [addHash, exactLimit, fresh, room]

/-- A fresh hash that does not fit goes into a sketch with all that are remembered. -/
theorem addHash_of_length_ge (fresh : hash ∉ remembered) (full : 64 ≤ remembered.length) :
    (addHash ⟨precision, .exact remembered⟩ hash).1 =
      ⟨precision, .approximate (Sketch.ofHashes precision (remembered ++ [hash]))⟩ := by
  simp [addHash, exactLimit, fresh, Nat.not_lt.mpr full, Sketch.ofHashes]

/-- As many hashes are remembered as there are distinct ones. -/
theorem card_eq_length (distinct : remembered.Nodup)
    (same : ∀ hash, hash ∈ remembered ↔ hash ∈ hashes) :
    hashes.toFinset.card = remembered.length := by
  have sets : hashes.toFinset = remembered.toFinset := by
    ext hash
    simpa using (same hash).symm
  rw [sets, List.toFinset_card_of_nodup distinct]

/-- More hashes are no fewer distinct ones. -/
theorem card_toFinset_le_append (hashes later : List UInt64) :
    hashes.toFinset.card ≤ (hashes ++ later).toFinset.card := by
  rw [List.toFinset_append]
  exact Finset.card_le_card Finset.subset_union_left

/-- A set goes on counting, whether the next hash is known, fits, or does not fit. -/
theorem Counts.addHash (counts : Counts precision hashes set) (hash : UInt64) :
    Counts precision (hashes ++ [hash]) (set.addHash hash).1 := by
  cases counts with
  | exact distinct fits same =>
    rename_i remembered
    have more (other : UInt64) : other ∈ remembered ++ [hash] ↔ other ∈ hashes ++ [hash] := by
      simp [same]
    by_cases known : hash ∈ remembered
    · rw [addHash_of_mem known]
      refine .exact distinct fits fun other => ?_
      rw [← more, List.mem_append, List.mem_singleton]
      exact ⟨.inl, fun either => either.elim id (· ▸ known)⟩
    · have longer : (remembered ++ [hash]).Nodup := by
        rw [List.nodup_append_comm]
        exact List.nodup_cons.mpr ⟨known, distinct⟩
      by_cases room : remembered.length < 64
      · rw [addHash_of_length_lt known room]
        have fits : (remembered ++ [hash]).length ≤ 64 := by
          rw [List.length_append]
          exact room
        exact .exact longer fits more
      · -- All that are remembered are distinct from each other and from this one.
        have many : 64 < (hashes ++ [hash]).toFinset.card := by
          rw [card_eq_length longer more, List.length_append, List.length_singleton]
          omega
        rw [addHash_of_length_ge known (Nat.le_of_not_lt room), Sketch.ofHashes_congr more]
        exact .approximate many
  | approximate many =>
    show Counts _ _ ⟨precision, .approximate ((Sketch.ofHashes precision hashes).addHash hash)⟩
    rw [← Sketch.ofHashes_append_singleton]
    exact .approximate (many.trans_le (card_toFinset_le_append hashes [hash]))

/-- Whether a set counts exactly is decided by how many distinct hashes there are. -/
theorem Counts.isExact_iff (counts : Counts precision hashes set) :
    set.isExact ↔ hashes.toFinset.card ≤ 64 := by
  cases counts with
  | exact distinct fits same => simpa [isExact, card_eq_length distinct same] using fits
  | approximate many => simpa [isExact] using many

theorem Counts.size_eq (counts : Counts precision hashes set) :
    set.size =
      if hashes.toFinset.card ≤ 64 then hashes.toFinset.card
      else (Sketch.ofHashes precision hashes).size.ceil.toUInt64.toNat := by
  cases counts with
  | exact distinct fits same =>
    have count := card_eq_length distinct same
    rw [if_pos (count.trans_le fits), count]
    rfl
  | approximate many =>
    rw [if_neg (Nat.not_le.mpr many)]
    rfl

theorem Counts.tally_eq (counts : Counts precision hashes set)
    (many : 64 < hashes.toFinset.card) :
    set.tally = .approximate (Sketch.ofHashes precision hashes) := by
  cases counts with
  | exact distinct fits same =>
    rw [card_eq_length distinct same] at many
    exact absurd fits (Nat.not_le.mpr many)
  | approximate many => rfl

variable (hasher : ByteArray → UInt64)

/-- The set of some keys, added in order. -/
def ofKeys (precision : Precision) (keys : List ByteArray) : DistinctSet :=
  keys.foldl (fun set key => (set.addHash (hasher key)).1) (empty precision)

theorem counts_ofKeys (precision : Precision) (keys : List ByteArray) :
    Counts precision (keys.map hasher) (ofKeys hasher precision keys) := by
  induction keys using List.reverseRecOn with
  | nil => exact .exact List.nodup_nil (Nat.zero_le _) fun _ => Iff.rfl
  | append_singleton keys key recursion =>
    rw [List.map_append, ofKeys, List.foldl_append]
    exact recursion.addHash (hasher key)

/-- Adding a key answers, whether or not it turns the set into a sketch. -/
theorem outcome_add {ε : Type} (set : DistinctSet) (key : ByteArray) :
    (set.add hasher key : Traced ε DistinctSet).outcome = .ok (set.addHash (hasher key)).1 := by
  rw [add]
  generalize set.addHash (hasher key) = added
  obtain ⟨next, turned⟩ := added
  cases turned <;> rfl

/-- Adding keys always answers. -/
theorem outcome_foldlM_add {ε : Type} (precision : Precision) (keys : List ByteArray) :
    (keys.foldlM (add hasher) (empty precision) : Traced ε DistinctSet).outcome =
      .ok (ofKeys hasher precision keys) := by
  rw [Traced.outcome_foldlM]
  simp only [outcome_add]
  exact List.foldlM_pure

/-- The distinct hashes of some keys. -/
def distinctHashes (keys : List ByteArray) : Finset UInt64 :=
  (keys.map hasher).toFinset

/-- Adding keys to a sketch adds their hashes. -/
theorem foldl_add_eq_ofHashes (precision : Precision) (keys : List ByteArray) :
    keys.foldl (Sketch.add hasher) (.empty precision) =
      Sketch.ofHashes precision (keys.map hasher) := by
  rw [Sketch.ofHashes, List.foldl_map]
  rfl

/-- Keys can be added in any number. While there are at most 64 distinct hashes among them,
the set counts these exactly; once there are more, it is the sketch to which every key was
added, and answers the next whole number to its estimate. So the answers depend only on which
hashes there are, and a set that stopped counting exactly never does so again. -/
theorem counts_of_keys (ε : Type) (precision : Precision) (keys : List ByteArray) :
    (keys.foldlM (add hasher) (empty precision) : Traced ε DistinctSet).outcome =
      .ok (ofKeys hasher precision keys) ∧
    ((ofKeys hasher precision keys).isExact ↔ (distinctHashes hasher keys).card ≤ 64) ∧
    ((ofKeys hasher precision keys).size =
      if (distinctHashes hasher keys).card ≤ 64 then (distinctHashes hasher keys).card
      else (keys.foldl (Sketch.add hasher) (.empty precision)).size.ceil.toUInt64.toNat) ∧
    (64 < (distinctHashes hasher keys).card →
      (ofKeys hasher precision keys).tally =
        .approximate (keys.foldl (Sketch.add hasher) (.empty precision))) ∧
    (∀ others : List ByteArray, distinctHashes hasher others = distinctHashes hasher keys →
      (ofKeys hasher precision others).isExact = (ofKeys hasher precision keys).isExact ∧
        (ofKeys hasher precision others).size = (ofKeys hasher precision keys).size) ∧
    (∀ later : List ByteArray, (ofKeys hasher precision keys).isExact = false →
      (ofKeys hasher precision (keys ++ later)).isExact = false) := by
  have counts := counts_ofKeys hasher precision keys
  rw [foldl_add_eq_ofHashes]
  refine ⟨outcome_foldlM_add hasher precision keys, counts.isExact_iff, counts.size_eq,
    counts.tally_eq, ?_, ?_⟩
  · intro others same
    have also := counts_ofKeys hasher precision others
    have sketches : Sketch.ofHashes precision (others.map hasher) =
        Sketch.ofHashes precision (keys.map hasher) := by
      apply Sketch.ofHashes_congr
      intro hash
      rw [← List.mem_toFinset, ← List.mem_toFinset]
      exact iff_of_eq (congrArg (hash ∈ ·) same)
    have cards : (others.map hasher).toFinset.card = (keys.map hasher).toFinset.card :=
      congrArg Finset.card same
    constructor
    · rw [Bool.eq_iff_iff, also.isExact_iff, counts.isExact_iff, cards]
    · rw [also.size_eq, counts.size_eq, cards, sketches]
  · intro later stopped
    have longer := counts_ofKeys hasher precision (keys ++ later)
    have atLeast := card_toFinset_le_append (keys.map hasher) (later.map hasher)
    rw [← List.map_append] at atLeast
    rw [← Bool.not_eq_true, counts.isExact_iff, Nat.not_le] at stopped
    rw [← Bool.not_eq_true, longer.isExact_iff, Nat.not_le]
    exact stopped.trans_le atLeast

/-- Keys of one byte, each with a hash of its own: 64 of them are counted, one more turns the
set into a sketch, and the order and the repetition of all of them change nothing. -/
theorem counts_of_bytes :
    let precision : Precision := ⟨4, by decide, by decide⟩
    let keys : List ByteArray := (List.range 65).map fun byte => ⟨#[byte.toUInt8]⟩
    (ofKeys hashKey precision (keys.take 64)).isExact ∧
      (ofKeys hashKey precision (keys.take 64)).size = 64 ∧
      64 < (distinctHashes hashKey keys).card ∧
      (ofKeys hashKey precision keys).tally =
        .approximate (keys.foldl (Sketch.add hashKey) (.empty precision)) ∧
      (ofKeys hashKey precision keys).isExact = false ∧
      (ofKeys hashKey precision (keys ++ keys)).isExact = false ∧
      distinctHashes hashKey (keys.reverse ++ keys) = distinctHashes hashKey keys ∧
      (ofKeys hashKey precision (keys.reverse ++ keys)).size =
        (ofKeys hashKey precision keys).size := by
  intro precision keys
  have distinct : (keys.map hashKey).Nodup := by decide +kernel
  have all : (distinctHashes hashKey keys).card = 65 := List.toFinset_card_of_nodup distinct
  have most : (distinctHashes hashKey (keys.take 64)).card = 64 := by
    have fewer : ((keys.take 64).map hashKey).Nodup :=
      distinct.sublist ((List.take_sublist 64 keys).map hashKey)
    exact List.toFinset_card_of_nodup fewer
  have again : distinctHashes hashKey (keys.reverse ++ keys) = distinctHashes hashKey keys := by
    ext hash
    simp [distinctHashes]
  obtain ⟨-, exact, size, -⟩ := counts_of_keys hashKey Empty precision (keys.take 64)
  obtain ⟨-, stops, -, sketch, orders, stays⟩ := counts_of_keys hashKey Empty precision keys
  have stopped : (ofKeys hashKey precision keys).isExact = false := by
    rw [← Bool.not_eq_true, stops, all]
    decide
  rw [most, if_pos le_rfl] at size
  exact ⟨exact.mpr most.le, size, by rw [all]; decide, sketch (by rw [all]; decide), stopped,
    stays keys stopped, again, (orders _ again).2⟩

end Telemetry.DistinctSet
