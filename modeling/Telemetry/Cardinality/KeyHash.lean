/-
# Hashing keys

Keys are hashed to 128 bits, sixteen bytes at a time, in the mixing scheme of
MurmurHash3 for 64-bit words with seed zero. The second word of the result stands for
the key. A last block of fewer than sixteen bytes is filled up with zeros, which leave
the state alone, and is mixed in without stirring.
-/

namespace Telemetry.Cardinality.KeyHash

/-- The two words that are carried from block to block. -/
structure State where
  first : UInt64
  second : UInt64

/-- Turn a word left. -/
def rotate (word amount : UInt64) : UInt64 :=
  (word <<< amount) ||| (word >>> (64 - amount))

/-- The first multiplier. -/
def firstFactor : UInt64 :=
  0x87c37b91114253d5

/-- The second multiplier. -/
def secondFactor : UInt64 :=
  0x4cf5ad432745937f

/-- The word whose bytes are given, the least significant first. -/
def word (bytes : List UInt8) : UInt64 :=
  bytes.foldr (fun byte higher => (higher <<< 8) ||| byte.toUInt64) 0

/-- What the lower half of a block contributes. -/
def lowPart (block : List UInt8) : UInt64 :=
  rotate (word (block.take 8) * firstFactor) 31 * secondFactor

/-- What the upper half of a block contributes. -/
def highPart (block : List UInt8) : UInt64 :=
  rotate (word (block.drop 8) * secondFactor) 33 * firstFactor

/-- Mix a block in without stirring. -/
def absorb (state : State) (block : List UInt8) : State :=
  ⟨state.first ^^^ lowPart block, state.second ^^^ highPart block⟩

/-- Mix a full block in: each word takes its half of the block, is turned, takes in the
other word, and is spread by a small multiple. -/
def stir (state : State) (block : List UInt8) : State :=
  let first := (rotate (state.first ^^^ lowPart block) 27 + state.second) * 5 + 0x52dce729
  let second := (rotate (state.second ^^^ highPart block) 31 + first) * 5 + 0x38495ab5
  ⟨first, second⟩

/-- Mix in the blocks of a key. -/
def blocks (state : State) (key : List UInt8) : State :=
  if 16 ≤ key.length then blocks (stir state (key.take 16)) (key.drop 16)
  else absorb state key
termination_by key.length
decreasing_by simp; omega

/-- Let every bit of a word reach every other. -/
def avalanche (word : UInt64) : UInt64 :=
  let word := (word ^^^ (word >>> 33)) * 0xff51afd7ed558ccd
  let word := (word ^^^ (word >>> 33)) * 0xc4ceb9fe1a85ec53
  word ^^^ (word >>> 33)

/-- Join the words with the length of the key and with each other. -/
def finish (state : State) (length : Nat) : State :=
  let first := state.first ^^^ UInt64.ofNat length
  let second := state.second ^^^ UInt64.ofNat length
  let first := first + second
  let second := second + first
  let first := avalanche first
  let second := avalanche second
  let first := first + second
  ⟨first, second + first⟩

end KeyHash

/-- The hash that stands for a key. -/
def hashKey (key : ByteArray) : UInt64 :=
  (KeyHash.finish (KeyHash.blocks ⟨0, 0⟩ key.toList) key.size).second

end Telemetry.Cardinality
