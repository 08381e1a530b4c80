/-
# Rows of writes

To write registers one after the other is to keep, for each of them, six bits of the value that
was last written to it. The packed words keep nothing else: no spare bit and no register past the
ones that are meant is ever set. So two rows of one length compare equal as words just when they
read equal, however each of them came about.
-/

import Mathlib.Data.List.Induction
import Telemetry.Proofs.Cardinality.Packing

namespace Telemetry.Cardinality.Registers

/-- A value for a register. -/
structure Write where
  index : Nat
  value : UInt8

/-- Registers after writes in order, if there is a word for each of them. -/
def writeAll? (registers : Registers) (writes : List Write) : Option Registers :=
  writes.foldlM (fun registers write => registers.set? write.index write.value) registers

/-- The value last written to a register, or zero if there is none. -/
def lastWritten (writes : List Write) (index : Nat) : UInt8 :=
  ((writes.reverse.find? (·.index == index)).map (·.value)).getD 0

variable {registers other : Registers} {length index : Nat} {writes : List Write} {write : Write}

@[simp] theorem lastWritten_nil (index : Nat) : lastWritten [] index = 0 := rfl

theorem lastWritten_append_singleton (writes : List Write) (write : Write) (index : Nat) :
    lastWritten (writes ++ [write]) index =
      if write.index = index then write.value else lastWritten writes index := by
  by_cases written : write.index = index
  · simp [lastWritten, written]
  · simp [lastWritten, written]

theorem writeAll?_append_singleton (written : writeAll? registers writes = some other)
    (write : Write) :
    writeAll? registers (writes ++ [write]) = other.set? write.index write.value := by
  rw [writeAll?] at written ⊢
  rw [List.foldlM_append, written]
  simp

theorem set?_eq_put {value : UInt8} (within : wordOf index < registers.words.size) :
    registers.set? index value = some (registers.put index value within) := by
  rw [set?, dif_pos within]
  rfl

/-- Registers that keep what was last written to each of them, and nothing else. -/
structure Keeps (registers : Registers) (length : Nat) (writes : List Write) : Prop where
  length_eq : registers.length = length
  canonical : registers.Canonical
  reads : ∀ index < length, registers.get index = lastWritten writes index % 64

theorem keeps_blank (length : Nat) : (blank length).Keeps length [] where
  length_eq := rfl
  canonical := canonical_blank length
  reads index _ := by
    rw [get_blank, lastWritten_nil]
    rfl

namespace Keeps

theorem put (keeps : registers.Keeps length writes) (meant : write.index < registers.length) :
    (registers.put write.index write.value (keeps.canonical.within meant)).Keeps length
      (writes ++ [write]) where
  length_eq := keeps.length_eq
  canonical := keeps.canonical.put meant write.value
  reads index within := by
    have before := congrArg UInt8.toNat (keeps.reads index within)
    apply UInt8.toNat_inj.mp
    rw [toNat_get_put, lastWritten_append_singleton]
    by_cases written : index = write.index
    · rw [if_pos written, if_pos written.symm]
      rfl
    · rw [if_neg written, if_neg (Ne.symm written), before]

/-- A register that is meant can always be written, and the row keeps one more write then. -/
theorem exists_set? (keeps : registers.Keeps length writes) (meant : write.index < length) :
    ∃ next, registers.set? write.index write.value = some next ∧
      next.Keeps length (writes ++ [write]) := by
  have meant : write.index < registers.length := meant.trans_eq keeps.length_eq.symm
  exact ⟨_, set?_eq_put (keeps.canonical.within meant), keeps.put meant⟩

theorem get?_eq (keeps : registers.Keeps length writes) (within : index < length) :
    registers.get? index = some (lastWritten writes index % 64) := by
  have meant : index < registers.length := within.trans_eq keeps.length_eq.symm
  rw [get?_eq_some_get (keeps.canonical.within meant), keeps.reads index within]

theorem toList_eq (keeps : registers.Keeps length writes) :
    registers.toList = (List.range length).map fun index => lastWritten writes index % 64 := by
  rw [toList, keeps.length_eq]
  apply List.map_congr_left
  intro index listed
  exact keeps.reads index (List.mem_range.mp listed)

/-- The two highest bits of every word stay zero. -/
theorem spare (keeps : registers.Keeps length writes) :
    ∀ word ∈ registers.words, word >>> 30 = 0 := by
  intro word member
  apply UInt32.toNat_inj.mp
  rw [UInt32.toNat_shiftRight, Nat.shiftRight_eq_div_pow]
  exact Nat.div_eq_of_lt (keeps.canonical.spare word member)

/-- So do the registers that the last word has room for and that are not meant. -/
theorem unmeant (keeps : registers.Keeps length writes) (beyond : length ≤ index)
    (room : index < 5 * registers.words.size) : registers.get? index = some 0 := by
  have within : wordOf index < registers.words.size := by
    rw [wordOf]
    omega
  rw [get?_eq_some_get within, keeps.canonical.unmeant index (keeps.length_eq.trans_le beyond)]

/-- Rows of one length are told apart by what they read. -/
theorem eq_iff {others : List Write} (keeps : registers.Keeps length writes)
    (also : other.Keeps length others) :
    registers = other ↔ ∀ index < length, registers.get? index = other.get? index := by
  constructor
  · rintro rfl index _
    rfl
  · intro same
    apply keeps.canonical.ext also.canonical (keeps.length_eq.trans also.length_eq.symm)
    intro index meant
    have read := same index (meant.trans_eq keeps.length_eq)
    rw [get, get, read]

end Keeps

/-- Writes to registers that are meant all succeed. -/
theorem exists_writeAll? (meant : ∀ write ∈ writes, write.index < length) :
    ∃ registers, writeAll? (blank length) writes = some registers ∧
      registers.Keeps length writes := by
  induction writes using List.reverseRecOn with
  | nil => exact ⟨blank length, rfl, keeps_blank length⟩
  | append_singleton writes write recursion =>
    obtain ⟨registers, written, keeps⟩ :=
      recursion fun write listed => meant write (List.mem_append_left _ listed)
    obtain ⟨next, set, kept⟩ := keeps.exists_set? (meant write (by simp))
    exact ⟨next, (writeAll?_append_singleton written write).trans set, kept⟩

/-- After any writes a row reads, one register at a time or all in order, as what was last written
to each register, cut to six bits. All other bits of its words are zero, and so comparing the words
of two rows compares what they read. -/
theorem array_of_writes (length : Nat) (writes others : List Write)
    (meant : ∀ write ∈ writes, write.index < length)
    (also : ∀ write ∈ others, write.index < length) :
    ∃ first second, writeAll? (blank length) writes = some first ∧
      writeAll? (blank length) others = some second ∧ first.length = length ∧
      (∀ index < length, first.get? index = some (lastWritten writes index % 64)) ∧
      first.toList = (List.range length).map (fun index => lastWritten writes index % 64) ∧
      (∀ word ∈ first.words, word >>> 30 = 0) ∧
      (∀ index, length ≤ index → index < 5 * first.words.size → first.get? index = some 0) ∧
      ((first == second) = true ↔ ∀ index < length, first.get? index = second.get? index) := by
  obtain ⟨first, written, keeps⟩ := exists_writeAll? meant
  obtain ⟨second, rewritten, kept⟩ := exists_writeAll? also
  exact ⟨first, second, written, rewritten, keeps.length_eq, fun index => keeps.get?_eq,
    keeps.toList_eq, keeps.spare, fun index => keeps.unmeant, beq_iff_eq.trans (keeps.eq_iff kept)⟩

/-- Seven registers take two words. The value 255 is cut to 63, and a write that is made again
later leaves no trace of the first one. -/
theorem array_of_three_writes :
    let writes : List Write := [⟨5, 200⟩, ⟨4, 255⟩, ⟨5, 1⟩]
    let others : List Write := [⟨5, 1⟩, ⟨4, 63⟩]
    (∀ write ∈ writes, write.index < 7) ∧ (∀ write ∈ others, write.index < 7) ∧
      ∃ first second, writeAll? (blank 7) writes = some first ∧
        writeAll? (blank 7) others = some second ∧ first.toList = [0, 0, 0, 0, 63, 1, 0] ∧
        first == second := by
  intro writes others
  have meant : ∀ write ∈ writes, write.index < 7 := by decide
  have also : ∀ write ∈ others, write.index < 7 := by decide
  obtain ⟨first, second, written, rewritten, -, reads, listed, -, -, same⟩ :=
    array_of_writes 7 writes others meant also
  obtain ⟨again, -, once, -, -, reread, -⟩ := array_of_writes 7 others writes also meant
  cases once.symm.trans rewritten
  refine ⟨meant, also, first, second, written, rewritten, listed.trans (by decide), same.mpr ?_⟩
  intro index within
  rw [reads index within, reread index within]
  revert index
  decide

end Telemetry.Cardinality.Registers
