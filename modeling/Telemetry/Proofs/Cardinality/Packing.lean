/-
# Registers in words

A word is read bit by bit: a field is six bits of it, and writing a field replaces these
six bits and no other. Registers are canonical when nothing is set outside of the ones
that are meant. Canonical registers of one length are equal as soon as they read equal,
so comparing the words compares the values.
-/

import Mathlib.Data.Nat.Bitwise
import Telemetry.Cardinality.Registers

namespace Telemetry.Cardinality.Registers

section Words

variable {word shift : UInt32} {value : UInt8}

theorem testBit_shiftLeft (inside : shift.toNat < 32) (place : Nat) :
    (word <<< shift).toNat.testBit place =
      (decide (place < 32) && (decide (shift.toNat ≤ place) &&
        word.toNat.testBit (place - shift.toNat))) := by
  rw [UInt32.toNat_shiftLeft, Nat.mod_eq_of_lt inside, Nat.testBit_mod_two_pow,
    Nat.testBit_shiftLeft]

theorem testBit_complement (place : Nat) :
    (~~~word).toNat.testBit place = (decide (place < 32) && !word.toNat.testBit place) := by
  have bounded : word.toNat < 2 ^ 32 := word.toNat_lt
  have complement : (~~~word).toNat = 2 ^ 32 - (word.toNat + 1) := by
    rw [UInt32.toNat_not, Nat.add_comm, Nat.sub_add_eq]
    rfl
  rw [complement, Nat.testBit_two_pow_sub_succ bounded]

theorem testBit_mask (place : Nat) : mask.toNat.testBit place = decide (place < 6) :=
  Nat.testBit_two_pow_sub_one 6 place

theorem testBit_and_mask (place : Nat) :
    (word &&& mask).toNat.testBit place = (decide (place < 6) && word.toNat.testBit place) := by
  rw [UInt32.toNat_and, Nat.testBit_and, testBit_mask, Bool.and_comm]

/-- A field is the six bits from its shift on. -/
theorem testBit_field (inside : shift.toNat < 32) (place : Nat) :
    (field word shift).toNat.testBit place =
      (decide (place < 6) && word.toNat.testBit (shift.toNat + place)) := by
  rw [field, UInt32.toNat_toUInt8, Nat.testBit_mod_two_pow, testBit_and_mask,
    UInt32.toNat_shiftRight, Nat.testBit_shiftRight, Nat.mod_eq_of_lt inside]
  by_cases low : place < 6
  · simp [low, show place < 8 by omega]
  · simp [low]

theorem field_lt (inside : shift.toNat < 32) : (field word shift).toNat < 2 ^ 6 := by
  apply Nat.lt_pow_two_of_testBit
  intro place high
  simp [testBit_field inside, show ¬ place < 6 by omega]

/-- Writing replaces the six bits from the shift on and leaves the others. -/
theorem testBit_withField (fits : shift.toNat + 6 ≤ 32) (place : Nat) :
    (withField word shift value).toNat.testBit place =
      if shift.toNat ≤ place ∧ place < shift.toNat + 6 then
        value.toNat.testBit (place - shift.toNat)
      else word.toNat.testBit place := by
  have inside : shift.toNat < 32 := by omega
  rw [withField, UInt32.toNat_or, Nat.testBit_or, UInt32.toNat_and, Nat.testBit_and,
    testBit_complement, testBit_shiftLeft inside, testBit_shiftLeft inside, testBit_and_mask,
    testBit_mask, UInt8.toNat_toUInt32]
  -- Four kinds of places: below the field, in it, above it, and past the word.
  by_cases short : place < 32
  · by_cases above : shift.toNat ≤ place
    · by_cases within : place < shift.toNat + 6
      · simp [short, above, within, show place - shift.toNat < 6 by omega]
      · simp [short, above, within, show ¬ place - shift.toNat < 6 by omega]
    · simp [short, above]
  · have beyond : word.toNat.testBit place = false :=
      Nat.testBit_lt_two_pow (word.toNat_lt.trans_le (Nat.pow_le_pow_right (by decide) (by omega)))
    simp [short, beyond, show ¬ place < shift.toNat + 6 by omega]

/-- A field that was written reads as the six bits that were kept. -/
theorem field_withField (fits : shift.toNat + 6 ≤ 32) :
    (field (withField word shift value) shift).toNat = value.toNat % 2 ^ 6 := by
  apply Nat.eq_of_testBit_eq
  intro place
  rw [testBit_field (by omega), testBit_withField fits, Nat.testBit_mod_two_pow]
  by_cases low : place < 6
  · simp [low]
  · simp [low]

/-- Writing a field leaves those that do not overlap it. -/
theorem field_withField_of_disjoint {written : UInt32} (fits : written.toNat + 6 ≤ 32)
    (inside : shift.toNat < 32)
    (disjoint : written.toNat + 6 ≤ shift.toNat ∨ shift.toNat + 6 ≤ written.toNat) :
    field (withField word written value) shift = field word shift := by
  apply UInt8.toNat_inj.mp
  apply Nat.eq_of_testBit_eq
  intro place
  rw [testBit_field inside, testBit_field inside, testBit_withField fits]
  by_cases low : place < 6
  · rw [if_neg (by omega)]
  · simp [low]

/-- Writing a field below the spare bits leaves these as they are. -/
theorem withField_lt (below : shift.toNat + 6 ≤ 30) (spare : word.toNat < 2 ^ 30) :
    (withField word shift value).toNat < 2 ^ 30 := by
  apply Nat.lt_pow_two_of_testBit
  intro place high
  rw [testBit_withField (by omega), if_neg (by omega)]
  exact Nat.testBit_lt_two_pow (spare.trans_le (Nat.pow_le_pow_right (by decide) high))

end Words

/-- The fields of a word stand side by side, none of them in the spare bits. -/
theorem toNat_shiftOf (index : Nat) : (shiftOf index).toNat = 6 * (index % 5) := by
  rw [shiftOf, UInt32.toNat_ofNat']
  exact Nat.mod_eq_of_lt (by omega)

theorem shiftOf_le (index : Nat) : (shiftOf index).toNat + 6 ≤ 30 := by
  rw [toNat_shiftOf]
  omega

theorem shiftOf_lt (index : Nat) : (shiftOf index).toNat < 32 := by
  rw [toNat_shiftOf]
  omega

/-- Words without spare bits are equal when their fields are. -/
theorem eq_of_fields {word other : UInt32} (spare : word.toNat < 2 ^ 30)
    (otherSpare : other.toNat < 2 ^ 30)
    (fields : ∀ index < 5, field word (shiftOf index) = field other (shiftOf index)) :
    word = other := by
  apply UInt32.toNat_inj.mp
  apply Nat.eq_of_testBit_eq
  intro place
  by_cases low : place < 30
  · -- The bit is number `place % 6` of the field number `place / 6`.
    have same := congrArg (fun value => value.toNat.testBit (place % 6))
      (fields (place / 6) (by omega))
    have inside := shiftOf_lt (place / 6)
    have split : 6 * (place / 6 % 5) + place % 6 = place := by omega
    simpa [testBit_field inside, toNat_shiftOf, split, Nat.mod_lt] using same
  · have high : 2 ^ 30 ≤ 2 ^ place := Nat.pow_le_pow_right (by decide) (by omega)
    rw [Nat.testBit_lt_two_pow (spare.trans_le high),
      Nat.testBit_lt_two_pow (otherSpare.trans_le high)]

section Rows

variable {registers first second : Registers} {index place : Nat} {value : UInt8}

theorem get_eq_field (within : wordOf index < registers.words.size) :
    registers.get index = field registers.words[wordOf index] (shiftOf index) := by
  simp [get, get?, within]

theorem get_eq_zero_of_size_le (outside : registers.words.size ≤ wordOf index) :
    registers.get index = 0 := by
  simp [get, get?, Array.getElem?_eq_none outside]

theorem get?_eq_some_get (within : wordOf index < registers.words.size) :
    registers.get? index = some (registers.get index) := by
  simp [get, get?, within]

/-- Every register reads as six bits. -/
theorem get_lt (registers : Registers) (index : Nat) : (registers.get index).toNat < 2 ^ 6 := by
  by_cases within : wordOf index < registers.words.size
  · rw [get_eq_field within]
    exact field_lt (shiftOf_lt index)
  · rw [get_eq_zero_of_size_le (by omega)]
    decide

/-- Registers with one of them written. -/
def put (registers : Registers) (index : Nat) (value : UInt8)
    (within : wordOf index < registers.words.size) : Registers :=
  { registers with
    words := registers.words.set (wordOf index)
      (withField registers.words[wordOf index] (shiftOf index) value) }

theorem size_words_put (within : wordOf index < registers.words.size) :
    (registers.put index value within).words.size = registers.words.size :=
  Array.size_set within

theorem getElem_words_put (within : wordOf index < registers.words.size) {word : Nat}
    (inside : word < (registers.put index value within).words.size)
    (before : word < registers.words.size) :
    (registers.put index value within).words[word] =
      if wordOf index = word then
        withField registers.words[wordOf index] (shiftOf index) value
      else registers.words[word] :=
  Array.getElem_set within _

theorem raise_eq (within : wordOf index < registers.words.size) :
    registers.raise index value =
      if registers.get index < value then registers.put index value within else registers := by
  rw [raise, dif_pos within, get_eq_field within]
  rfl

/-- Two registers of one word have different shifts. -/
theorem disjoint_shiftOf (different : index ≠ place) (same : wordOf index = wordOf place) :
    (shiftOf index).toNat + 6 ≤ (shiftOf place).toNat ∨
      (shiftOf place).toNat + 6 ≤ (shiftOf index).toNat := by
  rw [toNat_shiftOf, toNat_shiftOf]
  simp only [wordOf] at same
  omega

/-- The register that was written reads as the six bits that were kept, and every other
one as before. -/
theorem toNat_get_put (within : wordOf index < registers.words.size) (place : Nat) :
    ((registers.put index value within).get place).toNat =
      if place = index then value.toNat % 2 ^ 6 else (registers.get place).toNat := by
  by_cases inside : wordOf place < registers.words.size
  · rw [get_eq_field (inside.trans_eq (size_words_put within).symm), get_eq_field inside,
      getElem_words_put within _ inside]
    by_cases same : wordOf index = wordOf place
    · rw [if_pos same]
      by_cases equal : place = index
      · subst equal
        rw [if_pos rfl, field_withField ((shiftOf_le place).trans (by decide))]
      · rw [if_neg equal, field_withField_of_disjoint ((shiftOf_le index).trans (by decide))
          (shiftOf_lt place) (disjoint_shiftOf (Ne.symm equal) same)]
        simp only [same]
    · have different : place ≠ index := fun equal => same (congrArg wordOf equal.symm)
      rw [if_neg same, if_neg different]
  · have different : place ≠ index := by
      rintro rfl
      exact inside within
    have outside := Nat.le_of_not_lt inside
    rw [if_neg different, get_eq_zero_of_size_le outside,
      get_eq_zero_of_size_le ((size_words_put within).trans_le outside)]

@[simp] theorem get_blank (length index : Nat) : (blank length).get index = 0 := by
  by_cases within : wordOf index < (blank length).words.size
  · rw [get_eq_field within]
    apply UInt8.toNat_inj.mp
    apply Nat.eq_of_testBit_eq
    intro place
    simp [testBit_field (shiftOf_lt index), blank]
  · exact get_eq_zero_of_size_le (Nat.le_of_not_lt within)

/-- Nothing is set but in the registers that are meant, and there is a word for each. -/
structure Canonical (registers : Registers) : Prop where
  size_words : registers.words.size = (registers.length + 4) / 5
  spare : ∀ word ∈ registers.words, word.toNat < 2 ^ 30
  unmeant : ∀ index, registers.length ≤ index → registers.get index = 0

theorem canonical_blank (length : Nat) : (blank length).Canonical where
  size_words := Array.size_replicate
  spare word member := by
    rw [Array.eq_of_mem_replicate member]
    decide
  unmeant index _ := get_blank length index

namespace Canonical

theorem within (canonical : registers.Canonical) (meant : index < registers.length) :
    wordOf index < registers.words.size := by
  rw [canonical.size_words, wordOf]
  omega

theorem put (canonical : registers.Canonical) (meant : index < registers.length)
    (value : UInt8) : (registers.put index value (canonical.within meant)).Canonical where
  size_words := (size_words_put _).trans canonical.size_words
  spare word member := by
    obtain ⟨place, inside, rfl⟩ := Array.getElem_of_mem member
    rw [getElem_words_put _ inside (inside.trans_eq (size_words_put _))]
    split
    · exact withField_lt (shiftOf_le index) (canonical.spare _ (Array.getElem_mem _))
    · exact canonical.spare _ (Array.getElem_mem _)
  unmeant place beyond := by
    apply UInt8.toNat_inj.mp
    have unmeant : registers.length ≤ place := beyond
    have different : place ≠ index := by omega
    rw [toNat_get_put, if_neg different, canonical.unmeant place beyond]

/-- Canonical registers are told apart by what they read. -/
theorem ext (canonical : first.Canonical) (other : second.Canonical)
    (lengths : first.length = second.length)
    (reads : ∀ index < first.length, first.get index = second.get index) : first = second := by
  have sizes : first.words.size = second.words.size := by
    rw [canonical.size_words, other.size_words, lengths]
  have everywhere (index : Nat) : first.get index = second.get index := by
    by_cases meant : index < first.length
    · exact reads index meant
    · rw [canonical.unmeant index (by omega), other.unmeant index (by omega)]
  have words : first.words = second.words := by
    apply Array.ext sizes
    intro place inFirst inSecond
    apply eq_of_fields (canonical.spare _ (Array.getElem_mem _))
      (other.spare _ (Array.getElem_mem _))
    intro index low
    have same := everywhere (5 * place + index)
    have word : wordOf (5 * place + index) = place := by
      unfold wordOf
      omega
    have shift : shiftOf (5 * place + index) = shiftOf index := by
      unfold shiftOf
      rw [Nat.mul_add_mod]
    rw [get_eq_field (by omega), get_eq_field (by omega)] at same
    simpa only [word, shift] using same
  cases first
  cases second
  congr

/-- Raising keeps the larger value, as long as six bits hold it. -/
theorem toNat_get_raise (canonical : registers.Canonical) (meant : index < registers.length)
    (fits : value.toNat < 2 ^ 6) (place : Nat) :
    ((registers.raise index value).get place).toNat =
      if place = index then max (registers.get index).toNat value.toNat
      else (registers.get place).toNat := by
  rw [raise_eq (canonical.within meant)]
  split
  · rename_i larger
    have less : (registers.get index).toNat < value.toNat := UInt8.lt_iff_toNat_lt.mp larger
    rw [toNat_get_put, Nat.mod_eq_of_lt fits, max_eq_right less.le]
  · rename_i notLarger
    have atMost : value.toNat ≤ (registers.get index).toNat :=
      Nat.le_of_not_lt fun less => notLarger (UInt8.lt_iff_toNat_lt.mpr less)
    rw [max_eq_left atMost]
    split
    · rename_i equal
      rw [equal]
    · rfl

theorem raise (canonical : registers.Canonical) (meant : index < registers.length)
    (value : UInt8) : (registers.raise index value).Canonical := by
  rw [raise_eq (canonical.within meant)]
  split
  · exact canonical.put meant value
  · exact canonical

end Canonical

theorem length_raise (registers : Registers) (index : Nat) (value : UInt8) :
    (registers.raise index value).length = registers.length := by
  unfold raise
  split
  · split <;> rfl
  · rfl

end Rows

end Telemetry.Cardinality.Registers
