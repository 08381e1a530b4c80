/-
# Packed registers

Registers hold six bits each, five to a word of 32 bits, the lowest bits first; the two
bits left over in every word stay zero. Any register within the words can be read and
written. Writing keeps six bits of the value and touches no other register.
-/

namespace Telemetry.Cardinality

/-- A row of six-bit registers. -/
structure Registers where
  words : Array UInt32
  /-- The number of registers meant; the last word may have room for more. -/
  length : Nat
deriving DecidableEq

namespace Registers

/-- The bits of a register, at the bottom of a word. -/
def mask : UInt32 :=
  0x3f

/-- The word a register is in. -/
def wordOf (index : Nat) : Nat :=
  index / 5

/-- How far up in its word a register is. -/
def shiftOf (index : Nat) : UInt32 :=
  UInt32.ofNat (6 * (index % 5))

/-- The register at a shift in a word. -/
def field (word shift : UInt32) : UInt8 :=
  ((word >>> shift) &&& mask).toUInt8

/-- A word with the register at a shift replaced. -/
def withField (word shift : UInt32) (value : UInt8) : UInt32 :=
  (word &&& ~~~(mask <<< shift)) ||| ((value.toUInt32 &&& mask) <<< shift)

/-- Registers that are all zero. -/
def blank (length : Nat) : Registers :=
  ⟨Array.replicate ((length + 4) / 5) 0, length⟩

/-- The value of a register, if there is a word for it. -/
def get? (registers : Registers) (index : Nat) : Option UInt8 :=
  registers.words[wordOf index]?.map (field · (shiftOf index))

/-- The value of a register; one without a word reads as zero. -/
def get (registers : Registers) (index : Nat) : UInt8 :=
  (registers.get? index).getD 0

/-- Write a register, if there is a word for it. -/
def set? (registers : Registers) (index : Nat) (value : UInt8) : Option Registers :=
  if within : wordOf index < registers.words.size then
    let word := withField registers.words[wordOf index] (shiftOf index) value
    some { registers with words := registers.words.set (wordOf index) word }
  else none

/-- Write a register unless it holds as much already. -/
def raise (registers : Registers) (index : Nat) (value : UInt8) : Registers :=
  if within : wordOf index < registers.words.size then
    if field registers.words[wordOf index] (shiftOf index) < value then
      let word := withField registers.words[wordOf index] (shiftOf index) value
      { registers with words := registers.words.set (wordOf index) word }
    else registers
  else registers

/-- The values in order. -/
def toList (registers : Registers) : List UInt8 :=
  (List.range registers.length).map registers.get

/-- The inner layout as text, for diagnosis. -/
def describe (registers : Registers) : String :=
  "Registers \x7b words: [" ++
    ", ".intercalate (registers.words.toList.map fun word => toString word.toNat) ++
    "], len: " ++ toString registers.length ++ " \x7d"

end Registers

end Telemetry.Cardinality
