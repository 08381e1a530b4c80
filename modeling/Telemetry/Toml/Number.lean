/-
# Numbers

Integers are written in decimal with an optional sign and no zero in front, or without
a sign in base 16, 8 or 2. A fraction or an exponent makes a float, which keeps the
sign of its zero. Underscores may stand between digits. An integer has to fit in 64
bits; a float too large is refused, unless it is negative, when it becomes infinite.
-/

import Telemetry.Decimal.Nearest
import Telemetry.Toml.Character

namespace Telemetry.Toml.Number

/-- The digits at the front of a text, each with or without an underscore before it, and
what is left after them. -/
def moreDigits (isDigit : Char → Bool) : List Char → List Char × List Char
  | '_' :: digit :: rest =>
    if isDigit digit then
      let (digits, rest) := moreDigits isDigit rest
      (digit :: digits, rest)
    else ([], '_' :: digit :: rest)
  | digit :: rest =>
    if isDigit digit then
      let (digits, rest) := moreDigits isDigit rest
      (digit :: digits, rest)
    else ([], digit :: rest)
  | [] => ([], [])

/-- One digit or more, and what is left after them. -/
def digits? (isDigit : Char → Bool) : List Char → Option (List Char × List Char)
  | digit :: rest =>
    if isDigit digit then
      let (digits, rest) := moreDigits isDigit rest
      some (digit :: digits, rest)
    else none
  | [] => none

/-- Whether a minus sign comes first, and what is left after a sign. -/
def readSign : List Char → Bool × List Char
  | '-' :: rest => (true, rest)
  | '+' :: rest => (false, rest)
  | text => (false, text)

/-- The digits of a whole number. A zero at the front has no digit after it. -/
def whole? : List Char → Option (List Char × List Char)
  | '0' :: rest => some (['0'], rest)
  | text => digits? Char.isDigit text

/-- The integer that a sign and a magnitude make, if it fits in 64 bits. -/
def integer? (negative : Bool) (magnitude : Nat) : Option Int :=
  let integer : Int := if negative then -magnitude else magnitude
  if -0x8000000000000000 ≤ integer ∧ integer < 0x8000000000000000 then some integer else none

/-- A magnitude in a base other than ten. -/
def readBased? (base : Nat) (isDigit : Char → Bool) (text : List Char) :
    Option (Int × List Char) := do
  let (digits, rest) ← digits? isDigit text
  return (← integer? false (numberOf base digits), rest)

/-- An integer, and what is left after it. -/
def readInteger? (text : List Char) : Option (Int × List Char) :=
  match text with
  | '0' :: 'x' :: rest => readBased? 16 (fun char => (hexDigit? char).isSome) rest
  | '0' :: 'o' :: rest => readBased? 8 (fun char => '0' ≤ char && char ≤ '7') rest
  | '0' :: 'b' :: rest => readBased? 2 (fun char => char == '0' || char == '1') rest
  | _ => do
    let (negative, rest) := readSign text
    let (digits, rest) ← whole? rest
    return (← integer? negative (numberOf 10 digits), rest)

/-- The digits after the point, which are none where there is no point. -/
def readFraction? : List Char → Option (List Char × List Char)
  | '.' :: rest => digits? Char.isDigit rest
  | text => some ([], text)

/-- The power of ten after an exponent mark, if there is a mark. -/
def readExponent? : List Char → Option (Option Int × List Char)
  | 'e' :: rest | 'E' :: rest => do
    let (negative, rest) := readSign rest
    let (digits, rest) ← digits? Char.isDigit rest
    let magnitude : Int := numberOf 10 digits
    return (some (if negative then -magnitude else magnitude), rest)
  | text => some (none, text)

/-- The double that digits around a point and a power of ten denote. -/
def float? (negative : Bool) (whole fraction : List Char) (exponent : Int) : Option Float :=
  let decimal : Decimal := ⟨numberOf 10 (whole ++ fraction), exponent - fraction.length⟩
  if decimal.nearest = Binary64.Grid.infinity ∧ !negative then none
  else some (decimal.toFloat negative)

/-- The names of the doubles that have no digits. -/
def readSpecial? (negative : Bool) : List Char → Option (Float × List Char)
  | 'i' :: 'n' :: 'f' :: rest => some (if negative then -1 / 0 else 1 / 0, rest)
  | 'n' :: 'a' :: 'n' :: rest => some (0 / 0, rest)
  | _ => none

/-- A float, and what is left after it. A number with neither a fraction nor an exponent
is none. -/
def readFloat? (text : List Char) : Option (Float × List Char) :=
  let (negative, rest) := readSign text
  match whole? rest with
  | none => readSpecial? negative rest
  | some (whole, rest) => do
    let (fraction, rest) ← readFraction? rest
    let (exponent?, rest) ← readExponent? rest
    if fraction.isEmpty && exponent?.isNone then none
    else return (← float? negative whole fraction (exponent?.getD 0), rest)

end Telemetry.Toml.Number
