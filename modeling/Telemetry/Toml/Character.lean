/-
# Characters of a document

The classes of characters that a settings document is made of. Control characters are
admitted nowhere, apart from the tab; whatever is not ASCII is admitted in comments and
strings.
-/

namespace Telemetry.Toml

/-- A character that separates without ending a line. -/
def isBlank (char : Char) : Bool :=
  char == ' ' || char == '\t'

/-- A control character other than the tab and the newline. -/
def isControl (char : Char) : Bool :=
  char != '\t' && char != '\n' && (char.toNat < 0x20 || char.toNat == 0x7f)

/-- A character that a line of text may hold as it is. -/
def isPrintable (char : Char) : Bool :=
  char != '\n' && !isControl char

/-- A character of a key without quotes. -/
def isBare (char : Char) : Bool :=
  char.isAlphanum || char == '-' || char == '_'

/-- A character that stands for itself between double quotes. -/
def isPlain (char : Char) : Bool :=
  isPrintable char && char != '"' && char != '\\'

/-- What is left after blanks. -/
def skipBlanks (text : List Char) : List Char :=
  text.dropWhile isBlank

/-- What is left after a given character. -/
def after? (expected : Char) : List Char → Option (List Char)
  | char :: rest => if char = expected then some rest else none
  | [] => none

/-- What is left after one line break, if there is one. -/
def lineBreak? : List Char → Option (List Char)
  | '\n' :: rest => some rest
  | '\r' :: '\n' :: rest => some rest
  | _ => none

/-- What is left after a comment; text without one is left as it is. -/
def skipComment : List Char → List Char
  | '#' :: rest => rest.dropWhile isPrintable
  | text => text

/-- What is left after a line that holds nothing more, but blanks and a comment. -/
def lineEnd? (text : List Char) : Option (List Char) :=
  match skipComment (skipBlanks text) with
  | [] => some []
  | rest => lineBreak? rest

/-- The value of a hexadecimal digit. -/
def hexDigit? (char : Char) : Option Nat :=
  if char.isDigit then some (char.toNat - '0'.toNat)
  else if 'a' ≤ char ∧ char ≤ 'f' then some (char.toNat - 'a'.toNat + 10)
  else if 'A' ≤ char ∧ char ≤ 'F' then some (char.toNat - 'A'.toNat + 10)
  else none

/-- The number that digits write in a base. -/
def numberOf (base : Nat) (digits : List Char) : Nat :=
  digits.foldl (fun number digit => number * base + (hexDigit? digit).getD 0) 0

end Telemetry.Toml
