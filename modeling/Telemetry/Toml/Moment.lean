/-
# Dates and times

A date, a time of day, or both, the pair with or without an offset. Settings use no
dates; they are recognised because a document may hold them for other readers, and a
date that does not exist makes the whole document unreadable.
-/

import Telemetry.Toml.Character

namespace Telemetry.Toml.Moment

/-- A number of exactly so many decimal digits, and what is left after it. -/
def number? (count : Nat) (text : List Char) : Option (Nat × List Char) :=
  let digits := text.take count
  if digits.length = count ∧ digits.all Char.isDigit then
    some (numberOf 10 digits, text.drop count)
  else none

/-- Days of a month; February is longer in leap years. -/
def daysIn (year month : Nat) : Nat :=
  if month = 2 then
    if year % 4 = 0 ∧ (year % 100 ≠ 0 ∨ year % 400 = 0) then 29 else 28
  else if month = 4 ∨ month = 6 ∨ month = 9 ∨ month = 11 then 30
  else 31

/-- What is left after a date that exists. -/
def skipDate? (text : List Char) : Option (List Char) := do
  let (year, rest) ← number? 4 text
  let (month, rest) ← number? 2 (← after? '-' rest)
  let (day, rest) ← number? 2 (← after? '-' rest)
  if 1 ≤ month ∧ month ≤ 12 ∧ 1 ≤ day ∧ day ≤ daysIn year month then some rest else none

/-- What is left after hours and minutes. -/
def skipMinutes? (text : List Char) : Option (List Char) := do
  let (hour, rest) ← number? 2 text
  let (minute, rest) ← number? 2 (← after? ':' rest)
  if hour ≤ 23 ∧ minute ≤ 59 then some rest else none

/-- What is left after a fraction of a second, which need not be there. -/
def skipFraction : List Char → List Char
  | '.' :: digit :: rest =>
    if digit.isDigit then rest.dropWhile Char.isDigit else '.' :: digit :: rest
  | text => text

/-- What is left after a time of day; a minute may have a leap second. -/
def skipTime? (text : List Char) : Option (List Char) := do
  let (second, rest) ← number? 2 (← after? ':' (← skipMinutes? text))
  if second ≤ 60 then some (skipFraction rest) else none

/-- What is left after an offset, which need not be there. -/
def skipOffset? : List Char → Option (List Char)
  | 'Z' :: rest | 'z' :: rest => some rest
  | '+' :: rest | '-' :: rest => skipMinutes? rest
  | text => some text

/-- What is left after a time and an offset that follow a date, if they do. -/
def skipRest? : List Char → Option (List Char)
  | 'T' :: rest | 't' :: rest | ' ' :: rest => (skipTime? rest).bind skipOffset?
  | _ => none

/-- What is left after a date or time. -/
def skip? (text : List Char) : Option (List Char) :=
  match skipDate? text with
  | some rest => some ((skipRest? rest).getD rest)
  | none => skipTime? text

/-- The text of a date or time, and what is left after it. -/
def read? (text : List Char) : Option (List Char × List Char) :=
  (skip? text).map fun rest => (text.take (text.length - rest.length), rest)

end Telemetry.Toml.Moment
