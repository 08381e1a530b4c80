/-
# Reading documents

A document is read into statements, one line after the other; only arrays and strings
between tripled quotes span lines. Every reader answers what it has read with the text
that is left. Arrays and tables between braces nest to a limited depth, and keys have a
limited number of parts. The fuel of the recursive readers follows from the length of
the text: no two steps in a row leave all of it.
-/

import Telemetry.Toml.Moment
import Telemetry.Toml.Number
import Telemetry.Toml.Statement

namespace Telemetry.Toml

/-- Nested arrays and tables, and parts of a key, stay below this number. -/
def nestingLimit : Nat :=
  80

/-- One part of a key: bare, or a string that spans no lines. -/
def readPart? : List Char → Option (String × List Char)
  | '"' :: rest => (Quotation.basic.readBody? rest).map fun (part, rest) => (.ofList part, rest)
  | '\'' :: rest => (Quotation.literal.readBody? rest).map fun (part, rest) => (.ofList part, rest)
  | text =>
    let part := text.takeWhile isBare
    if part.isEmpty then none else some (.ofList part, text.dropWhile isBare)

/-- The parts of a key, with blanks around each of them. -/
def readParts? : (fuel : Nat) → List Char → Option (List String × List Char)
  | 0, _ => none
  | fuel + 1, text => do
    let (part, rest) ← readPart? (skipBlanks text)
    match skipBlanks rest with
    | '.' :: rest =>
      let (parts, rest) ← readParts? fuel rest
      return (part :: parts, rest)
    | rest => return ([part], rest)

/-- A key. -/
def readKey? (text : List Char) : Option (Key × List Char) := do
  let (parts, rest) ← readParts? (text.length + 1) text
  if nestingLimit ≤ parts.length then none
  else return (⟨parts.dropLast, ← parts.getLast?⟩, rest)

/-- What is left after blanks, line breaks and comments. A comment has to end with its
line. -/
def skipFiller? : (fuel : Nat) → List Char → Option (List Char)
  | 0, _ => none
  | fuel + 1, text =>
    match Quotation.skipSpace text with
    | '#' :: rest =>
      match lineBreak? (skipComment ('#' :: rest)) with
      | some rest => skipFiller? fuel rest
      | none => none
    | rest => some rest

/-- A date, a time, a float or an integer: whatever begins with a digit or a sign. -/
def readNumeric? (text : List Char) : Option (Term × List Char) :=
  match Moment.read? text with
  | some (moment, rest) => some (.moment (.ofList moment), rest)
  | none =>
    match Number.readFloat? text with
    | some (number, rest) => some (.float number, rest)
    | none => (Number.readInteger? text).map fun (number, rest) => (.integer number, rest)

/-- A value without parts. -/
def readScalar? : List Char → Option (Term × List Char)
  | 't' :: 'r' :: 'u' :: 'e' :: rest => some (.boolean true, rest)
  | 'f' :: 'a' :: 'l' :: 's' :: 'e' :: rest => some (.boolean false, rest)
  | char :: rest =>
    if char = '"' ∨ char = '\'' then
      (Quotation.read? (char :: rest)).map fun (content, rest) => (.text (.ofList content), rest)
    else if char.isDigit ∨ char = '+' ∨ char = '-' then readNumeric? (char :: rest)
    else (Number.readSpecial? false (char :: rest)).map fun (number, rest) => (.float number, rest)
  | [] => none

mutual

/-- A value inside so many arrays and tables. -/
def readTerm? : (fuel depth : Nat) → List Char → Option (Term × List Char)
  | 0, _, _ => none
  | fuel + 1, depth, '[' :: rest =>
    if depth + 1 < nestingLimit then
      (readElements? fuel (depth + 1) rest).map fun (elements, rest) => (.array elements, rest)
    else none
  | fuel + 1, depth, '{' :: rest =>
    if depth + 1 < nestingLimit then
      match skipBlanks rest with
      | '}' :: rest => some (.inline [], rest)
      | _ =>
        (readEntries? fuel (depth + 1) rest).map fun (entries, rest) => (.inline entries, rest)
    else none
  | _ + 1, _, text => readScalar? text

/-- The elements of an array up to its end. The last one may be followed by a comma. -/
def readElements? : (fuel depth : Nat) → List Char → Option (List Term × List Char)
  | 0, _, _ => none
  | fuel + 1, depth, text => do
    match ← skipFiller? (text.length + 1) text with
    | ']' :: rest => return ([], rest)
    | text =>
      let (element, rest) ← readTerm? fuel depth text
      match ← skipFiller? (rest.length + 1) rest with
      | ',' :: rest =>
        let (elements, rest) ← readElements? fuel depth rest
        return (element :: elements, rest)
      | ']' :: rest => return ([element], rest)
      | _ => none

/-- The entries of a table between braces up to its end, at least one of them. -/
def readEntries? : (fuel depth : Nat) → List Char → Option (List (Key × Term) × List Char)
  | 0, _, _ => none
  | fuel + 1, depth, text => do
    let (key, rest) ← readKey? text
    let (value, rest) ← readTerm? fuel depth (skipBlanks (← after? '=' rest))
    match skipBlanks rest with
    | ',' :: rest =>
      let (entries, rest) ← readEntries? fuel depth rest
      return ((key, value) :: entries, rest)
    | '}' :: rest => return ([(key, value)], rest)
    | _ => none

end

/-- The rest of a line that assigns, opens a table, or opens an element. -/
def readStatement? (text : List Char) : Option (Statement × List Char) := do
  match text with
  | '[' :: '[' :: rest =>
    let (key, rest) ← readKey? rest
    let rest ← after? ']' (← after? ']' rest)
    return (.openElement key, ← lineEnd? rest)
  | '[' :: rest =>
    let (key, rest) ← readKey? rest
    return (.openTable key, ← lineEnd? (← after? ']' rest))
  | _ =>
    let (key, rest) ← readKey? text
    let rest := skipBlanks (← after? '=' rest)
    let (value, rest) ← readTerm? (2 * rest.length + 2) 0 rest
    return (.assign key value, ← lineEnd? rest)

/-- The statements of a text. Lines may be empty or hold a comment alone. -/
def readStatements? : (fuel : Nat) → List Char → Option (List Statement)
  | 0, _ => none
  | fuel + 1, text =>
    match skipBlanks text with
    | [] => some []
    | char :: rest =>
      if char = '#' ∨ char = '\n' ∨ char = '\r' then do
        readStatements? fuel (← lineEnd? (char :: rest))
      else do
        let (statement, rest) ← readStatement? (char :: rest)
        return statement :: (← readStatements? fuel rest)

/-- The statements of a document, which may begin with a byte order mark. -/
def read? (document : String) : Option (List Statement) :=
  let text := match document.toList with
    | '\ufeff' :: rest => rest
    | text => text
  readStatements? (text.length + 1) text

end Telemetry.Toml
