/-
# Tables

The statements of a document build one table of tables. A table can come to be in four
ways, and they decide what may still be added to it. One between braces is complete.
One that has a heading of its own takes values below that heading only. One that a
longer heading implies can still get a heading, and one that a key of several parts
implies takes more keys of that kind. Nothing is ever given twice.
-/

import Telemetry.Toml.Statement

namespace Telemetry.Toml

/-- How a table came to be. -/
inductive Origin where
  /-- It was written between braces. -/
  | braces
  /-- It has a heading. -/
  | heading
  /-- It is on the way to a table with a heading. -/
  | headingPath
  /-- It is on the way to a value with a key of several parts. -/
  | keyPath
deriving DecidableEq, Repr

/-- What a name stands for in a table. -/
inductive Item where
  | text (content : String)
  | integer (number : Int)
  | float (number : Float)
  | boolean (truth : Bool)
  /-- A date or time, by its text. -/
  | moment (text : String)
  | array (elements : List Item)
  | table (origin : Origin) (entries : List (String × Item))
  /-- Tables under one heading, the last of which is still open. -/
  | tables (earlier : List (List (String × Item))) (last : List (String × Item))

/-- The names of a table with what they stand for, in order of appearance. -/
abbrev Entries := List (String × Item)

namespace Entries

/-- Let a name stand for something else; a new name comes last. -/
def set (name : String) (item : Item) : Entries → Entries
  | [] => [(name, item)]
  | (other, held) :: later =>
    if other = name then (name, item) :: later else (other, held) :: set name item later

/-- Follow the tables of a path and change the last of them. Tables that are missing are
made, as part of a heading or of a key. A key does not enter a table with a heading,
and nothing enters a table between braces; of several tables under one heading, the
last one is meant. -/
def alter? (inKey : Bool) (change : Origin → Entries → Option Entries) :
    List String → Origin → Entries → Option Entries
  | [], origin, entries => change origin entries
  | name :: path, _, entries =>
    match entries.lookup name with
    | none =>
      let origin := if inKey then Origin.keyPath else Origin.headingPath
      (alter? inKey change path origin []).map fun inner =>
        entries.set name (.table origin inner)
    | some (.table origin inner) =>
      if origin = .braces ∨ (inKey ∧ origin = .heading) then none
      else (alter? inKey change path origin inner).map fun inner =>
        entries.set name (.table origin inner)
    | some (.tables earlier last) =>
      (alter? inKey change path .heading last).map fun last =>
        entries.set name (.tables earlier last)
    | some _ => none

/-- Give a new key a value. A key of several parts ends in a table that such keys made,
and a key of one part in any other. -/
def assign? (key : Key) (item : Item) (origin : Origin) (entries : Entries) : Option Entries :=
  alter? true
    (fun origin entries =>
      if key.tables.isEmpty = decide (origin = .keyPath) then none
      else if (entries.lookup key.last).isSome then none
      else some (entries.set key.last item))
    key.tables origin entries

/-- Give a table a heading. It is new, or has been implied by longer headings. -/
def openTable? (key : Key) (entries : Entries) : Option Entries :=
  alter? false
    (fun _ entries =>
      match entries.lookup key.last with
      | none => some (entries.set key.last (.table .heading []))
      | some (.table .headingPath inner) => some (entries.set key.last (.table .heading inner))
      | some _ => none)
    key.tables .heading entries

/-- Open one more of the tables under a heading. -/
def openElement? (key : Key) (entries : Entries) : Option Entries :=
  alter? false
    (fun _ entries =>
      match entries.lookup key.last with
      | none => some (entries.set key.last (.tables [] []))
      | some (.tables earlier last) => some (entries.set key.last (.tables (earlier ++ [last]) []))
      | some _ => none)
    key.tables .heading entries

end Entries

mutual

/-- The item that a written value stands for. -/
def Item.ofTerm? : Term → Option Item
  | .text content => some (.text content)
  | .integer number => some (.integer number)
  | .float number => some (.float number)
  | .boolean truth => some (.boolean truth)
  | .moment text => some (.moment text)
  | .array elements => (ofElements? elements).map .array
  | .inline entries => (ofEntries? [] entries).map (.table .braces)

/-- The items that the elements of an array stand for. -/
def ofElements? : List Term → Option (List Item)
  | [] => some []
  | element :: later => do
    let item ← Item.ofTerm? element
    return item :: (← ofElements? later)

/-- A table with the entries between braces added to it. -/
def ofEntries? (table : Entries) : List (Key × Term) → Option Entries
  | [] => some table
  | (key, value) :: later => do
    let item ← Item.ofTerm? value
    ofEntries? (← table.assign? key item .braces) later

end

/-- A document under construction: its table, and the path of the heading that values
belong under. -/
structure Draft where
  table : Entries
  heading : List String

namespace Draft

/-- Add a statement. -/
def add? (draft : Draft) : Statement → Option Draft
  | .assign key value => do
    let item ← Item.ofTerm? value
    let table ← draft.table.alter? false (Entries.assign? key item) draft.heading .heading
    return { draft with table := table }
  | .openTable key => do
    return ⟨← draft.table.openTable? key, key.tables ++ [key.last]⟩
  | .openElement key => do
    return ⟨← draft.table.openElement? key, key.tables ++ [key.last]⟩

end Draft

/-- The table that statements build, if they fit together. -/
def tableOf? (statements : List Statement) : Option Entries :=
  (statements.foldlM Draft.add? ⟨[], []⟩).map (·.table)

end Telemetry.Toml
