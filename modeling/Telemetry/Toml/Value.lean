/-
# Values

What a document holds, apart from how it is written: names that stand for values, in order
of appearance. A table is the same whether it was written between braces or has a heading,
and so is an array whose elements are tables.

In a document, values without headings belong to the table above them. So when a table is
written, its arrays of tables come last.
-/

import Telemetry.Toml.Reader
import Telemetry.Toml.Table

namespace Telemetry.Toml

/-- What a name stands for. -/
inductive Value where
  | text (content : String)
  | integer (number : Int)
  | float (number : Float)
  | boolean (truth : Bool)
  /-- A date or time, by its text. -/
  | moment (text : String)
  | array (elements : List Value)
  | table (fields : List (String × Value))

/-- The names of a table with what they stand for, in order of appearance. -/
abbrev Fields := List (String × Value)

/-! ## Reading -/

mutual

/-- The value that an item stands for. -/
def Item.value : Item → Value
  | .text content => .text content
  | .integer number => .integer number
  | .float number => .float number
  | .boolean truth => .boolean truth
  | .moment text => .moment text
  | .array elements => .array (valuesOf elements)
  | .table _ entries => .table (fieldsOf entries)
  | .tables earlier last => .array (rowsOf earlier ++ [.table (fieldsOf last)])

/-- The values that the elements of an array stand for. -/
def valuesOf : List Item → List Value
  | [] => []
  | element :: later => element.value :: valuesOf later

/-- The values of a table. -/
def fieldsOf : List (String × Item) → Fields
  | [] => []
  | (name, item) :: later => (name, item.value) :: fieldsOf later

/-- The values that tables under one heading stand for. -/
def rowsOf : List (List (String × Item)) → List Value
  | [] => []
  | entries :: later => .table (fieldsOf entries) :: rowsOf later

end

/-- What a document holds. -/
def readFields? (document : String) : Option Fields := do
  return fieldsOf (← tableOf? (← read? document))

/-! ## Writing -/

mutual

/-- Whether all integers fit in 64 bits. -/
def Value.fits : Value → Bool
  | .integer number => -0x8000000000000000 ≤ number && number < 0x8000000000000000
  | .array elements => elementsFit elements
  | .table fields => fieldsFit fields
  | _ => true

def elementsFit : List Value → Bool
  | [] => true
  | element :: later => element.fits && elementsFit later

def fieldsFit : List (String × Value) → Bool
  | [] => true
  | (_, value) :: later => value.fits && fieldsFit later

end

mutual

/-- A value as it is written without headings. -/
def Value.term : Value → Term
  | .text content => .text content
  | .integer number => .integer number
  | .float number => .float number
  | .boolean truth => .boolean truth
  | .moment text => .moment text
  | .array elements => .array (termsOf elements)
  | .table fields => .inline (termsOfFields fields)

def termsOf : List Value → List Term
  | [] => []
  | element :: later => element.term :: termsOf later

def termsOfFields : List (String × Value) → List (Key × Term)
  | [] => []
  | (name, value) :: later => (⟨[], name⟩, value.term) :: termsOfFields later

end

/-- The fields of a table. -/
def Value.row? : Value → Option Fields
  | .table fields => some fields
  | _ => none

/-- The elements of an array of tables. There is at least one, since without headings
nothing would be left of the array. -/
def Value.rows? : Value → Option (List Fields)
  | .array (first :: later) => (first :: later).mapM row?
  | _ => none

/-- A table as statements without headings. -/
def assignments (fields : Fields) : List Statement :=
  fields.map fun field => .assign ⟨[], field.1⟩ field.2.term

/-- Tables under one heading as statements. -/
def headed (name : String) (rows : List Fields) : List Statement :=
  rows.flatMap fun row => .openElement ⟨[], name⟩ :: assignments row

/-- A document for a table as statements. -/
def statementsOf (fields : Fields) : List Statement :=
  assignments (fields.filter (·.2.rows?.isNone)) ++
    fields.flatMap fun field => headed field.1 (field.2.rows?.getD [])

/-- A document for a table, if its integers fit. -/
def writeFields? (fields : Fields) : Option String :=
  if fieldsFit fields then some (render (statementsOf fields)) else none

end Telemetry.Toml
