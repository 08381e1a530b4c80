/-
# Writers and readers of documents

Settings are written and read by a writer and a reader for documents in general, which know
nothing of settings. What is asked of the two is that they follow TOML 1.0: the text of a
table means this table, every float to its last bit, and a text that means a table is read as
this table. The writer may fail where a document could not hold a table as it is.
-/

import Telemetry.Toml.Value

namespace Telemetry.Toml

/-- A writer and a reader of documents. -/
structure Codec where
  /-- The text of a table, if it can be written. -/
  write? : Fields → Option String
  /-- The table that a text means, if it means one. -/
  read? : String → Option Fields

/-- The writer and the reader given here. -/
def standard : Codec where
  write? := writeFields?
  read? := readFields?

/-- By TOML 1.0, a text means a table. -/
def Denotes (text : String) (fields : Fields) : Prop :=
  readFields? text = some fields

/-- A value without parts that a document can hold. -/
inductive Value.IsScalar : Value → Prop where
  | text (content : String) : IsScalar (.text content)
  | integer {number : Int} (least : -0x8000000000000000 ≤ number)
      (most : number < 0x8000000000000000) : IsScalar (.integer number)
  | float (number : Float) : IsScalar (.float number)
  | boolean (truth : Bool) : IsScalar (.boolean truth)

/-- A scalar, or an array of scalars. -/
inductive Value.IsPlain : Value → Prop where
  | scalar {value : Value} (scalar : value.IsScalar) : IsPlain value
  | array {elements : List Value} (scalars : ∀ element ∈ elements, element.IsScalar) :
      IsPlain (.array elements)

/-- Names that need no quotes, none of which is there twice. -/
structure AreNames (names : List String) : Prop where
  present : ∀ name ∈ names, name ≠ ""
  bare : ∀ name ∈ names, ∀ char ∈ name.toList, isBare char = true
  distinct : names.Nodup

/-- A table of plain values. -/
structure IsRow (fields : Fields) : Prop where
  names : AreNames (fields.map Prod.fst)
  plain : ∀ field ∈ fields, field.2.IsPlain

/-- One table or more as the elements of an array. -/
inductive Value.IsRows : Value → Prop where
  | intro {first : Fields} {later : List Fields} (rows : ∀ row ∈ first :: later, IsRow row) :
      IsRows (.array ((first :: later).map .table))

/-- A table of plain values and, after these, arrays of tables of plain values. -/
inductive IsWritable : Fields → Prop where
  | intro {values arrays : Fields} (names : AreNames ((values ++ arrays).map Prod.fst))
      (plain : ∀ field ∈ values, field.2.IsPlain) (rows : ∀ field ∈ arrays, field.2.IsRows) :
      IsWritable (values ++ arrays)

/-- A writer and a reader that follow TOML 1.0. -/
structure Codec.Faithful (codec : Codec) : Prop where
  writes : ∀ fields, IsWritable fields → ∃ text, codec.write? fields = some text ∧
    Denotes text fields
  reads : ∀ text fields, Denotes text fields → codec.read? text = some fields

end Telemetry.Toml
