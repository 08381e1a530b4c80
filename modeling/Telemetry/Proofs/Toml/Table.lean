/-
# Tables of named values and of elements

What a statement with a name of one part does to the table of a document: a value under a new name
comes last, in the table itself or in the element that was opened last, and a heading in double
brackets opens one more element.
-/

import Mathlib.Data.List.Basic
import Telemetry.Toml.Table

namespace Telemetry.Toml

variable {name : String} {table : Entries}

/-! ## Names -/

theorem lookup_cons_ne {other : String} (held : Item) (apart : name ≠ other) :
    ((other, held) :: table).lookup name = table.lookup name := by
  rw [List.lookup_cons, beq_false_of_ne apart]

theorem lookup_cons_eq_none {other : String} {held : Item}
    (absent : ((other, held) :: table).lookup name = none) :
    name ≠ other ∧ table.lookup name = none := by
  by_cases same : name = other
  · rw [same, List.lookup_cons_self] at absent
    cases absent
  · exact ⟨same, lookup_cons_ne held same ▸ absent⟩

theorem lookup_last (absent : table.lookup name = none) (item : Item) :
    (table ++ [(name, item)]).lookup name = some item := by
  induction table with
  | nil => exact List.lookup_cons_self
  | cons entry later ih =>
    obtain ⟨apart, rest⟩ := lookup_cons_eq_none absent
    rw [List.cons_append, lookup_cons_ne _ apart, ih rest]

theorem Entries.set_last (absent : table.lookup name = none) (held item : Item) :
    Entries.set name item (table ++ [(name, held)]) = table ++ [(name, item)] := by
  induction table with
  | nil => exact if_pos rfl
  | cons entry later ih =>
    obtain ⟨apart, rest⟩ := lookup_cons_eq_none absent
    rw [List.cons_append, Entries.set, if_neg apart.symm, ih rest, List.cons_append]

theorem Entries.set_new (absent : table.lookup name = none) (item : Item) :
    Entries.set name item table = table ++ [(name, item)] := by
  induction table with
  | nil => rfl
  | cons entry later ih =>
    obtain ⟨apart, rest⟩ := lookup_cons_eq_none absent
    rw [Entries.set, if_neg apart.symm, ih rest, List.cons_append]

/-! ## Statements -/

/-- A value under a new name is added to a table. -/
theorem Entries.assign?_new (absent : table.lookup name = none) (item : Item) :
    Entries.assign? ⟨[], name⟩ item .heading table = some (table ++ [(name, item)]) := by
  have free : ¬(table.lookup name).isSome = true := by
    rw [absent]
    exact Bool.false_ne_true
  have kind : ¬([] : List String).isEmpty = decide (Origin.heading = Origin.keyPath) := by decide
  rw [Entries.assign?, Entries.alter?, if_neg kind, if_neg free, Entries.set_new absent]

namespace Draft

section Values

variable {value : Term} {item : Item} (means : Item.ofTerm? value = some item)
include means

/-- Above all headings, a value goes to the table of the document. -/
theorem add?_assign (absent : table.lookup name = none) :
    Draft.add? ⟨table, []⟩ (.assign ⟨[], name⟩ value) =
      some ⟨table ++ [(name, item)], []⟩ := by
  rw [Draft.add?, means]
  simp only [Option.bind_eq_bind, Option.bind_some, Entries.alter?, Entries.assign?_new absent]
  rfl

/-- A value goes to the element that was opened last. -/
theorem add?_assign_element {outer : String} {last : Entries} (apart : table.lookup outer = none)
    (earlier : List Entries) (absent : last.lookup name = none) :
    Draft.add? ⟨table ++ [(outer, .tables earlier last)], [outer]⟩ (.assign ⟨[], name⟩ value) =
      some ⟨table ++ [(outer, .tables earlier (last ++ [(name, item)]))], [outer]⟩ := by
  rw [Draft.add?, means]
  simp only [Option.bind_eq_bind, Option.bind_some, Entries.alter?, lookup_last apart,
    Entries.assign?_new absent, Option.map_some, Entries.set_last apart]
  rfl

end Values

section Elements

variable (absent : table.lookup name = none) (heading : List String)
include absent

theorem add?_first_element :
    Draft.add? ⟨table, heading⟩ (.openElement ⟨[], name⟩) =
      some ⟨table ++ [(name, .tables [] [])], [name]⟩ := by
  rw [Draft.add?, Entries.openElement?, Entries.alter?]
  simp only [absent, Entries.set_new absent]
  rfl

theorem add?_next_element (earlier : List Entries) (last : Entries) :
    Draft.add? ⟨table ++ [(name, .tables earlier last)], heading⟩ (.openElement ⟨[], name⟩) =
      some ⟨table ++ [(name, .tables (earlier ++ [last]) [])], [name]⟩ := by
  rw [Draft.add?, Entries.openElement?, Entries.alter?]
  simp only [lookup_last absent, Entries.set_last absent]
  rfl

end Elements

end Draft

end Telemetry.Toml
