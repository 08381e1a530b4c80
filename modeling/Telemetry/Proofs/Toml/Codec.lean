/-
# The standard writer and reader

What is written for a table of plain values and arrays of such tables reads back as this table, so
the writer and the reader given here follow TOML 1.0. The statements of the text are read back
as they are; they are followed as they build up a table, first the values and then one element
after the other.
-/

import Telemetry.Proofs.Toml.Reader
import Telemetry.Proofs.Toml.Table
import Telemetry.Toml.Codec

namespace Telemetry

/-- Reading each of the things that were written gives them back. -/
theorem mapM_map_eq_some {α β : Type} {write : α → β} {read? : β → Option α}
    (inverse : ∀ value, read? (write value) = some value) (values : List α) :
    (values.map write).mapM read? = some values := by
  induction values with
  | nil => rfl
  | cons value later ih =>
    rw [List.map_cons, List.mapM_cons, inverse, ih]
    rfl

namespace Toml

variable {value : Value} {elements : List Value} {fields : Fields} {name : String}
  {table : Entries}

/-! ## Lists of values -/

theorem fieldsOf_eq_map (entries : Entries) :
    fieldsOf entries = entries.map fun entry => (entry.1, entry.2.value) := by
  induction entries with
  | nil => rfl
  | cons entry later ih => rw [fieldsOf, ih, List.map_cons]

theorem rowsOf_eq_map (tables : List Entries) :
    rowsOf tables = tables.map fun entries => .table (fieldsOf entries) := by
  induction tables with
  | nil => rfl
  | cons entries later ih => rw [rowsOf, ih, List.map_cons]

theorem termsOf_eq_map (elements : List Value) : termsOf elements = elements.map Value.term := by
  induction elements with
  | nil => rfl
  | cons element later ih => rw [termsOf, ih, List.map_cons]

theorem elementsFit_eq_all (elements : List Value) :
    elementsFit elements = elements.all Value.fits := by
  induction elements with
  | nil => rfl
  | cons element later ih => rw [elementsFit, ih, List.all_cons]

theorem fieldsFit_eq_all (fields : Fields) : fieldsFit fields = fields.all (·.2.fits) := by
  induction fields with
  | nil => rfl
  | cons field later ih => rw [fieldsFit, ih, List.all_cons]

/-! ## Plain values -/

namespace Value

namespace IsScalar

theorem term (scalar : value.IsScalar) : Toml.IsScalar value.term := by
  cases scalar with
  | text content => exact .text content
  | integer least most => exact .integer least most
  | float number => exact .float number
  | boolean truth => exact .boolean truth

theorem fits (scalar : value.IsScalar) : value.fits = true := by
  cases scalar with
  | integer least most =>
    rw [Value.fits, Bool.and_eq_true, decide_eq_true_eq, decide_eq_true_eq]
    exact ⟨least, most⟩
  | _ => rfl

theorem exists_item (scalar : value.IsScalar) :
    ∃ item, Item.ofTerm? value.term = some item ∧ item.value = value := by
  cases scalar <;> exact ⟨_, rfl, rfl⟩

end IsScalar

theorem exists_items (scalars : ∀ element ∈ elements, element.IsScalar) :
    ∃ items, ofElements? (termsOf elements) = some items ∧ valuesOf items = elements := by
  induction elements with
  | nil => exact ⟨[], rfl, rfl⟩
  | cons first later ih =>
    obtain ⟨scalar, others⟩ := List.forall_mem_cons.mp scalars
    obtain ⟨item, means, same⟩ := scalar.exists_item
    obtain ⟨items, mean, equal⟩ := ih others
    refine ⟨item :: items, ?_, ?_⟩
    · rw [termsOf, ofElements?, means, mean]
      rfl
    · rw [valuesOf, same, equal]

namespace IsPlain

theorem term (plain : value.IsPlain) : Toml.IsPlain value.term := by
  cases plain with
  | scalar scalar => exact .scalar scalar.term
  | array scalars =>
    rw [Value.term, termsOf_eq_map]
    exact .array (List.forall_mem_map.mpr fun element among => (scalars element among).term)

theorem fits (plain : value.IsPlain) : value.fits = true := by
  cases plain with
  | scalar scalar => exact scalar.fits
  | array scalars =>
    rw [Value.fits, elementsFit_eq_all, List.all_eq_true]
    exact fun element among => (scalars element among).fits

/-- A plain value is read as an item that stands for it. -/
theorem exists_item (plain : value.IsPlain) :
    ∃ item, Item.ofTerm? value.term = some item ∧ item.value = value := by
  cases plain with
  | scalar scalar => exact scalar.exists_item
  | array scalars =>
    obtain ⟨items, mean, same⟩ := exists_items scalars
    refine ⟨.array items, ?_, ?_⟩
    · rw [Value.term, Item.ofTerm?, mean]
      rfl
    · rw [Item.value, same]

/-- A plain value needs no headings. -/
theorem rows?_eq_none (plain : value.IsPlain) : value.rows? = none := by
  cases plain with
  | scalar scalar => cases scalar <;> rfl
  | @array elements scalars =>
    cases elements with
    | nil => rfl
    | cons first later =>
      have scalar := scalars first List.mem_cons_self
      cases scalar <;> rfl

end IsPlain

/-- The elements of an array of tables are what it is written with. -/
theorem rows?_array_map (first : Fields) (later : List Fields) :
    (array ((first :: later).map .table)).rows? = some (first :: later) := by
  have inverse (fields : Fields) : (Value.table fields).row? = some fields := rfl
  exact mapM_map_eq_some inverse (first :: later)

theorem IsRows.fits (rows : value.IsRows) : value.fits = true := by
  obtain ⟨rows⟩ := rows
  rw [Value.fits, elementsFit_eq_all, List.all_eq_true]
  refine List.forall_mem_map.mpr fun row among => ?_
  rw [Value.fits, fieldsFit_eq_all, List.all_eq_true]
  exact fun field held => ((rows row among).plain field held).fits

end Value

theorem IsWritable.fits (writable : IsWritable fields) : fieldsFit fields = true := by
  obtain ⟨names, plain, rows⟩ := writable
  rw [fieldsFit_eq_all, List.all_append, Bool.and_eq_true, List.all_eq_true, List.all_eq_true]
  exact ⟨fun field among => (plain field among).fits, fun field among => (rows field among).fits⟩

/-! ## Statements -/

theorem statementsOf_append {values arrays : Fields}
    (plain : ∀ field ∈ values, field.2.IsPlain) (rows : ∀ field ∈ arrays, field.2.IsRows) :
    statementsOf (values ++ arrays) = assignments values ++
      arrays.flatMap fun field => headed field.1 (field.2.rows?.getD []) := by
  have first : values.filter (·.2.rows?.isNone) = values :=
    List.filter_eq_self.mpr fun field among => by rw [(plain field among).rows?_eq_none]; rfl
  have last : arrays.filter (·.2.rows?.isNone) = [] := by
    refine List.filter_eq_nil_iff.mpr fun ⟨name, value⟩ among => ?_
    obtain ⟨rows⟩ : value.IsRows := rows _ among
    rw [Value.rows?_array_map]
    exact Bool.false_ne_true
  have none : values.flatMap (fun field => headed field.1 (field.2.rows?.getD [])) = [] :=
    List.flatMap_eq_nil_iff.mpr fun field among => by rw [(plain field among).rows?_eq_none]; rfl
  rw [statementsOf, List.filter_append, first, last, List.append_nil, List.flatMap_append, none,
    List.nil_append]

section Names

variable {names : List String} (areNames : AreNames names)
include areNames

theorem AreNames.isName (among : name ∈ names) : IsName ⟨[], name⟩ :=
  .intro (fun empty => areNames.present name among (String.toList_eq_nil_iff.mp empty))
    (areNames.bare name among)

theorem AreNames.isSimple {statement : Statement} (named : ∀ field ∈ fields, field.1 ∈ names)
    (plain : ∀ field ∈ fields, field.2.IsPlain) (among : statement ∈ assignments fields) :
    IsSimple statement := by
  obtain ⟨field, held, rfl⟩ := List.mem_map.mp among
  exact .assign (areNames.isName (named field held)) (plain field held).term

end Names

/-- Every statement that a table is written with is one that reads back. -/
theorem IsWritable.isSimple {statement : Statement} (writable : IsWritable fields)
    (among : statement ∈ statementsOf fields) : IsSimple statement := by
  obtain @⟨values, arrays, names, plain, rows⟩ := writable
  rw [statementsOf_append plain rows] at among
  rcases List.mem_append.mp among with among | among
  · refine names.isSimple (fun field held => ?_) plain among
    exact List.mem_map_of_mem (List.mem_append_left _ held)
  · obtain ⟨⟨name, value⟩, held, among⟩ := List.mem_flatMap.mp among
    obtain @⟨first, later, each⟩ : value.IsRows := rows _ held
    rw [Value.rows?_array_map] at among
    obtain ⟨row, listed, among⟩ := List.mem_flatMap.mp among
    rcases List.mem_cons.mp among with rfl | among
    · refine .openElement (names.isName ?_)
      exact List.mem_map_of_mem (List.mem_append_right _ held)
    · have row := each row listed
      exact row.names.isSimple (fun _ held => List.mem_map_of_mem held) row.plain among

/-! ## Building -/

theorem lookup_eq_none_of_nodup
    (distinct : ((fieldsOf table ++ (name, value) :: fields).map Prod.fst).Nodup) :
    table.lookup name = none := by
  rw [List.map_append, List.nodup_append] at distinct
  obtain ⟨-, -, apart⟩ := distinct
  refine List.lookup_eq_none_iff.mpr fun entry among => bne_iff_ne.mpr fun same => ?_
  have listed : entry.1 ∈ (fieldsOf table).map Prod.fst := by
    rw [fieldsOf_eq_map, List.map_map]
    exact List.mem_map_of_mem among
  exact apart entry.1 listed name List.mem_cons_self same.symm

theorem fieldsOf_append_singleton (table : Entries) (name : String) {item : Item}
    (same : item.value = value) (later : Fields) :
    fieldsOf (table ++ [(name, item)]) ++ later = fieldsOf table ++ (name, value) :: later := by
  rw [fieldsOf_eq_map, fieldsOf_eq_map, List.map_append, List.append_assoc, List.map_singleton,
    same, List.singleton_append]

/-- Values with names of their own come last in the table that is open. -/
theorem exists_foldlM_assignments {draft : Entries → Draft}
    (grows : ∀ {table name term item}, Item.ofTerm? term = some item → table.lookup name = none →
      (draft table).add? (.assign ⟨[], name⟩ term) = some (draft (table ++ [(name, item)])))
    (plain : ∀ field ∈ fields, field.2.IsPlain)
    (distinct : ((fieldsOf table ++ fields).map Prod.fst).Nodup) :
    ∃ entries, fieldsOf entries = fieldsOf table ++ fields ∧
      (assignments fields).foldlM Draft.add? (draft table) = some (draft entries) := by
  induction fields generalizing table with
  | nil => exact ⟨table, (List.append_nil _).symm, rfl⟩
  | cons field later ih =>
    obtain ⟨first, others⟩ := List.forall_mem_cons.mp plain
    obtain ⟨item, means, same⟩ := first.exists_item
    have new : table.lookup field.1 = none := lookup_eq_none_of_nodup distinct
    have held := fieldsOf_append_singleton table field.1 same later
    obtain ⟨entries, equal, folded⟩ := ih others (held ▸ distinct)
    refine ⟨entries, equal.trans held, ?_⟩
    rw [assignments, List.map_cons, List.foldlM_cons, grows means new]
    exact folded

section Elements

variable (absent : table.lookup name = none)
include absent

/-- The values of a table fill the element that it opens. -/
theorem exists_foldlM_row {draft : Draft} {earlier : List Entries} (row : IsRow fields)
    (opened : draft.add? (.openElement ⟨[], name⟩) =
      some ⟨table ++ [(name, .tables earlier [])], [name]⟩) :
    ∃ last, fieldsOf last = fields ∧
      (Statement.openElement ⟨[], name⟩ :: assignments fields).foldlM Draft.add? draft =
        some ⟨table ++ [(name, .tables earlier last)], [name]⟩ := by
  have grows {last : Entries} {label : String} {term : Term} {item : Item}
      (means : Item.ofTerm? term = some item) (new : last.lookup label = none) :=
    Draft.add?_assign_element means absent earlier new
  have distinct : ((fieldsOf [] ++ fields).map Prod.fst).Nodup := row.names.distinct
  obtain ⟨last, same, folded⟩ := exists_foldlM_assignments grows row.plain distinct
  refine ⟨last, same, ?_⟩
  rw [List.foldlM_cons, opened]
  exact folded

/-- Every further table becomes one more element. -/
theorem exists_foldlM_later {later : List Fields} (rows : ∀ row ∈ later, IsRow row)
    (earlier : List Entries) (last : Entries) :
    ∃ front back,
      (Item.tables front back).value =
        .array (rowsOf earlier ++ .table (fieldsOf last) :: later.map .table) ∧
      (headed name later).foldlM Draft.add? ⟨table ++ [(name, .tables earlier last)], [name]⟩ =
        some ⟨table ++ [(name, .tables front back)], [name]⟩ := by
  induction later generalizing earlier last with
  | nil => exact ⟨earlier, last, rfl, rfl⟩
  | cons row later ih =>
    obtain ⟨filled, others⟩ := List.forall_mem_cons.mp rows
    obtain ⟨next, same, opened⟩ :=
      exists_foldlM_row absent filled (Draft.add?_next_element absent [name] earlier last)
    obtain ⟨front, back, together, folded⟩ := ih others (earlier ++ [last]) next
    refine ⟨front, back, ?_, ?_⟩
    · rw [together, rowsOf_eq_map, rowsOf_eq_map, List.map_append, List.map_singleton, same,
        List.append_assoc, List.singleton_append, List.map_cons]
    · rw [headed, List.flatMap_cons, List.foldlM_append, opened]
      exact folded

/-- Tables under one heading become one array. -/
theorem exists_foldlM_headed (rows : value.IsRows) (heading : List String) :
    ∃ item : Item, item.value = value ∧
      (headed name (value.rows?.getD [])).foldlM Draft.add? ⟨table, heading⟩ =
        some ⟨table ++ [(name, item)], [name]⟩ := by
  obtain @⟨first, later, rows⟩ := rows
  obtain ⟨filled, others⟩ := List.forall_mem_cons.mp rows
  obtain ⟨last, same, opened⟩ :=
    exists_foldlM_row absent filled (Draft.add?_first_element absent heading)
  obtain ⟨front, back, together, folded⟩ := exists_foldlM_later absent others [] last
  refine ⟨.tables front back, ?_, ?_⟩
  · rw [together, same]
    rfl
  · rw [Value.rows?_array_map, Option.getD_some, headed, List.flatMap_cons, List.foldlM_append,
      opened]
    exact folded

end Elements

theorem exists_foldlM_arrays {arrays : Fields} (rows : ∀ field ∈ arrays, field.2.IsRows)
    (distinct : ((fieldsOf table ++ arrays).map Prod.fst).Nodup) (heading : List String) :
    ∃ draft : Draft, fieldsOf draft.table = fieldsOf table ++ arrays ∧
      (arrays.flatMap fun field => headed field.1 (field.2.rows?.getD [])).foldlM Draft.add?
          ⟨table, heading⟩ = some draft := by
  induction arrays generalizing table heading with
  | nil => exact ⟨⟨table, heading⟩, (List.append_nil _).symm, rfl⟩
  | cons field later ih =>
    obtain ⟨first, others⟩ := List.forall_mem_cons.mp rows
    have new : table.lookup field.1 = none := lookup_eq_none_of_nodup distinct
    obtain ⟨item, same, built⟩ := exists_foldlM_headed new first heading
    have held := fieldsOf_append_singleton table field.1 same later
    obtain ⟨draft, equal, folded⟩ := ih others (held ▸ distinct) [field.1]
    refine ⟨draft, equal.trans held, ?_⟩
    rw [List.flatMap_cons, List.foldlM_append, built]
    exact folded

/-- The statements that a table is written with build it up again. -/
theorem exists_tableOf? (writable : IsWritable fields) :
    ∃ entries, tableOf? (statementsOf fields) = some entries ∧ fieldsOf entries = fields := by
  obtain @⟨values, arrays, names, plain, rows⟩ := writable
  have distinct := names.distinct
  have first : ((fieldsOf [] ++ values).map Prod.fst).Nodup :=
    distinct.sublist ((List.sublist_append_left values arrays).map Prod.fst)
  have grows {table : Entries} {name : String} {term : Term} {item : Item}
      (means : Item.ofTerm? term = some item) (new : table.lookup name = none) :=
    Draft.add?_assign means new
  obtain ⟨front, same, built⟩ := exists_foldlM_assignments grows plain first
  have whole : fieldsOf front ++ arrays = values ++ arrays := congrArg (· ++ arrays) same
  obtain ⟨draft, equal, folded⟩ := exists_foldlM_arrays rows (whole ▸ distinct) []
  refine ⟨draft.table, ?_, equal.trans whole⟩
  rw [tableOf?, statementsOf_append plain rows, List.foldlM_append, built]
  exact congrArg (Option.map Draft.table) folded

/-- The writer and the reader given here follow TOML 1.0. -/
theorem faithful_standard : standard.Faithful where
  writes fields writable := by
    obtain ⟨entries, built, same⟩ := exists_tableOf? writable
    refine ⟨render (statementsOf fields), if_pos writable.fits, ?_⟩
    rw [Denotes, readFields?, read?_render fun _ => writable.isSimple]
    simp only [Option.bind_eq_bind, Option.bind_some, built, same]
    rfl
  reads _ _ denotes := denotes

end Toml

end Telemetry
