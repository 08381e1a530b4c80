/-
# Documents read back

A document whose keys are bare names and whose values are scalars or arrays of scalars reads back
as the statements it was written from. Each reader is compared with what is written for one value,
one key or one line, whatever follows; the whole document is an induction over its statements.
-/

import Telemetry.Proofs.Toml.Number
import Telemetry.Proofs.Toml.Quoted

namespace Telemetry.Toml

/-- A value without parts that a document can hold. -/
inductive IsScalar : Term → Prop where
  | text (content : String) : IsScalar (.text content)
  | integer {number : Int} (least : -2 ^ 63 ≤ number) (most : number < 2 ^ 63) :
      IsScalar (.integer number)
  | float (number : Float) : IsScalar (.float number)
  | boolean (truth : Bool) : IsScalar (.boolean truth)

/-- A scalar, or an array of scalars. -/
inductive IsPlain : Term → Prop where
  | scalar {value : Term} (scalar : IsScalar value) : IsPlain value
  | array {elements : List Term} (scalars : ∀ element ∈ elements, IsScalar element) :
      IsPlain (.array elements)

/-- A key of one part that needs no quotes. -/
inductive IsName : Key → Prop where
  | intro {name : String} (present : name.toList ≠ [])
      (bare : ∀ char ∈ name.toList, isBare char = true) : IsName ⟨[], name⟩

/-- A statement with a plain value under a name, or one that opens an element of a table. -/
inductive IsSimple : Statement → Prop where
  | assign {key : Key} {value : Term} (name : IsName key) (plain : IsPlain value) :
      IsSimple (.assign key value)
  | openElement {key : Key} (name : IsName key) : IsSimple (.openElement key)

variable {value : Term} {text rest : List Char}

/-! ## Scalars -/

theorem EndsValue.apart_mark (ends : EndsValue rest) (form : Quotation) :
    rest.head? ≠ some form.mark := by
  cases ends <;> cases form <;> exact fun same => absurd (Option.some.inj same) (by decide)

theorem readScalar?_mark (form : Quotation) (more : List Char) :
    readScalar? (form.mark :: more) = (Quotation.read? (form.mark :: more)).map
      fun (content, rest) => (.text (.ofList content), rest) := by
  cases form <;> rfl

theorem readScalar?_text (content : String) (ends : EndsValue rest) :
    readScalar? ((renderText content).toList ++ rest) = some (.text content, rest) := by
  have read := Quotation.read?_write content.toList (ends.apart_mark _)
  obtain ⟨more, opens⟩ : ∃ more, (Quotation.choose content.toList).write content.toList ++ rest =
      (Quotation.choose content.toList).mark :: more := by
    rw [Quotation.write]
    cases Quotation.choose content.toList <;> exact ⟨_, rfl⟩
  rw [renderText, String.toList_ofList, opens, readScalar?_mark, ← opens, read]
  exact congrArg (fun content => some (Term.text content, rest)) String.ofList_toList

/-- Every scalar reads back. -/
theorem readScalar?_render_of_scalar (scalar : IsScalar value) (ends : EndsValue rest) :
    readScalar? (value.render.toList ++ rest) = some (value, rest) := by
  cases scalar with
  | text content => exact readScalar?_text content ends
  | integer least most => exact readScalar?_toString least most ends
  | float number => exact readScalar?_render number ends
  | boolean truth => cases truth <;> rfl

/-- Nothing that separates values, or begins one with parts, begins a scalar. -/
theorem begins_of_readScalar? {read : Term × List Char} (found : readScalar? text = some read) :
    ∃ char more, text = char :: more ∧
      char ∉ [' ', '\t', '\n', '\r', '#', '[', ']', '\x7b'] := by
  cases text with
  | nil => cases found
  | cons char more =>
    refine ⟨char, more, rfl, fun among => ?_⟩
    simp only [List.mem_cons, List.not_mem_nil, or_false] at among
    rcases among with rfl | rfl | rfl | rfl | rfl | rfl | rfl | rfl <;> cases found

/-! ## Values -/

theorem readTerm?_scalar (scalar : IsScalar value) (ends : EndsValue rest) (fuel depth : Nat) :
    readTerm? (fuel + 1) depth (value.render.toList ++ rest) = some (value, rest) := by
  have read := readScalar?_render_of_scalar scalar ends
  obtain ⟨char, more, begins, apart⟩ := begins_of_readScalar? read
  rw [begins] at read ⊢
  rw [readTerm?, read]
  · exact fun later => cons_ne_cons apart (by decide) _ later
  · exact fun later => cons_ne_cons apart (by decide) _ later

/-- Text that begins with neither a separator nor a comment has nothing to skip but a blank. -/
theorem skipFiller?_eq {char : Char} (apart : char ∉ [' ', '\t', '\n', '\r', '#'])
    {lead : List Char} (blank : lead = [] ∨ lead = [' ']) (more : List Char) (fuel : Nat) :
    skipFiller? (fuel + 1) (lead ++ char :: more) = some (char :: more) := by
  have unblank : isBlank char = false := isBlank_eq_false apart (by decide) (by decide)
  have newline : char ≠ '\n' := by
    rintro rfl
    exact apart (by decide)
  have kept : Quotation.skipSpace (char :: more) = char :: more := by
    rw [Quotation.skipSpace, unblank, if_neg (by simpa using newline)]
    rintro rest rfl
    exact absurd (by decide) apart
  have space : Quotation.skipSpace (lead ++ char :: more) = char :: more := by
    rcases blank with rfl | rfl <;> exact kept
  rw [skipFiller?, space]
  split
  · rename_i comment
    exact absurd comment (cons_ne_cons apart (by decide) _ _)
  · rfl

section Elements

variable {lead : List Char} (blank : lead = [] ∨ lead = [' '])
include blank

/-- One element is read up to the comma or the bracket after it. -/
theorem readElements?_cons (scalar : IsScalar value) {stop : Char} (stops : stop = ',' ∨ stop = ']')
    (more : List Char) (fuel depth : Nat) :
    readElements? (fuel + 2) depth (lead ++ (value.render.toList ++ stop :: more)) =
      if stop = ',' then (readElements? (fuel + 1) depth more).map
        fun (elements, rest) => (value :: elements, rest)
      else some ([value], more) := by
  have ends : EndsValue (stop :: more) := by
    rcases stops with rfl | rfl
    · exact .element more
    · exact .array more
  have read := readTerm?_scalar scalar ends fuel depth
  obtain ⟨char, remaining, begins, apart⟩ :=
    begins_of_readScalar? (readScalar?_render_of_scalar scalar ends)
  have first := skipFiller?_eq (fun among => apart (List.mem_append_left ['[', ']', '\x7b'] among))
    blank remaining (lead ++ char :: remaining).length
  have second : skipFiller? ((stop :: more).length + 1) (stop :: more) = some (stop :: more) :=
    skipFiller?_eq (by rcases stops with rfl | rfl <;> decide) (.inl rfl) more _
  rw [begins] at read ⊢
  rw [readElements?, first]
  simp only [Option.bind_eq_bind, Option.bind_some]
  split
  · rename_i closing
    exact absurd closing (cons_ne_cons apart (by decide) _ _)
  · rw [read, Option.bind_some]
    dsimp only
    rw [second, Option.bind_some]
    rcases stops with rfl | rfl
    · show (readElements? (fuel + 1) depth more).bind _ = _
      cases readElements? (fuel + 1) depth more <;> rfl
    · rfl

/-- The elements of an array read back, with a blank before them or none. -/
theorem readElements?_render {elements : List Term}
    (scalars : ∀ element ∈ elements, IsScalar element) {fuel : Nat}
    (room : elements.length + 1 < fuel) (depth : Nat) :
    readElements? fuel depth (lead ++ ([',', ' '].intercalate
      (elements.map fun element => element.render.toList) ++ ']' :: rest)) =
        some (elements, rest) := by
  induction elements generalizing lead fuel with
  | nil =>
    obtain ⟨fuel, rfl⟩ : ∃ more, fuel = more + 1 := ⟨fuel - 1, by omega⟩
    have closing : skipFiller? ((lead ++ ']' :: rest).length + 1) (lead ++ ']' :: rest) =
        some (']' :: rest) := skipFiller?_eq (by decide) blank rest _
    rw [readElements?, List.map_nil, List.intercalate_nil, List.nil_append, closing]
    rfl
  | cons element later ih =>
    obtain ⟨fuel, rfl⟩ : ∃ more, fuel = more + 2 := ⟨fuel - 2, by omega⟩
    have scalar := scalars element List.mem_cons_self
    have others := fun other among => scalars other (List.mem_cons_of_mem element among)
    cases later with
    | nil =>
      rw [List.map_singleton, List.intercalate_singleton,
        readElements?_cons blank scalar (.inr rfl)]
      rfl
    | cons second last =>
      have onward := ih (.inr rfl) others (Nat.lt_of_succ_lt_succ room)
      have comma := readElements?_cons blank scalar (.inl rfl) ([' '] ++ ([',', ' '].intercalate
        ((second :: last).map fun element => element.render.toList) ++ ']' :: rest)) fuel depth
      rw [onward, if_pos rfl] at comma
      rw [List.map_cons, List.map_cons, List.intercalate_cons_cons, List.append_assoc,
        List.append_assoc]
      exact comma

end Elements

theorem renderElements_eq (elements : List Term) :
    renderElements elements = elements.map Term.render := by
  induction elements with
  | nil => rfl
  | cons element later ih => rw [renderElements, ih, List.map_cons]

theorem toList_render_array (elements : List Term) :
    (Term.array elements).render.toList = '[' :: ([',', ' '].intercalate
      (elements.map fun element => element.render.toList) ++ [']']) := by
  rw [Term.render, String.toList_append, String.toList_append, String.toList_intercalate,
    renderElements_eq, List.map_map]
  rfl

/-- The text of an array is long enough to give the fuel for its elements. -/
theorem length_le_intercalate (texts : List (List Char)) :
    texts.length ≤ ([',', ' '].intercalate texts).length + 1 := by
  induction texts with
  | nil => exact Nat.zero_le _
  | cons text later ih =>
    cases later with
    | nil => exact Nat.le_add_left _ _
    | cons second last =>
      rw [List.intercalate_cons_cons, List.length_append, List.length_append, List.length_cons]
      rw [List.length_cons] at ih
      simp only [List.length_cons, List.length_nil] at ih ⊢
      omega

/-- Every plain value reads back. -/
theorem readTerm?_plain (plain : IsPlain value) (ends : EndsValue rest) :
    readTerm? (2 * (value.render.toList ++ rest).length + 2) 0 (value.render.toList ++ rest) =
      some (value, rest) := by
  cases plain with
  | scalar scalar => exact readTerm?_scalar scalar ends _ 0
  | @array elements scalars =>
    have text : (Term.array elements).render.toList ++ rest = '[' :: ([',', ' '].intercalate
        (elements.map fun element => element.render.toList) ++ ']' :: rest) := by
      rw [toList_render_array, List.cons_append, List.append_assoc, List.singleton_append]
    have long := length_le_intercalate (elements.map fun element => element.render.toList)
    have read : readElements? (2 * ((Term.array elements).render.toList ++ rest).length + 1) 1
        ([',', ' '].intercalate (elements.map fun element => element.render.toList) ++
          ']' :: rest) = some (elements, rest) := by
      refine readElements?_render (.inl rfl) scalars ?_ 1
      rw [List.length_map] at long
      rw [text, List.length_cons, List.length_append, List.length_cons]
      omega
    rw [text] at read ⊢
    rw [readTerm?, if_pos (by decide), read]
    rfl

theorem begins_of_plain (plain : IsPlain value) (ends : EndsValue rest) :
    ∃ char more, value.render.toList ++ rest = char :: more ∧ isBlank char = false := by
  cases plain with
  | scalar scalar =>
    obtain ⟨char, more, begins, apart⟩ :=
      begins_of_readScalar? (readScalar?_render_of_scalar scalar ends)
    exact ⟨char, more, begins, isBlank_eq_false apart (by decide) (by decide)⟩
  | array => exact ⟨_, _, by rw [toList_render_array, List.cons_append], rfl⟩

/-! ## Keys -/

section Names

variable {key : Key} (name : IsName key)
include name

theorem toList_render_name : key.render.toList = key.last.toList := by
  obtain @⟨label, present, bare⟩ := name
  have part : renderPart label = label := by
    rw [renderPart, if_pos]
    rw [Bool.and_eq_true, Bool.not_eq_true', List.isEmpty_eq_false_iff, List.all_eq_true]
    exact ⟨present, bare⟩
  rw [Key.render, String.toList_intercalate]
  simp only [List.nil_append, List.map_cons, List.map_nil, List.intercalate_singleton, part]

/-- A name begins with nothing that leads a reader elsewhere. -/
theorem begins_of_name (rest : List Char) :
    ∃ char more, key.render.toList ++ rest = char :: more ∧
      char ∉ [' ', '\t', '\n', '\r', '#', '[', '"', '\'', '\ufeff'] := by
  rw [toList_render_name name]
  obtain ⟨present, bare⟩ := name
  obtain ⟨char, more, text⟩ := List.exists_cons_of_ne_nil present
  exact ⟨char, more ++ rest, by rw [text, List.cons_append],
    apart_of_bare (bare char (text ▸ List.mem_cons_self))⟩

section Reading

variable {lead : List Char} {stop : Char} (blank : lead = [] ∨ lead = [' '])
  (ends : isBare stop = false)
include blank ends

theorem readPart?_name (more : List Char) :
    readPart? (key.render.toList ++ (lead ++ stop :: more)) =
      some (key.last, lead ++ stop :: more) := by
  obtain ⟨char, remaining, begins, apart⟩ := begins_of_name name (lead ++ stop :: more)
  have text := toList_render_name name
  obtain @⟨label, present, bare⟩ := name
  have after : (lead ++ stop :: more).takeWhile isBare = [] ∧
      (lead ++ stop :: more).dropWhile isBare = lead ++ stop :: more := by
    rcases blank with rfl | rfl
    · exact ⟨List.takeWhile_cons_of_neg (Bool.eq_false_iff.mp ends),
        List.dropWhile_cons_of_neg (Bool.eq_false_iff.mp ends)⟩
    · exact ⟨rfl, rfl⟩
  unfold readPart?
  split
  · rename_i quoted
    exact absurd (begins.symm.trans quoted) (cons_ne_cons apart (by decide) _ _)
  · rename_i quoted
    exact absurd (begins.symm.trans quoted) (cons_ne_cons apart (by decide) _ _)
  · rw [text, List.takeWhile_append_of_pos bare, List.dropWhile_append_of_pos bare, after.1,
      after.2, List.append_nil, if_neg (by simpa using present)]
    exact congrArg (fun label => some (label, lead ++ stop :: more)) String.ofList_toList

/-- A name reads back, and what follows it is left without blanks. -/
theorem readKey?_name (unblank : isBlank stop = false) (apart : stop ≠ '.') (more : List Char) :
    readKey? (key.render.toList ++ (lead ++ stop :: more)) = some (key, stop :: more) := by
  obtain ⟨char, remaining, begins, letter⟩ := begins_of_name name (lead ++ stop :: more)
  have front : skipBlanks (key.render.toList ++ (lead ++ stop :: more)) =
      key.render.toList ++ (lead ++ stop :: more) := by
    rw [begins]
    exact skipBlanks_eq (isBlank_eq_false letter (by decide) (by decide)) (.inl rfl) remaining
  have parts : readParts? ((key.render.toList ++ (lead ++ stop :: more)).length + 1)
      (key.render.toList ++ (lead ++ stop :: more)) = some ([key.last], stop :: more) := by
    rw [readParts?, front, readPart?_name name blank ends]
    simp only [Option.bind_eq_bind, Option.bind_some, skipBlanks_eq unblank blank]
    split
    · rename_i dotted
      exact absurd (List.cons.inj dotted).1 apart
    · rfl
  rw [readKey?, parts]
  obtain ⟨present, bare⟩ := name
  rfl

end Reading

end Names

/-! ## Statements -/

theorem toList_render_assign (key : Key) (value : Term) (rest : List Char) :
    (Statement.assign key value).render.toList ++ rest = key.render.toList ++ ([' '] ++
      '=' :: ' ' :: (value.render.toList ++ '\n' :: rest)) := by
  simp only [Statement.render, String.toList_append, List.append_assoc]
  rfl

theorem toList_render_openElement (key : Key) (rest : List Char) :
    (Statement.openElement key).render.toList ++ rest =
      '\n' :: '[' :: '[' :: (key.render.toList ++ (']' :: ']' :: '\n' :: rest)) := by
  simp only [Statement.render, String.toList_append, List.append_assoc]
  rfl

section Statements

variable {key : Key} (name : IsName key)
include name

theorem readStatement?_assign (plain : IsPlain value) (rest : List Char) :
    readStatement? ((Statement.assign key value).render.toList ++ rest) =
      some (.assign key value, rest) := by
  have ends : EndsValue ('\n' :: rest) := .line rest
  obtain ⟨char, remaining, begins, apart⟩ := begins_of_name name
    ([' '] ++ '=' :: ' ' :: (value.render.toList ++ '\n' :: rest))
  have label : readKey? (key.render.toList ++ ([' '] ++ '=' :: ' ' :: (value.render.toList ++
      '\n' :: rest))) = some (key, '=' :: ' ' :: (value.render.toList ++ '\n' :: rest)) :=
    readKey?_name name (.inr rfl) rfl rfl (by decide) _
  have unblank : skipBlanks (' ' :: (value.render.toList ++ '\n' :: rest)) =
      value.render.toList ++ '\n' :: rest := by
    obtain ⟨first, more, starts, notBlank⟩ := begins_of_plain plain ends
    rw [starts]
    exact skipBlanks_eq notBlank (.inr rfl) more
  have read := readTerm?_plain plain ends
  have line : lineEnd? ('\n' :: rest) = some rest := rfl
  rw [toList_render_assign]
  unfold readStatement?
  split
  · rename_i heading
    exact absurd (begins.symm.trans heading) (cons_ne_cons apart (by decide) _ _)
  · rename_i heading
    exact absurd (begins.symm.trans heading) (cons_ne_cons apart (by decide) _ _)
  · rw [label]
    simp only [Option.bind_eq_bind, Option.bind_some, after?, if_true, unblank, read, line]
    rfl

theorem readStatement?_openElement (rest : List Char) :
    readStatement? ('[' :: '[' :: (key.render.toList ++ (']' :: ']' :: '\n' :: rest))) =
      some (.openElement key, rest) := by
  have label : readKey? (key.render.toList ++ (']' :: ']' :: '\n' :: rest)) =
      some (key, ']' :: ']' :: '\n' :: rest) :=
    readKey?_name name (.inl rfl) rfl rfl (by decide) _
  rw [readStatement?, label]
  rfl

end Statements

theorem toList_render_cons (statement : Statement) (later : List Statement) :
    (render (statement :: later)).toList = statement.render.toList ++ (render later).toList := by
  simp only [render, String.toList_join, List.map_cons, List.flatMap_cons]

/-- A line that is neither empty nor a comment holds a statement. -/
theorem readStatements?_succ {char : Char} {more : List Char} {statement : Statement}
    {later : List Statement} {fuel : Nat}
    (apart : char ∉ [' ', '\t', '\n', '\r', '#'])
    (read : readStatement? (char :: more) = some (statement, rest))
    (onward : readStatements? fuel rest = some later) :
    readStatements? (fuel + 1) (char :: more) = some (statement :: later) := by
  have unblank : isBlank char = false := isBlank_eq_false apart (by decide) (by decide)
  have kept : skipBlanks (char :: more) = char :: more := skipBlanks_eq unblank (.inl rfl) more
  have holds : ¬(char = '#' ∨ char = '\n' ∨ char = '\r') := by
    rintro (rfl | rfl | rfl) <;> exact apart (by decide)
  rw [readStatements?, kept]
  dsimp only
  rw [if_neg holds, read]
  simp only [Option.bind_eq_bind, Option.bind_some, onward]
  rfl

/-- The text of a statement is read, and the others are left. -/
theorem readStatements?_cons {statement : Statement} (simple : IsSimple statement)
    {later : List Statement}
    (onward : ∀ fuel, rest.length < fuel → readStatements? fuel rest = some later) {fuel : Nat}
    (room : (statement.render.toList ++ rest).length < fuel) :
    readStatements? fuel (statement.render.toList ++ rest) = some (statement :: later) := by
  cases simple with
  | @assign key value name plain =>
    have read := readStatement?_assign name plain rest
    rw [toList_render_assign] at read room ⊢
    have shorter : rest.length < fuel - 1 := by
      simp only [List.length_append, List.length_cons] at room
      omega
    obtain ⟨fuel, rfl⟩ : ∃ more, fuel = more + 1 := ⟨fuel - 1, by omega⟩
    obtain ⟨char, more, begins, apart⟩ := begins_of_name name
      ([' '] ++ '=' :: ' ' :: (value.render.toList ++ '\n' :: rest))
    rw [begins] at read ⊢
    exact readStatements?_succ (fun among => apart
      (List.mem_append_left ['[', '"', '\'', '\ufeff'] among)) read (onward fuel shorter)
  | @openElement key name =>
    rw [toList_render_openElement] at room ⊢
    simp only [List.length_cons, List.length_append] at room
    obtain ⟨fuel, rfl⟩ : ∃ more, fuel = more + 2 := ⟨fuel - 2, by omega⟩
    have next := readStatements?_succ (by decide) (readStatement?_openElement name rest)
      (onward fuel (by omega))
    -- The empty line takes a step of its own.
    exact next

theorem readStatements?_render {statements : List Statement}
    (simple : ∀ statement ∈ statements, IsSimple statement) {fuel : Nat}
    (room : (render statements).toList.length < fuel) :
    readStatements? fuel (render statements).toList = some statements := by
  induction statements generalizing fuel with
  | nil =>
    obtain ⟨fuel, rfl⟩ : ∃ more, fuel = more + 1 := ⟨fuel - 1, by omega⟩
    rfl
  | cons statement later ih =>
    rw [toList_render_cons] at room ⊢
    exact readStatements?_cons (simple statement List.mem_cons_self)
      (fun fuel room => ih (fun other among => simple other (List.mem_cons_of_mem _ among)) room)
      room

/-- A document of simple statements reads back. -/
theorem read?_render {statements : List Statement}
    (simple : ∀ statement ∈ statements, IsSimple statement) :
    read? (render statements) = some statements := by
  have read := readStatements?_render simple (Nat.lt_succ_self _)
  have unmarked (text : List Char) : (render statements).toList ≠ '\ufeff' :: text := by
    cases statements with
    | nil => exact (List.cons_ne_nil _ _).symm
    | cons statement later =>
      rw [toList_render_cons]
      cases simple statement List.mem_cons_self with
      | @assign key value name =>
        obtain ⟨char, more, begins, apart⟩ := begins_of_name name ([' '] ++
          '=' :: ' ' :: (value.render.toList ++ '\n' :: (render later).toList))
        rw [toList_render_assign, begins]
        exact cons_ne_cons apart (by decide) _ _
      | openElement =>
        rw [toList_render_openElement]
        exact fun same => absurd (List.cons.inj same).1 (by decide)
  unfold read?
  split
  · rename_i marked
    exact absurd marked (unmarked _)
  · exact read

end Telemetry.Toml
