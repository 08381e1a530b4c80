/-
# Strings read back

Inside a string, a text is spelled character by character: a mark stands for itself as long as
there are few in a row, and any other character is spelled so that it is read as one piece. What
is spelled reads back, whatever the form of the string. The form that is chosen for a text spells
it, with escapes or because it needs none.
-/

import Telemetry.Proofs.Toml.Character
import Telemetry.Toml.Quoted

namespace Telemetry.Toml.Quotation

variable {form : Quotation} {marks : Nat} {text body rest : List Char}

/-- How the inside of a string spells a text, when so many marks in a row come before it. -/
inductive Spelled (form : Quotation) : (marks : Nat) → (text body : List Char) → Prop where
  | nil (marks : Nat) : Spelled form marks [] []
  | mark {marks : Nat} {text body : List Char} (free : marks < form.freeMarks)
      (later : Spelled form (marks + 1) text body) :
      Spelled form marks (form.mark :: text) (form.mark :: body)
  | char {marks : Nat} {char : Char} {spelling text body : List Char}
      (apart : spelling.head? ≠ some form.mark)
      (reads : ∀ rest, form.piece? (spelling ++ rest) = some ⟨[char], rest, false⟩)
      (later : Spelled form 0 text body) :
      Spelled form marks (char :: text) (spelling ++ body)

/-- A character spells itself if it is read as one piece. -/
theorem Spelled.itself {char : Char} (apart : char ≠ form.mark)
    (reads : ∀ rest, form.piece? (char :: rest) = some ⟨[char], rest, false⟩)
    (later : Spelled form 0 text body) : Spelled form marks (char :: text) (char :: body) := by
  have begins : [char].head? ≠ some form.mark := fun same => apart (Option.some.inj same)
  exact .char begins reads later

/-! ## Reading what is spelled -/

section Pieces

variable {piece : Piece} (read : form.piece? text = some piece)
include read

theorem readBody?_of_open (continues : piece.closes = false) :
    form.readBody? text =
      (form.readBody? piece.rest).map fun (content, rest) => (piece.content ++ content, rest) := by
  rw [readBody?]
  split
  · rename_i nothing
    cases nothing.symm.trans read
  · rename_i found
    cases found.symm.trans read
    rw [if_neg (Bool.eq_false_iff.mp continues)]

theorem readBody?_of_close (closes : piece.closes = true) :
    form.readBody? text = some (piece.content, piece.rest) := by
  rw [readBody?]
  split
  · rename_i nothing
    cases nothing.symm.trans read
  · rename_i found
    cases found.symm.trans read
    rw [if_pos closes]

end Pieces

section Marks

variable (apart : rest.head? ≠ some form.mark)
include apart

/-- Marks between tripled ones are read together. -/
theorem piece?_marks (marks : Nat) (spans : form.spansLines = true) :
    form.piece? (List.replicate (marks + 1) form.mark ++ rest) =
      form.markPiece? (marks + 1) rest := by
  have run : (List.replicate marks form.mark ++ rest).takeWhile (· == form.mark) =
      List.replicate marks form.mark := by
    have none : rest.takeWhile (· == form.mark) = [] := by
      cases rest with
      | nil => rfl
      | cons char more =>
        exact List.takeWhile_cons_of_neg fun same =>
          apart (congrArg some (beq_iff_eq.mp same))
    rw [List.takeWhile_append_of_pos fun char among =>
      beq_iff_eq.mpr (List.eq_of_mem_replicate among), none, List.append_nil]
  rw [List.replicate_succ, List.cons_append, piece?, if_pos rfl, if_pos spans]
  simp only [run, List.length_replicate, List.drop_left' List.length_replicate]

/-- Marks at the end of a text are told apart from the marks that close the string. -/
theorem piece?_closing (few : marks ≤ form.freeMarks) :
    form.piece? (List.replicate marks form.mark ++ form.delimiter ++ rest) =
      some ⟨List.replicate marks form.mark, rest, true⟩ := by
  rw [freeMarks] at few
  cases spans : form.spansLines with
  | true =>
    rw [spans, if_pos rfl] at few
    rw [delimiter, spans, if_pos rfl, List.replicate_append_replicate, piece?_marks apart _ spans,
      markPiece?, freeMarks, delimiter, spans, if_pos rfl, if_pos rfl, List.length_replicate,
      if_neg (by omega)]
    exact if_pos few
  | false =>
    rw [spans, if_neg Bool.false_ne_true, Nat.le_zero] at few
    subst few
    rw [delimiter, spans, if_neg Bool.false_ne_true]
    show form.piece? (form.mark :: rest) = _
    rw [piece?, if_pos rfl, spans, if_neg Bool.false_ne_true, markPiece?, freeMarks, delimiter,
      spans]
    rfl

/-- Marks that are free are read as they are. -/
theorem readBody?_marks (few : marks ≤ form.freeMarks) :
    form.readBody? (List.replicate marks form.mark ++ rest) =
      (form.readBody? rest).map fun (content, rest) =>
        (List.replicate marks form.mark ++ content, rest) := by
  cases marks with
  | zero => exact Option.map_id'.symm
  | succ more =>
    have spans : form.spansLines = true := by
      refine Bool.of_not_eq_false fun single => ?_
      rw [freeMarks, single] at few
      exact absurd few (Nat.not_succ_le_zero more)
    have read := piece?_marks apart more spans
    rw [markPiece?, if_pos few] at read
    exact readBody?_of_open read rfl

/-- What is spelled reads back, together with the marks before it. -/
theorem readBody?_spelled (spelled : Spelled form marks text body)
    (few : marks ≤ form.freeMarks) :
    form.readBody? (List.replicate marks form.mark ++ (body ++ form.delimiter ++ rest)) =
      some (List.replicate marks form.mark ++ text, rest) := by
  induction spelled with
  | nil marks =>
    rw [List.nil_append, ← List.append_assoc, readBody?_of_close (piece?_closing apart few) rfl,
      List.append_nil]
  | @mark marks text body free later ih =>
    have shift (tail : List Char) : List.replicate marks form.mark ++ form.mark :: tail =
        List.replicate (marks + 1) form.mark ++ tail := by
      rw [List.replicate_succ', List.append_assoc, List.singleton_append]
    rw [List.cons_append, List.cons_append, shift, shift, ih free]
  | @char marks char spelling text body begins reads later ih =>
    have spelled : (spelling ++ (body ++ form.delimiter ++ rest)).head? ≠ some form.mark := by
      cases spelling with
      | nil => cases reads []
      | cons first more => exact begins
    rw [List.append_assoc spelling, List.append_assoc spelling, readBody?_marks spelled few,
      readBody?_of_open (reads _) rfl]
    have rest := ih (Nat.zero_le _)
    rw [List.replicate_zero, List.nil_append, List.nil_append] at rest
    rw [rest]
    rfl

end Marks

/-! ## Spelling with escapes -/

theorem mark_of_escapes (escapes : form.escapes = true) : form.mark = '"' := by
  cases form <;> first | rfl | cases escapes

/-- A character that is printed and has no meaning of its own is read as it is. -/
theorem piece?_plain {char : Char} (apart : char ≠ form.mark)
    (unescaped : ¬(form.escapes = true ∧ char = '\\')) (printable : isPrintable char = true) :
    form.piece? (char :: rest) = some ⟨[char], rest, false⟩ := by
  rw [piece?, if_neg apart, if_neg unescaped, if_pos printable]

theorem piece?_newline (spans : form.spansLines = true) :
    form.piece? ('\n' :: rest) = some ⟨['\n'], rest, false⟩ := by
  cases form <;> first | rfl | cases spans

/-- Four hexadecimal digits write every code of a control character. -/
theorem ofCode?_hexDigits : ∀ code < 128, ofCode? [hexDigit (code / 4096 % 16),
    hexDigit (code / 256 % 16), hexDigit (code / 16 % 16), hexDigit (code % 16)] =
      some (Char.ofNat code) := by
  decide +kernel

/-- Apart from the characters with a letter, only control characters are escaped. -/
theorem toNat_lt_of_special {char : Char} (special : isPlain char = false ∨ char = '\t')
    (notTab : char ≠ '\t') (notNewline : char ≠ '\n') (notQuote : char ≠ '"')
    (notBackslash : char ≠ '\\') : char.toNat < 128 := by
  have control : isControl char = true := by
    simpa [isPlain, isPrintable, notTab, notNewline, notQuote, notBackslash] using special
  simp only [isControl, Bool.and_eq_true, Bool.or_eq_true, decide_eq_true_eq, beq_iff_eq] at control
  omega

/-- An escape is a letter or a code that stands for the character. -/
theorem readEscape?_escape {char : Char} (special : isPlain char = false ∨ char = '\t') :
    ∃ letter more, escape char = '\\' :: letter :: more ∧
      letter ∉ [' ', '\t', '\n', '\r'] ∧
      ∀ rest, readEscape? (letter :: more ++ rest) = some (char, rest) := by
  unfold escape
  split
  case h_8 =>
    rename_i notTab notNewline _ _ notQuote notBackslash
    have read := ofCode?_hexDigits char.toNat
      (toNat_lt_of_special special notTab notNewline notQuote notBackslash)
    rw [Char.ofNat_toNat] at read
    refine ⟨_, _, rfl, by decide, fun rest => ?_⟩
    show (ofCode? _).map (·, rest) = _
    rw [read]
    rfl
  all_goals exact ⟨_, _, rfl, by decide, fun _ => rfl⟩

/-- An escape is read as one piece: what follows the backslash is no blank or line break. -/
theorem piece?_escape {char : Char} (escapes : form.escapes = true)
    (special : isPlain char = false ∨ char = '\t') :
    form.piece? (escape char ++ rest) = some ⟨[char], rest, false⟩ := by
  obtain ⟨letter, more, written, apart, read⟩ := readEscape?_escape special
  have mark : '\\' ≠ form.mark := by
    rw [mark_of_escapes escapes]
    decide
  have kept : skipBlanks (letter :: (more ++ rest)) = letter :: (more ++ rest) :=
    skipBlanks_eq (isBlank_eq_false apart (by decide) (by decide)) (.inl rfl) _
  have unfolded : skipFold? (letter :: (more ++ rest)) = none := by
    rw [skipFold?, kept, lineBreak?_eq_none apart (by decide) (by decide), Option.map_none]
  have fold : (if form.spansLines then skipFold? (letter :: (more ++ rest)) else none) = none := by
    rw [unfolded, ite_self]
  rw [written, List.cons_append, List.cons_append, piece?, if_neg mark, if_pos ⟨escapes, rfl⟩,
    fold]
  simp only [← List.cons_append, read, Option.map_some]

/-- What the writer escapes, the reader reads. -/
theorem spelled_escaped (escapes : form.escapes = true) (marks : Nat) (text : List Char) :
    Spelled form marks text (escaped form marks text) := by
  have mark := mark_of_escapes escapes
  fun_induction escaped form marks text with
  | case1 marks => exact .nil marks
  | case2 marks char rest free ih =>
    obtain ⟨rfl, free⟩ := free
    rw [← mark]
    exact .mark free ih
  | case3 marks char rest bound plain ih =>
    obtain ⟨plain, -⟩ := plain
    simp only [isPlain, Bool.and_eq_true, bne_iff_ne] at plain
    obtain ⟨⟨printable, notQuote⟩, notBackslash⟩ := plain
    rw [← mark] at notQuote
    exact .itself notQuote
      (fun _ => piece?_plain notQuote (fun escape => notBackslash escape.2) printable) ih
  | case4 marks char rest bound special newline ih =>
    obtain ⟨rfl, spans⟩ := newline
    have apart : '\n' ≠ form.mark := by
      rw [mark]
      decide
    exact .itself apart (fun _ => piece?_newline spans) ih
  | case5 marks char rest bound special single ih =>
    replace special : isPlain char = false ∨ char = '\t' := by
      by_cases tab : char = '\t'
      · exact .inr tab
      · exact .inl (Bool.eq_false_iff.mpr fun plain => special ⟨plain, tab⟩)
    refine .char (fun same => ?_) (fun _ => piece?_escape escapes special) ih
    obtain ⟨letter, more, written, -⟩ := readEscape?_escape special
    rw [written, mark] at same
    cases same

/-! ## Spelling without escapes -/

theorem runs_cons (mark char : Char) (rest : List Char) :
    runs mark (char :: rest) =
      if char = mark then
        (max (runs mark rest).1 ((runs mark rest).2 + 1), (runs mark rest).2 + 1)
      else ((runs mark rest).1, 0) := rfl

theorem runs_snd_le (mark : Char) (text : List Char) :
    (runs mark text).2 ≤ (runs mark text).1 := by
  cases text with
  | nil => exact Nat.le_refl 0
  | cons char rest =>
    rw [runs_cons]
    split
    · exact Nat.le_max_right _ _
    · exact Nat.zero_le _

/-- A text without marks in long rows spells itself where nothing is escaped. -/
theorem spelled_self (plain : form.escapes = false)
    (printable : ∀ char ∈ text, isControl char = false)
    (lines : form.spansLines = true ∨ '\n' ∉ text)
    (few : (runs form.mark text).1 ≤ form.freeMarks)
    (first : marks + (runs form.mark text).2 ≤ form.freeMarks) :
    Spelled form marks text text := by
  induction text generalizing marks with
  | nil => exact .nil marks
  | cons char rest ih =>
    replace ih (marks : Nat) := @ih marks (fun other among => printable other (.tail _ among))
      (lines.imp_right fun single among => single (.tail _ among))
    rw [runs_cons] at few first
    split at few
    · rename_i equal
      subst equal
      rw [if_pos rfl] at first
      exact .mark (by omega) (ih _ (Nat.le_trans (Nat.le_max_left _ _) few) (by omega))
    · rename_i apart
      have later := runs_snd_le form.mark rest
      refine .itself apart (fun after => ?_) (ih _ few (by omega))
      by_cases newline : char = '\n'
      · subst newline
        exact piece?_newline (lines.resolve_right fun single => single List.mem_cons_self)
      · refine piece?_plain apart (fun escape => ?_) ?_
        · rw [plain] at escape
          cases escape.1
        · rw [isPrintable, printable char List.mem_cons_self, Bool.not_false, Bool.and_true]
          exact bne_iff_ne.mpr newline

theorem spelled_of_suits (plain : form.escapes = false) (suits : form.suits text = true) :
    Spelled form 0 text text := by
  simp only [Quotation.suits, plain, Bool.false_and, Bool.not_false, Bool.and_true,
    Bool.and_eq_true, Bool.not_eq_true', List.any_eq_false, Bool.and_eq_false_iff,
    Bool.not_eq_false'] at suits
  obtain ⟨⟨printable, lines⟩, few⟩ := suits
  replace few : (runs form.mark text).1 ≤ form.freeMarks := of_decide_eq_true few
  have first := runs_snd_le form.mark text
  exact spelled_self plain (fun char among => Bool.eq_false_iff.mpr (printable char among))
    (lines.imp_right fun single among => by simp [among] at single) few (by omega)

theorem escapes_or_suits_choose (text : List Char) :
    (choose text).escapes = true ∨ (choose text).suits text = true := by
  rw [choose]
  split
  · rename_i found
    have suits := List.find?_some found
    exact .inr suits
  · left
    split <;> rfl

/-- The form that is chosen for a text spells it. -/
theorem spelled_choose (text : List Char) :
    Spelled (choose text) 0 text
      (if (choose text).escapes then escaped (choose text) 0 text else text) := by
  split
  · rename_i escapes
    exact spelled_escaped escapes 0 text
  · rename_i plain
    exact spelled_of_suits (Bool.eq_false_iff.mpr plain)
      ((escapes_or_suits_choose text).resolve_left plain)

/-! ## Whole strings -/

theorem lineBreak?_mark (form : Quotation) (later : List Char) :
    lineBreak? (form.mark :: later) = none := by
  cases form <;> rfl

theorem piece?_lineBreak? (spans : form.spansLines = true) (broken : lineBreak? text = some rest) :
    form.piece? text = some ⟨['\n'], rest, false⟩ := by
  unfold lineBreak? at broken
  split at broken
  · cases broken
    exact piece?_newline spans
  · cases broken
    cases form <;> first | rfl | cases spans
  · cases broken

/-- A text without line breaks is spelled without one at the front. -/
theorem lineBreak?_spelled (spans : form.spansLines = true) (spelled : Spelled form marks text body)
    (line : '\n' ∉ text) (later : List Char) : lineBreak? (body ++ form.mark :: later) = none := by
  cases spelled with
  | nil => exact lineBreak?_mark form later
  | mark => exact lineBreak?_mark form _
  | char begins reads more =>
    rw [List.append_assoc]
    cases broken : lineBreak? _ with
    | none => rfl
    | some rest =>
      cases (piece?_lineBreak? spans broken).symm.trans (reads _)
      exact absurd List.mem_cons_self line

theorem readOpening?_triple (spans : form.spansLines = true) (after : List Char) :
    readOpening? (form.delimiter ++ after) = some (form, (lineBreak? after).getD after) := by
  cases form <;> first | rfl | cases spans

theorem readOpening?_single (single : form.spansLines = false) {after : List Char}
    (apart : ∀ more, after ≠ form.mark :: form.mark :: more) :
    readOpening? (form.mark :: after) = some (form, after) := by
  cases form with
  | basic =>
    rw [mark, readOpening?]
    exact apart
  | literal =>
    rw [mark, readOpening?]
    exact apart
  | tripleBasic => cases single
  | tripleLiteral => cases single

/-- The marks that open a string tell its form. -/
theorem readOpening?_spelled (spelled : Spelled form 0 text body)
    (apart : rest.head? ≠ some form.mark) :
    readOpening? (form.delimiter ++
      (if form.spansLines && text.contains '\n' then ['\n'] else []) ++ body ++ form.delimiter ++
      rest) = some (form, body ++ form.delimiter ++ rest) := by
  cases spans : form.spansLines with
  | true =>
    simp only [List.append_assoc, Bool.true_and]
    rw [readOpening?_triple spans]
    split
    · rfl
    · rename_i line
      have delimiter : form.delimiter = form.mark :: List.replicate 2 form.mark := by
        rw [Quotation.delimiter, spans]
        rfl
      have unbroken := lineBreak?_spelled spans spelled (by simpa using line)
        (List.replicate 2 form.mark ++ rest)
      rw [delimiter, List.nil_append, List.cons_append, unbroken]
      rfl
  | false =>
    have delimiter : form.delimiter = [form.mark] := by
      rw [Quotation.delimiter, spans]
      rfl
    rw [Bool.false_and, if_neg Bool.false_ne_true, List.append_nil, delimiter]
    simp only [List.append_assoc]
    refine readOpening?_single spans fun more same => ?_
    cases spelled with
    | nil =>
      cases rest with
      | nil => cases same
      | cons char more => exact apart (congrArg some (List.cons.inj (List.cons.inj same).2).1)
    | mark free =>
      rw [freeMarks, spans] at free
      cases free
    | @char _ _ spelling _ _ begins reads =>
      cases spelling with
      | nil => cases reads []
      | cons first after => exact begins (congrArg some (List.cons.inj same).1)

/-- A string reads back as the text it was written for. -/
theorem read?_write (text : List Char) (apart : rest.head? ≠ some (choose text).mark) :
    read? ((choose text).write text ++ rest) = some (text, rest) := by
  have spelled := spelled_choose text
  have body := readBody?_spelled apart spelled (Nat.zero_le _)
  rw [List.replicate_zero, List.nil_append, List.nil_append] at body
  rw [write, read?, readOpening?_spelled spelled apart]
  exact body

end Telemetry.Toml.Quotation
