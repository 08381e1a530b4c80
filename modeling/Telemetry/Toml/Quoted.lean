/-
# Strings

A string is written between double quotes, where a backslash introduces an escape, or
between single quotes, where every character stands for itself. Tripled quotes admit
line breaks. Single and double quotes of the delimiting kind may stand inside tripled
ones in runs of at most two, at the end as well, so a closing run has up to five.

Writing picks the first of these forms that needs no escape.
-/

import Telemetry.Toml.Character

namespace Telemetry.Toml

/-- The forms of a string. -/
inductive Quotation where
  | basic
  | literal
  | tripleBasic
  | tripleLiteral
deriving DecidableEq, Repr

namespace Quotation

/-- Whether escapes are known. -/
def escapes : Quotation → Bool
  | basic | tripleBasic => true
  | literal | tripleLiteral => false

/-- Whether line breaks are admitted. -/
def spansLines : Quotation → Bool
  | basic | literal => false
  | tripleBasic | tripleLiteral => true

/-- The character that delimits. -/
def mark : Quotation → Char
  | basic | tripleBasic => '"'
  | literal | tripleLiteral => '\''

/-- The text that opens and closes. -/
def delimiter (form : Quotation) : List Char :=
  List.replicate (if form.spansLines then 3 else 1) form.mark

/-- Marks that may stand in a row as they are. -/
def freeMarks (form : Quotation) : Nat :=
  if form.spansLines then 2 else 0

/-! ## Writing -/

/-- The longest run of a character, and the run that the text begins with. -/
def runs (mark : Char) : List Char → Nat × Nat
  | [] => (0, 0)
  | char :: rest =>
    let (longest, first) := runs mark rest
    if char = mark then (max longest (first + 1), first + 1) else (longest, 0)

/-- The longest run of a character. -/
def longestRun (mark : Char) (text : List Char) : Nat :=
  (runs mark text).1

/-- Whether a form writes a text without any escape. -/
def suits (form : Quotation) (text : List Char) : Bool :=
  !text.any isControl
    && !(form.escapes && text.contains '\\')
    && !(!form.spansLines && text.contains '\n')
    && longestRun form.mark text ≤ form.freeMarks

/-- The form in which a text is written: the plainest that suits, or else one with
escapes, which spans lines if the text does. -/
def choose (text : List Char) : Quotation :=
  match [basic, literal, tripleBasic, tripleLiteral].find? (·.suits text) with
  | some form => form
  | none => if text.contains '\n' then tripleBasic else basic

/-- A hexadecimal digit. -/
def hexDigit (value : Nat) : Char :=
  Nat.digitChar value |>.toUpper

/-- The escape for a character. -/
def escape (char : Char) : List Char :=
  match char with
  | '\x08' => ['\\', 'b']
  | '\t' => ['\\', 't']
  | '\n' => ['\\', 'n']
  | '\x0c' => ['\\', 'f']
  | '\r' => ['\\', 'r']
  | '"' => ['\\', '"']
  | '\\' => ['\\', '\\']
  | _ =>
    let code := char.toNat
    ['\\', 'u', hexDigit (code / 4096 % 16), hexDigit (code / 256 % 16),
      hexDigit (code / 16 % 16), hexDigit (code % 16)]

/-- The text between double quotes. A mark is escaped when too many stand in a row
before it, and a line break unless the form spans lines. -/
def escaped (form : Quotation) : (marks : Nat) → List Char → List Char
  | _, [] => []
  | marks, char :: rest =>
    if char = '"' ∧ marks < form.freeMarks then '"' :: escaped form (marks + 1) rest
    else if isPlain char ∧ char ≠ '\t' then char :: escaped form 0 rest
    else if char = '\n' ∧ form.spansLines then '\n' :: escaped form 0 rest
    else escape char ++ escaped form 0 rest

/-- A text in a given form. Text that spans lines begins on a line of its own. -/
def write (form : Quotation) (text : List Char) : List Char :=
  let opening := if form.spansLines && text.contains '\n' then ['\n'] else []
  let body := if form.escapes then escaped form 0 text else text
  form.delimiter ++ opening ++ body ++ form.delimiter

/-! ## Reading -/

/-- The character with a given code, which is written in hexadecimal digits. Codes that
belong to no character are refused. -/
def ofCode? (digits : List Char) : Option Char :=
  let code := numberOf 16 digits
  if digits.all (fun digit => (hexDigit? digit).isSome) ∧ code.isValidChar then
    some (Char.ofNat code)
  else none

/-- The character that an escape of one letter stands for. -/
def ofLetter? : Char → Option Char
  | 'b' => some '\x08'
  | 't' => some '\t'
  | 'n' => some '\n'
  | 'f' => some '\x0c'
  | 'r' => some '\r'
  | '"' => some '"'
  | '\\' => some '\\'
  | _ => none

/-- The character that an escape stands for, and what is left after it. -/
def readEscape? : List Char → Option (Char × List Char)
  | 'u' :: a :: b :: c :: d :: rest => (ofCode? [a, b, c, d]).map (·, rest)
  | 'U' :: a :: b :: c :: d :: e :: f :: g :: h :: rest =>
    (ofCode? [a, b, c, d, e, f, g, h]).map (·, rest)
  | letter :: rest => (ofLetter? letter).map (·, rest)
  | [] => none

/-- What is left after blanks and line breaks. -/
def skipSpace : List Char → List Char
  | '\r' :: '\n' :: rest => skipSpace rest
  | char :: rest => if isBlank char || char == '\n' then skipSpace rest else char :: rest
  | [] => []

/-- What is left after an escaped line break: neither the blanks before it nor any blank
or line break after it counts. -/
def skipFold? (text : List Char) : Option (List Char) :=
  (lineBreak? (skipBlanks text)).map skipSpace

/-- Some of the text inside a string, with what is left after it. -/
structure Piece where
  content : List Char
  rest : List Char
  /-- The string ends with this piece. -/
  closes : Bool

/-- A run of marks. Between single marks the first one closes; between tripled ones, a
run closes if it has three marks to spare. -/
def markPiece? (form : Quotation) (count : Nat) (rest : List Char) : Option Piece :=
  if count ≤ form.freeMarks then some ⟨List.replicate count form.mark, rest, false⟩
  else
    let spare := count - form.delimiter.length
    if spare ≤ form.freeMarks then some ⟨List.replicate spare form.mark, rest, true⟩ else none

/-- The next piece of a string. -/
def piece? (form : Quotation) : List Char → Option Piece
  | [] => none
  | char :: rest =>
    if char = form.mark then
      if form.spansLines then
        let more := rest.takeWhile (· == form.mark)
        form.markPiece? (more.length + 1) (rest.drop more.length)
      else form.markPiece? 1 rest
    else if form.escapes ∧ char = '\\' then
      match if form.spansLines then skipFold? rest else none with
      | some rest => some ⟨[], rest, false⟩
      | none => (readEscape? rest).map fun (char, rest) => ⟨[char], rest, false⟩
    else if isPrintable char then some ⟨[char], rest, false⟩
    else if form.spansLines then
      (lineBreak? (char :: rest)).map fun rest => ⟨['\n'], rest, false⟩
    else none

theorem lineBreak?_shorter {text rest : List Char} (found : lineBreak? text = some rest) :
    rest.length < text.length := by
  unfold lineBreak? at found
  split at found
  case h_3 => cases found
  all_goals
    cases found
    simp only [List.length_cons]
    omega

theorem skipSpace_length (text : List Char) : (skipSpace text).length ≤ text.length := by
  fun_induction skipSpace text <;> simp_all <;> omega

theorem skipFold?_shorter {text rest : List Char} (found : skipFold? text = some rest) :
    rest.length < text.length := by
  simp only [skipFold?, Option.map_eq_some_iff] at found
  obtain ⟨line, broken, rfl⟩ := found
  have shorter := lineBreak?_shorter broken
  have spaces := skipSpace_length line
  have blanks : (skipBlanks text).length ≤ text.length :=
    (List.dropWhile_sublist isBlank).length_le
  omega

theorem readEscape?_shorter {text rest : List Char} {char : Char}
    (found : readEscape? text = some (char, rest)) : rest.length < text.length := by
  unfold readEscape? at found
  split at found
  case h_4 => simp at found
  all_goals
    obtain ⟨_, _, pair⟩ := Option.map_eq_some_iff.1 found
    cases pair
    simp only [List.length_cons]
    omega

theorem markPiece?_rest {form : Quotation} {count : Nat} {rest : List Char} {piece : Piece}
    (found : form.markPiece? count rest = some piece) : piece.rest = rest := by
  simp only [markPiece?] at found
  split at found
  · simp_all [← Option.some.inj found]
  · split at found
    · simp_all [← Option.some.inj found]
    · simp at found

theorem piece?_shorter {form : Quotation} {text : List Char} {piece : Piece}
    (found : form.piece? text = some piece) : piece.rest.length < text.length := by
  cases text with
  | nil => simp [piece?] at found
  | cons char rest =>
    simp only [piece?] at found
    split at found
    · split at found
      · rw [markPiece?_rest found]
        simp only [List.length_drop, List.length_cons]
        omega
      · rw [markPiece?_rest found]
        simp
    · split at found
      · split at found
        · rename_i later folded
          split at folded
          · have shorter := skipFold?_shorter folded
            simp only [← Option.some.inj found, List.length_cons]
            omega
          · simp at folded
        · simp only [Option.map_eq_some_iff] at found
          obtain ⟨⟨escapedChar, later⟩, escape, rfl⟩ := found
          have shorter := readEscape?_shorter escape
          simp only [List.length_cons]
          omega
      · split at found
        · simp [← Option.some.inj found]
        · split at found
          · simp only [Option.map_eq_some_iff] at found
            obtain ⟨later, broken, rfl⟩ := found
            exact lineBreak?_shorter broken
          · simp at found

/-- The text of a string up to its end, and what is left after it. -/
def readBody? (form : Quotation) (text : List Char) : Option (List Char × List Char) :=
  match found : form.piece? text with
  | none => none
  | some piece =>
    if piece.closes then some (piece.content, piece.rest)
    else
      have _shorter := piece?_shorter found
      (readBody? form piece.rest).map fun (content, rest) => (piece.content ++ content, rest)
termination_by text.length

/-- The form that a string opens with. A line break just after tripled marks does not
count. -/
def readOpening? : List Char → Option (Quotation × List Char)
  | '"' :: '"' :: '"' :: rest => some (tripleBasic, (lineBreak? rest).getD rest)
  | '\'' :: '\'' :: '\'' :: rest => some (tripleLiteral, (lineBreak? rest).getD rest)
  | '"' :: rest => some (basic, rest)
  | '\'' :: rest => some (literal, rest)
  | _ => none

/-- A string, and what is left after it. -/
def read? (text : List Char) : Option (List Char × List Char) := do
  let (form, rest) ← readOpening? text
  form.readBody? rest

end Quotation

end Telemetry.Toml
