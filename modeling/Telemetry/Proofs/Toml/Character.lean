/-
# First characters

The readers decide by the first characters of a text. What is written begins with a character that
is known to be none of those that would lead elsewhere, which is how the readers' cases are told
apart here.
-/

import Telemetry.Toml.Character

namespace Telemetry.Toml

variable {char other : Char} {chars : List Char}

section Apart

variable (apart : char ∉ chars)
include apart

theorem cons_ne_cons (among : other ∈ chars) (more later : List Char) :
    char :: more ≠ other :: later := fun same =>
  apart ((List.cons.inj same).1 ▸ among)

theorem isBlank_eq_false (space : ' ' ∈ chars) (tab : '\t' ∈ chars) : isBlank char = false := by
  refine Bool.eq_false_iff.mpr fun blank => ?_
  simp only [isBlank, Bool.or_eq_true, beq_iff_eq] at blank
  rcases blank with rfl | rfl
  · exact apart space
  · exact apart tab

theorem lineBreak?_eq_none (newline : '\n' ∈ chars) (carriage : '\r' ∈ chars) (more : List Char) :
    lineBreak? (char :: more) = none := by
  unfold lineBreak?
  split
  · rename_i broken
    exact absurd broken (cons_ne_cons apart newline _ _)
  · rename_i broken
    exact absurd broken (cons_ne_cons apart carriage _ _)
  · rfl

end Apart

/-- A blank is left out before a character that is none. -/
theorem skipBlanks_eq (unblank : isBlank char = false) {lead : List Char}
    (blank : lead = [] ∨ lead = [' ']) (more : List Char) :
    skipBlanks (lead ++ char :: more) = char :: more := by
  have kept := List.dropWhile_cons_of_neg (l := more) (Bool.eq_false_iff.mp unblank)
  rcases blank with rfl | rfl <;> exact kept

/-- No character of a name separates, quotes, or begins a comment or a heading. -/
theorem apart_of_bare (bare : isBare char = true) :
    char ∉ [' ', '\t', '\n', '\r', '#', '[', '"', '\'', '\ufeff'] := by
  intro among
  simp only [List.mem_cons, List.not_mem_nil, or_false] at among
  rcases among with rfl | rfl | rfl | rfl | rfl | rfl | rfl | rfl | rfl <;> cases bare

end Telemetry.Toml
