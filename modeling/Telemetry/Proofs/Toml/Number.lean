/-
# Numbers read back

A document writes a double with a point and the digits of its shortest decimal, or by name where
it has no digits, and an integer without a point. Neither can be taken for a date, or the one for
the other, and each reads back as it was, the sign of a zero included.
-/

import Telemetry.Proofs.Decimal.Shortest
import Telemetry.Proofs.Toml.Character
import Telemetry.Proofs.Toml.Positional
import Telemetry.Toml.Reader

namespace Telemetry.Toml

open Binary64 (Grid.infinity)

/-- What may follow a value: the end of its line, or of an element of an array. -/
inductive EndsValue : List Char → Prop where
  | line (later : List Char) : EndsValue ('\n' :: later)
  | element (later : List Char) : EndsValue (',' :: later)
  | array (later : List Char) : EndsValue (']' :: later)

/-! ## Reading -/

section Reading

variable {digits later : List Char} {stop : Char}

namespace Moment

/-- After a run of digits, or inside it, there is nothing but a digit or what ends the run. -/
theorem after?_number? {count number : Nat} {rest : List Char} {expected : Char}
    (found : number? count (digits ++ stop :: later) = some (number, rest))
    (all : IsDigits digits) (ends : stop.isDigit = false) (separates : expected.isDigit = false)
    (apart : stop = expected → digits.length < count) : after? expected rest = none := by
  simp only [number?, Option.ite_none_right_eq_some, Option.some.injEq, Prod.mk.injEq,
    List.all_eq_true] at found
  obtain ⟨⟨-, taken⟩, -, rfl⟩ := found
  have fits : count ≤ digits.length := by
    by_contra short
    obtain ⟨more, size⟩ := Nat.exists_eq_add_of_lt (Nat.lt_of_not_le short)
    have among : stop ∈ (digits ++ stop :: later).take count := by
      rw [size, Nat.add_assoc, List.take_length_add_append, List.take_succ_cons]
      exact List.mem_append_right _ List.mem_cons_self
    exact absurd (taken stop among) (Bool.eq_false_iff.mp ends)
  rw [List.drop_append_of_le_length fits]
  cases left : digits.drop count with
  | nil => exact if_neg fun equal => absurd (apart equal) (Nat.not_lt.mpr fits)
  | cons digit more =>
    have isDigit := all digit (List.mem_of_mem_drop (left ▸ List.mem_cons_self))
    refine if_neg fun equal => ?_
    rw [equal, separates] at isDigit
    cases isDigit

/-- A date needs a dash after its year, and a time a colon after its hours. -/
theorem read?_eq_none (all : IsDigits digits) (ends : stop.isDigit = false)
    (undated : stop = '-' → digits = []) (timeless : stop ≠ ':') :
    read? (digits ++ stop :: later) = none := by
  have date : skipDate? (digits ++ stop :: later) = none := by
    rw [skipDate?]
    cases found : number? 4 (digits ++ stop :: later) with
    | none => rfl
    | some year =>
      have nothing : after? '-' year.2 = none := after?_number? found all ends rfl fun equal =>
        (undated equal).symm ▸ Nat.zero_lt_succ 3
      simp only [Option.bind_eq_bind, Option.bind_some, nothing, Option.bind_none]
  have time : skipTime? (digits ++ stop :: later) = none := by
    rw [skipTime?, skipMinutes?]
    cases found : number? 2 (digits ++ stop :: later) with
    | none => rfl
    | some hour =>
      have nothing : after? ':' hour.2 = none := after?_number? found all ends rfl
        fun equal => absurd equal timeless
      simp only [Option.bind_eq_bind, Option.bind_some, nothing, Option.bind_none]
  rw [read?, skip?, date]
  simp only [time, Option.map_none]

end Moment

namespace Number

theorem moreDigits_append (later : List Char) (all : IsDigits digits)
    (ends : stop.isDigit = false) (apart : stop ≠ '_') :
    moreDigits Char.isDigit (digits ++ stop :: later) = (digits, stop :: later) := by
  induction digits with
  | nil =>
    rw [List.nil_append, moreDigits, if_neg (Bool.eq_false_iff.mp ends)]
    rintro digit rest rfl
    exact absurd rfl apart
  | cons digit more ih =>
    have isDigit := all digit List.mem_cons_self
    rw [List.cons_append, moreDigits, if_pos isDigit, ih fun char among =>
      all char (List.mem_cons_of_mem _ among)]
    rintro _ rest rfl
    cases isDigit

theorem digits?_append (later : List Char) (all : IsDigits digits) (present : digits ≠ [])
    (ends : stop.isDigit = false) (apart : stop ≠ '_') :
    digits? Char.isDigit (digits ++ stop :: later) = some (digits, stop :: later) := by
  obtain ⟨digit, more, rfl⟩ := List.exists_cons_of_ne_nil present
  have isDigit := all digit List.mem_cons_self
  have rest := moreDigits_append later
    (fun char among => all char (List.mem_cons_of_mem digit among)) ends apart
  rw [List.cons_append, digits?, if_pos isDigit, rest]

theorem whole?_append (later : List Char) (whole : IsWhole digits) (ends : stop.isDigit = false)
    (apart : stop ≠ '_') :
    whole? (digits ++ stop :: later) = some (digits, stop :: later) := by
  cases whole with
  | zero => rfl
  | leading nonzero all =>
    rw [whole?, digits?_append later all (List.cons_ne_nil _ _) ends apart]
    rintro rest equal
    exact nonzero (List.cons.inj equal).1

/-- What is written before the digits of a number. -/
def signText (negative : Bool) : List Char :=
  if negative then ['-'] else []

theorem readSign_append (whole : IsWhole digits) (negative : Bool) :
    readSign (signText negative ++ (digits ++ later)) = (negative, digits ++ later) := by
  cases negative with
  | true => rfl
  | false =>
    obtain ⟨digit, more, rfl⟩ : ∃ digit more, digits = digit :: more := by
      cases whole <;> exact ⟨_, _, rfl⟩
    have isDigit := whole.isDigits digit List.mem_cons_self
    show readSign (digit :: (more ++ later)) = _
    unfold readSign
    split
    · rename_i equal
      obtain ⟨rfl, -⟩ := List.cons.inj equal
      cases isDigit
    · rename_i equal
      obtain ⟨rfl, -⟩ := List.cons.inj equal
      cases isDigit
    · rfl

end Number

variable {rest : List Char}

/-- Nothing that continues a number may follow a value. -/
theorem EndsValue.exists_stop (ends : EndsValue rest) :
    ∃ stop later, rest = stop :: later ∧ stop.isDigit = false ∧
      stop ∉ ['_', '.', 'e', 'E', '-', ':', 'x', 'o', 'b'] := by
  cases ends <;> exact ⟨_, _, rfl, rfl, by decide⟩

namespace Number

theorem readExponent?_ends (ends : EndsValue rest) : readExponent? rest = some (none, rest) := by
  obtain ⟨stop, later, rfl, -, apart⟩ := ends.exists_stop
  unfold readExponent?
  split
  · rename_i mark
    exact absurd mark (cons_ne_cons apart (by decide) _ _)
  · rename_i mark
    exact absurd mark (cons_ne_cons apart (by decide) _ _)
  · rfl

/-- A double is its sign and the number of its magnitude. -/
theorem toFloat_eq {decimal : Decimal} {number : Float}
    (nearest : decimal.nearest = number.toBits.toNat % 2 ^ 63) :
    decimal.toFloat (2 ^ 63 ≤ number.toBits.toNat) = number := by
  have bounded := number.toBits.toNat_lt
  have small : UInt64.toNat (UInt64.ofNat (number.toBits.toNat % 2 ^ 63)) =
      number.toBits.toNat % 2 ^ 63 :=
    UInt64.toNat_ofNat_of_lt' (Nat.lt_trans (Nat.mod_lt _ (by decide)) (by decide))
  rw [Decimal.toFloat, nearest]
  refine Eq.trans (congrArg Float.ofBits (UInt64.toNat_inj.mp ?_)) number.ofBits_toBits
  by_cases negative : 2 ^ 63 ≤ number.toBits.toNat
  · have high : UInt64.toNat 0x8000000000000000 = 2 ^ 63 * 1 := rfl
    have joined := Nat.two_pow_add_eq_or_of_lt
      (Nat.mod_lt number.toBits.toNat (Nat.two_pow_pos 63)) 1
    rw [if_pos (decide_eq_true negative), UInt64.toNat_or, small, high, Nat.or_comm, ← joined]
    omega
  · rw [if_neg (by simpa using negative), small]
    omega

/-- Digits around a point read back as the double they are nearest to. -/
theorem readFloat?_pointed {number : Float} {text : List Char}
    (pointed : Pointed (number.toBits.toNat % 2 ^ 63) text)
    (finite : number.toBits.toNat % 2 ^ 63 ≠ Grid.infinity) (ends : EndsValue rest) :
    readFloat? (signText (2 ^ 63 ≤ number.toBits.toNat) ++ (text ++ rest)) =
      some (number, rest) := by
  obtain @⟨whole, fraction, isWhole, digits, present, nearest⟩ := pointed
  have exponent := readExponent?_ends ends
  obtain ⟨stop, later, rfl, notDigit, apart⟩ := ends.exists_stop
  have point : ('.').isDigit = false := rfl
  have before := whole?_append (fraction ++ stop :: later) isWhole point (by decide)
  have after := digits?_append later digits present notDigit
    fun equal => apart (equal ▸ List.mem_cons_self)
  have float : float? (2 ^ 63 ≤ number.toBits.toNat) whole fraction 0 = some number := by
    rw [float?, Int.zero_sub, if_neg, toFloat_eq nearest]
    exact fun past => finite (nearest.symm.trans past.1)
  rw [List.append_assoc, List.cons_append, readFloat?, readSign_append isWhole]
  simp only [before, readFraction?, after, exponent, Option.bind_eq_bind, Option.bind_some,
    List.isEmpty_eq_false_iff.mpr present, Bool.false_and, Option.getD_none, float]
  rfl

/-- Digits without a point are no double. -/
theorem readFloat?_whole {digits : List Char} (whole : IsWhole digits) (ends : EndsValue rest)
    (negative : Bool) : readFloat? (signText negative ++ (digits ++ rest)) = none := by
  have exponent := readExponent?_ends ends
  obtain ⟨stop, later, rfl, notDigit, apart⟩ := ends.exists_stop
  have before := whole?_append later whole notDigit
    fun equal => apart (equal ▸ List.mem_cons_self)
  have fraction : readFraction? (stop :: later) = some ([], stop :: later) := by
    unfold readFraction?
    split
    · rename_i point
      exact absurd point (cons_ne_cons apart (by decide) _ _)
    · rfl
  rw [readFloat?, readSign_append whole]
  simp only [before, fraction, exponent, Option.bind_eq_bind, Option.bind_some]
  rfl

/-- The digits of an integer read back, if it fits in 64 bits. -/
theorem readInteger?_toDigits {negative : Bool} {magnitude : Nat} {number : Int}
    (fits : integer? negative magnitude = some number) (ends : EndsValue rest) :
    readInteger? (signText negative ++ (Nat.toDigits 10 magnitude ++ rest)) =
      some (number, rest) := by
  have whole := isWhole_toDigits magnitude
  have value := numberOf_toDigits magnitude
  generalize Nat.toDigits 10 magnitude = digits at whole value ⊢
  obtain ⟨stop, later, rfl, notDigit, apart⟩ := ends.exists_stop
  -- What follows a zero is no mark of another base.
  have decimal {char : Char} {more : List Char}
      (equal : signText negative ++ (digits ++ stop :: later) = '0' :: char :: more) :
      char = stop := by
    cases negative with
    | true => exact absurd (List.cons.inj equal).1 (by decide)
    | false =>
      cases whole with
      | zero => exact (List.cons.inj (List.cons.inj equal).2).1.symm
      | leading nonzero => exact absurd (List.cons.inj equal).1 nonzero
  have before := whole?_append later whole notDigit
    fun equal => apart (equal ▸ List.mem_cons_self)
  unfold readInteger?
  split
  · rename_i equal
    simp [← decimal equal] at apart
  · rename_i equal
    simp [← decimal equal] at apart
  · rename_i equal
    simp [← decimal equal] at apart
  · rw [readSign_append whole]
    simp only [before, Option.bind_eq_bind, Option.bind_some, value, fits]
    rfl

end Number

open Number (signText)

section Scalars

variable {digits text : List Char} {number : Float}

theorem Moment.read?_signed {stop : Char} (later : List Char) (all : IsDigits digits)
    (ends : stop.isDigit = false) (apart : stop ≠ '-' ∧ stop ≠ ':') (negative : Bool) :
    Moment.read? (signText negative ++ (digits ++ stop :: later)) = none := by
  cases negative with
  | true =>
    have nothing : IsDigits [] := fun _ among => absurd among List.not_mem_nil
    have dash : ('-').isDigit = false := rfl
    exact Moment.read?_eq_none nothing dash (fun _ => rfl) (by decide)
  | false => exact Moment.read?_eq_none all ends (fun equal => absurd equal apart.1) apart.2

theorem readNumeric?_pointed (pointed : Pointed (number.toBits.toNat % 2 ^ 63) text)
    (finite : number.toBits.toNat % 2 ^ 63 ≠ Grid.infinity) (ends : EndsValue rest) :
    readNumeric? (signText (2 ^ 63 ≤ number.toBits.toNat) ++ (text ++ rest)) =
      some (.float number, rest) := by
  have float := Number.readFloat?_pointed pointed finite ends
  obtain @⟨whole, fraction, isWhole, digits, present, nearest⟩ := pointed
  have point : ('.').isDigit = false := rfl
  have undated := Moment.read?_signed (fraction ++ rest) isWhole.isDigits point (by decide)
    (2 ^ 63 ≤ number.toBits.toNat)
  rw [List.append_assoc, List.cons_append] at float ⊢
  rw [readNumeric?, undated]
  simp only [float]

theorem readNumeric?_toDigits {negative : Bool} {magnitude : Nat} {integer : Int}
    (fits : Number.integer? negative magnitude = some integer) (ends : EndsValue rest) :
    readNumeric? (signText negative ++ (Nat.toDigits 10 magnitude ++ rest)) =
      some (.integer integer, rest) := by
  have noFloat := Number.readFloat?_whole (isWhole_toDigits magnitude) ends negative
  have read := Number.readInteger?_toDigits fits ends
  obtain ⟨stop, later, rfl, notDigit, apart⟩ := ends.exists_stop
  have undated := Moment.read?_signed later (isDigits_toDigits magnitude) notDigit
    ⟨fun equal => by simp [equal] at apart, fun equal => by simp [equal] at apart⟩ negative
  rw [readNumeric?, undated]
  simp only [noFloat, read, Option.map_some]

/-- Whatever begins with a digit or a minus sign is a number. -/
theorem readScalar?_signed (whole : IsWhole digits) (negative : Bool) (later : List Char) :
    readScalar? (signText negative ++ (digits ++ later)) =
      readNumeric? (signText negative ++ (digits ++ later)) := by
  obtain ⟨char, more, equal, leads⟩ : ∃ char more,
      signText negative ++ (digits ++ later) = char :: more ∧
        (char.isDigit = true ∨ char = '-') := by
    cases negative with
    | true => exact ⟨'-', digits ++ later, rfl, .inr rfl⟩
    | false =>
      have all := whole.isDigits
      cases whole with
      | zero => exact ⟨'0', later, rfl, .inl rfl⟩
      | leading _ _ => exact ⟨_, _, rfl, .inl (all _ List.mem_cons_self)⟩
  rw [equal]
  unfold readScalar?
  split
  · rename_i same
    obtain ⟨rfl, -⟩ := List.cons.inj same
    simp at leads
  · rename_i same
    obtain ⟨rfl, -⟩ := List.cons.inj same
    simp at leads
  · rename_i same
    obtain ⟨rfl, rfl⟩ := List.cons.inj same
    rw [if_neg, if_pos]
    · exact leads.imp_right .inr
    · rintro (rfl | rfl) <;> simp at leads
  · rename_i same
    cases same

/-- There is only one NaN. -/
theorem eq_nan (past : Grid.infinity < number.toBits.toNat % 2 ^ 63) : number = 0 / 0 := by
  let value : Binary64 := ⟨number.toBits⟩
  have infinity : Grid.infinity = 2047 * 2 ^ 52 := rfl
  have highest : (-1#11 : BitVec 11).toNat = 2047 := rfl
  have ones : value.field = -1#11 := by
    rw [← BitVec.toNat_inj, value.toNat_field, highest]
    show number.toBits.toNat / 2 ^ 52 % 2 ^ 11 = 2047
    omega
  have rest : value.stored ≠ 0#52 := by
    rw [Ne, ← BitVec.toNat_inj, value.toNat_stored]
    show number.toBits.toNat % 2 ^ 52 ≠ 0
    omega
  have bits : number.toBits = (0 / 0 : Float).toBits := by
    have standard : (0 / 0 : Float).toBits.toBitVec =
        Float.Model.UnpackedFloat.packedNaN .binary64 := by decide +kernel
    rw [← UInt64.toBitVec_inj, standard]
    exact number.toModel.valid.eq_packedNaN ones rest
  rw [← number.ofBits_toBits, bits, Float.ofBits_toBits]

/-- The two infinities differ in their sign. -/
theorem eq_infinity (infinite : number.toBits.toNat % 2 ^ 63 = Grid.infinity) :
    number = if 2 ^ 63 ≤ number.toBits.toNat then -1 / 0 else 1 / 0 := by
  have bounded := number.toBits.toNat_lt
  have infinity : Grid.infinity = 2047 * 2 ^ 52 := rfl
  have above : (1 / 0 : Float).toBits.toNat = 2047 * 2 ^ 52 := by decide +kernel
  have below : (-1 / 0 : Float).toBits.toNat = 2 ^ 63 + 2047 * 2 ^ 52 := by decide +kernel
  split
  · have bits : number.toBits = (-1 / 0 : Float).toBits := UInt64.toNat_inj.mp (by omega)
    rw [← number.ofBits_toBits, bits, Float.ofBits_toBits]
  · have bits : number.toBits = (1 / 0 : Float).toBits := UInt64.toNat_inj.mp (by omega)
    rw [← number.ofBits_toBits, bits, Float.ofBits_toBits]

/-- The text of a finite double has a point. -/
theorem exists_pointed {index : Nat} (finite : index < Grid.infinity) (negative : Bool) :
    ∃ text, Pointed index text ∧
      (NumberStyle.document.renderSigned negative index).toList = signText negative ++ text := by
  have sign : (if negative then "-" else "").toList = signText negative := by
    cases negative <;> rfl
  simp only [NumberStyle.renderSigned, if_neg (Nat.not_lt.mpr finite.le), if_neg finite.ne]
  split
  · rename_i zero
    rw [zero, String.toList_append, String.toList_append, sign, List.append_assoc]
    exact ⟨_, .intro .zero (isDigits_replicate 1) (List.cons_ne_nil _ _) rfl, rfl⟩
  · rename_i nonzero
    have nearest := Decimal.nearest_shortest finite.le
    have positive : 0 < (Decimal.shortest index).coefficient := by
      refine Nat.pos_of_ne_zero fun zero => nonzero ?_
      rw [← nearest, Decimal.nearest, if_pos zero]
    have pointed := pointed_positional positive
    rw [nearest] at pointed
    rw [String.toList_append, sign]
    exact ⟨_, pointed, rfl⟩

/-- Every double reads back from a document. -/
theorem readScalar?_render (number : Float) (ends : EndsValue rest) :
    readScalar? ((NumberStyle.document.render number).toList ++ rest) =
      some (.float number, rest) := by
  have half : 0x8000000000000000 = 2 ^ 63 := rfl
  rw [NumberStyle.render, half]
  rcases Nat.lt_trichotomy (number.toBits.toNat % 2 ^ 63) Grid.infinity with
    finite | infinite | undefined
  · obtain ⟨text, pointed, equal⟩ := exists_pointed finite (2 ^ 63 ≤ number.toBits.toNat)
    have read := readNumeric?_pointed pointed finite.ne ends
    rw [equal, List.append_assoc, ← read]
    obtain @⟨whole, fraction, isWhole, digits, present, nearest⟩ := pointed
    rw [List.append_assoc]
    exact readScalar?_signed isWhole _ _
  · simp only [NumberStyle.renderSigned, if_neg (Nat.not_lt.mpr infinite.le), if_pos infinite]
    have read := eq_infinity infinite
    by_cases negative : 2 ^ 63 ≤ number.toBits.toNat
    · rw [if_pos negative] at read
      rw [if_pos (decide_eq_true negative), read]
      rfl
    · rw [if_neg negative] at read
      rw [if_neg (by simpa using negative), read]
      rfl
  · rw [NumberStyle.renderSigned]
    simp only [if_pos undefined]
    rw [eq_nan undefined]
    rfl

/-- Every integer of 64 bits reads back from a document. -/
theorem readScalar?_toString {integer : Int} (least : -2 ^ 63 ≤ integer) (most : integer < 2 ^ 63)
    (ends : EndsValue rest) :
    readScalar? ((toString integer).toList ++ rest) = some (.integer integer, rest) := by
  have text : (toString integer).toList =
      signText (integer < 0) ++ Nat.toDigits 10 integer.natAbs := by
    cases integer with
    | ofNat magnitude => exact Nat.toList_repr
    | negSucc magnitude =>
      rw [decide_eq_true (Int.negSucc_lt_zero magnitude)]
      show ("-" ++ (magnitude + 1).repr).toList = ['-'] ++ Nat.toDigits 10 (magnitude + 1)
      rw [String.toList_append, Nat.toList_repr]
      rfl
  have fits : Number.integer? (integer < 0) integer.natAbs = some integer := by
    have signed : (if integer < 0 then -(integer.natAbs : Int) else integer.natAbs) = integer := by
      omega
    simp only [Number.integer?, decide_eq_true_eq, signed]
    exact if_pos ⟨least, most⟩
  rw [text, List.append_assoc, readScalar?_signed (isWhole_toDigits _)]
  exact readNumeric?_toDigits fits ends

end Scalars

end Reading

end Telemetry.Toml
