/-
# Arithmetic on doubles

The sum, difference, product and quotient of finite doubles are the exact ones, rounded to a
nearest double, and a double is cut down to a whole number as its place is. So what holds of
exact results can be told of those that are computed, up to one rounding each.
-/

import Telemetry.Proofs.Binary64.Rounding

namespace Telemetry.Doubles

open Float.Model (Format UnpackedFloat totalExponent)
open Float.Model.UnpackedFloat (ExtendedMantissa Sign accuracyOfFraction decreaseExponent divCore
  roundWithAccuracy)

variable {first second : Float} {near far place : Rat} {sign : Sign} {mantissa shift : Nat}
  {exponent step : Int}

/-- Whether a number is a finite double. -/
def IsDouble (exact : Rat) : Prop :=
  ∃ number, place? number = some exact ∧ |exact| < limit

/-- What is a double already needs no rounding. -/
theorem nearest_of_place {number : Float} (placed : place? number = some place) :
    Nearest place number :=
  ⟨place, placed, fun other near _ => by rw [sub_self, abs_zero]; exact abs_nonneg _⟩

section Normalizing

theorem shiftLeft_mul_zpow (mantissa shift : Nat) (exponent : Int) :
    ((mantissa <<< shift : Nat) : Rat) * 2 ^ (exponent - shift) = mantissa * 2 ^ exponent := by
  rw [Nat.shiftLeft_eq, zpow_sub₀ two_ne_zero, zpow_natCast]
  push_cast
  field_simp

theorem log2_shiftLeft (positive : 0 < mantissa) (shift : Nat) :
    (mantissa <<< shift).log2 = mantissa.log2 + shift := by
  have scale : 0 < 2 ^ shift := Nat.two_pow_pos shift
  rw [Nat.shiftLeft_eq]
  refine (Nat.log2_eq_iff (Nat.mul_pos positive scale).ne').mpr ⟨?_, ?_⟩
  · rw [pow_add]
    exact Nat.mul_le_mul_right _ (Nat.log2_self_le positive.ne')
  · rw [Nat.add_right_comm, pow_add]
    exact Nat.mul_lt_mul_of_pos_right Nat.lt_log2_self scale

/-- Whatever the exponent is, the digits of the mantissa are brought into reach. -/
theorem nearest_round (positive : 0 < mantissa) (exponent : Int) (sign : Sign) :
    Nearest (signed sign (mantissa * 2 ^ exponent))
      (.ofModel (.pack (UnpackedFloat.round Format.binary64 sign mantissa exponent))) := by
  rw [UnpackedFloat.round, targetExponent_totalExponent, decreaseExponent]
  obtain ⟨shift, amount⟩ :
      ∃ shift, (exponent - max (mantissa.log2 + exponent - 52) (-1074)).toNat = shift := ⟨_, rfl⟩
  have digits := log2_shiftLeft positive shift
  rw [← shiftLeft_mul_zpow mantissa shift, ← add_zero ((mantissa <<< shift : Nat) : Rat), amount]
  exact nearest_roundWithAccuracy rfl (by omega)

theorem nearest_normalize (whole exponent : Int) (zero : Sign) :
    Nearest (whole * 2 ^ exponent)
      (.ofModel (.pack (UnpackedFloat.normalize Format.binary64 whole exponent zero))) := by
  rw [UnpackedFloat.normalize]
  rcases lt_trichotomy whole 0 with negative | rfl | positive
  · have size : ((-whole).toNat : Rat) = -whole := by
      exact_mod_cast Int.toNat_of_nonneg (by omega : 0 ≤ -whole)
    have rounded := nearest_round (by omega : 0 < (-whole).toNat) exponent .negative
    rw [Int.compare_eq_lt.mpr negative]
    rwa [signed, size, neg_mul, neg_neg] at rounded
  · rw [Int.cast_zero, zero_mul]
    exact nearest_of_place (place_pack_zero zero)
  · have size : (whole.toNat : Rat) = whole := by
      exact_mod_cast Int.toNat_of_nonneg positive.le
    have rounded := nearest_round (by omega : 0 < whole.toNat) exponent .positive
    rw [Int.compare_eq_gt.mpr positive]
    rwa [signed, size] at rounded

end Normalizing

section Finite

/-- A finite double is zero, or has a canonical mantissa and exponent. -/
theorem finite_cases {number : Float} (placed : place? number = some place)
    (finite : |place| < limit) :
    (∃ sign, number.toModel.unpack = .zero sign ∧ place = 0) ∨
      ∃ sign mantissa exponent positive,
        number.toModel.unpack = .finite sign mantissa exponent positive ∧
        place = signed sign (mantissa * 2 ^ exponent) ∧ Canonical mantissa exponent ∧
        exponent ≤ 971 := by
  rw [place?] at placed
  cases parts : number.toModel.unpack with
  | notANumber =>
    rw [parts] at placed
    cases placed
  | infinity sign =>
    rw [parts] at placed
    cases placed
    exact absurd finite (by rw [abs_signed limit_pos.le]; exact lt_irrefl limit)
  | zero sign =>
    rw [parts] at placed
    cases placed
    exact .inl ⟨sign, rfl, rfl⟩
  | finite sign mantissa exponent positive =>
    rw [parts] at placed
    cases placed
    obtain ⟨canonical, room⟩ := canonical_of_unpack parts
    exact .inr ⟨sign, mantissa, exponent, positive, rfl, rfl, canonical, room⟩

theorem signed_mul_zpow (sign : Sign) (mantissa : Nat) (exponent : Int) :
    ((sign.apply mantissa : Int) : Rat) * 2 ^ exponent = signed sign (mantissa * 2 ^ exponent) := by
  cases sign
  · rw [Sign.apply, signed]
    push_cast
    ring
  · rfl

theorem decreaseExponent_mul_zpow (low : step ≤ exponent) (sign : Sign) (mantissa : Nat) :
    ((sign.apply (decreaseExponent mantissa exponent step).1 : Int) : Rat) * 2 ^ step =
      signed sign (mantissa * 2 ^ exponent) := by
  have reached : exponent - (exponent - step).toNat = step := by omega
  rw [signed_mul_zpow, decreaseExponent, ← shiftLeft_mul_zpow mantissa (exponent - step).toNat,
    reached]

theorem place_pack_finite {positive : 0 < mantissa} (canonical : Canonical mantissa exponent)
    (room : exponent ≤ 971) :
    place? (.ofModel (.pack (.finite sign mantissa exponent positive))) =
      some (signed sign (mantissa * 2 ^ exponent)) := by
  rw [place_pack canonical, min_eq_left (place_lt_limit canonical.bounded room).le]

/-- Every mantissa and exponent within range make a finite double. -/
theorem isDouble_of_mantissa (sign : Sign) (bounded : mantissa < 2 ^ 53) (least : -1074 ≤ exponent)
    (room : exponent ≤ 971) : IsDouble (signed sign (mantissa * 2 ^ exponent)) := by
  have size : (0 : Rat) ≤ mantissa * 2 ^ exponent :=
    mul_nonneg (Nat.cast_nonneg mantissa) (two_zpow_pos exponent).le
  refine .imp (fun number placed => ⟨placed, ?_⟩) ?_
  · rw [abs_signed size]
    exact place_lt_limit bounded room
  rcases Nat.eq_zero_or_pos mantissa with rfl | positive
  · rw [Nat.cast_zero, zero_mul, signed_zero]
    exact ⟨_, place_pack_zero sign⟩
  · have digits : mantissa.log2 ≤ 52 := Nat.le_of_lt_succ ((Nat.log2_lt positive.ne').mpr bounded)
    obtain ⟨shift, amount⟩ : ∃ shift, shift = min (52 - mantissa.log2) (exponent + 1074).toNat :=
      ⟨_, rfl⟩
    have shifted := log2_shiftLeft positive shift
    have present : 0 < mantissa <<< shift := Nat.shiftLeft_pos_iff.mpr positive
    have canonical : Canonical (mantissa <<< shift) (exponent - shift) := by
      refine ⟨(Nat.log2_lt present.ne').mp (by omega), by omega, ?_⟩
      by_cases full : shift = 52 - mantissa.log2
      · exact .inl ((Nat.le_log2 present.ne').mp (by omega))
      · exact .inr (by omega)
    rw [← shiftLeft_mul_zpow mantissa shift]
    exact ⟨.ofModel (.pack (.finite sign _ _ present)), place_pack_finite canonical (by omega)⟩

theorem isDouble_of_whole {whole : Int} (bounded : whole.natAbs < 2 ^ 53) (least : -1074 ≤ exponent)
    (room : exponent ≤ 971) : IsDouble (whole * 2 ^ exponent) := by
  obtain ⟨size, rfl | rfl⟩ := whole.eq_nat_or_neg
  · rw [Int.natAbs_natCast] at bounded
    exact isDouble_of_mantissa .positive bounded least room
  · rw [Int.natAbs_neg, Int.natAbs_natCast] at bounded
    rw [Int.cast_neg, Int.cast_natCast, neg_mul]
    exact isDouble_of_mantissa .negative bounded least room

/-- The difference of finite doubles is rounded once. -/
theorem nearest_sub (placed : place? first = some near) (other : place? second = some far)
    (finite : |near| < limit) (also : |far| < limit) : Nearest (near - far) (first - second) := by
  show Nearest (near - far) (.ofModel (.pack
    (UnpackedFloat.sub Format.binary64 first.toModel.unpack second.toModel.unpack)))
  rcases finite_cases placed finite with
      ⟨sign, parts, rfl⟩ | ⟨sign, mantissa, exponent, positive, parts, rfl, canonical, room⟩ <;>
    rcases finite_cases other also with
      ⟨side, others, rfl⟩ | ⟨side, longer, higher, present, others, rfl, proper, space⟩ <;>
    rw [parts, others]
  · rw [sub_zero, UnpackedFloat.sub]
    split <;> exact nearest_of_place (place_pack_zero _)
  · have opposite : 0 - signed side (longer * 2 ^ higher) =
        signed (-side) (longer * 2 ^ higher) := by
      cases side
      · exact sub_neg_eq_add _ _ |>.trans (zero_add _)
      · exact zero_sub _
    rw [opposite]
    exact nearest_of_place (place_pack_finite proper space)
  · rw [sub_zero]
    exact nearest_of_place (place_pack_finite canonical room)
  · rw [← decreaseExponent_mul_zpow (min_le_left exponent higher),
      ← decreaseExponent_mul_zpow (min_le_right exponent higher), ← sub_mul, ← Int.cast_sub]
    exact nearest_normalize _ _ .positive

/-- The sum of finite doubles is rounded once. -/
theorem nearest_add (placed : place? first = some near) (other : place? second = some far)
    (finite : |near| < limit) (also : |far| < limit) : Nearest (near + far) (first + second) := by
  show Nearest (near + far) (.ofModel (.pack
    (UnpackedFloat.add Format.binary64 first.toModel.unpack second.toModel.unpack)))
  rcases finite_cases placed finite with
      ⟨sign, parts, rfl⟩ | ⟨sign, mantissa, exponent, positive, parts, rfl, canonical, room⟩ <;>
    rcases finite_cases other also with
      ⟨side, others, rfl⟩ | ⟨side, longer, higher, present, others, rfl, proper, space⟩ <;>
    rw [parts, others]
  · rw [add_zero, UnpackedFloat.add]
    split <;> exact nearest_of_place (place_pack_zero _)
  · rw [zero_add]
    exact nearest_of_place (place_pack_finite proper space)
  · rw [add_zero]
    exact nearest_of_place (place_pack_finite canonical room)
  · rw [← decreaseExponent_mul_zpow (min_le_left exponent higher),
      ← decreaseExponent_mul_zpow (min_le_right exponent higher), ← add_mul, ← Int.cast_add]
    exact nearest_normalize _ _ .positive

theorem signed_mul (sign side : Sign) (near far : Rat) :
    signed sign near * signed side far = signed (sign * side) (near * far) := by
  cases sign <;> cases side
  · exact neg_mul_neg near far
  · exact neg_mul near far
  · exact mul_neg near far
  · rfl

/-- The product of two mantissas has all its digits, unless both are short. -/
theorem Canonical.log2_mul {longer : Nat} {higher : Int} (canonical : Canonical mantissa exponent)
    (proper : Canonical longer higher) (positive : 0 < mantissa) (present : 0 < longer) :
    52 ≤ (mantissa * longer).log2 ∨ exponent + higher ≤ -1074 := by
  have some := (Nat.mul_pos positive present).ne'
  rcases canonical.full with full | rfl
  · exact .inl ((Nat.le_log2 some).mpr (full.trans (Nat.le_mul_of_pos_right _ present)))
  · rcases proper.full with full | rfl
    · exact .inl ((Nat.le_log2 some).mpr (full.trans (Nat.le_mul_of_pos_left _ positive)))
    · exact .inr (by norm_num)

/-- The product of finite doubles is rounded once. -/
theorem nearest_mul (placed : place? first = some near) (other : place? second = some far)
    (finite : |near| < limit) (also : |far| < limit) : Nearest (near * far) (first * second) := by
  show Nearest (near * far) (.ofModel (.pack
    (UnpackedFloat.mul Format.binary64 first.toModel.unpack second.toModel.unpack)))
  rcases finite_cases placed finite with
      ⟨sign, parts, rfl⟩ | ⟨sign, mantissa, exponent, positive, parts, rfl, canonical, room⟩ <;>
    rcases finite_cases other also with
      ⟨side, others, rfl⟩ | ⟨side, longer, higher, present, others, rfl, proper, space⟩ <;>
    rw [parts, others]
  · rw [mul_zero]
    exact nearest_of_place (place_pack_zero _)
  · rw [zero_mul]
    exact nearest_of_place (place_pack_zero _)
  · rw [mul_zero]
    exact nearest_of_place (place_pack_zero _)
  · have size : (mantissa * 2 ^ exponent * (longer * 2 ^ higher) : Rat) =
        ((mantissa * longer : Nat) + 0) * 2 ^ (exponent + higher) := by
      rw [zpow_add₀ two_ne_zero]
      push_cast
      ring
    have whole : Covers .exact 0 := rfl
    rw [signed_mul, size]
    exact nearest_roundWithAccuracy whole (canonical.log2_mul proper positive present)

/-- A whole number with no more digits than a mantissa is a double. -/
theorem isDouble_natCast {count : Nat} (short : count < 2 ^ 53) : IsDouble count := by
  have scaled := isDouble_of_mantissa .positive short (by norm_num : (-1074 : Int) ≤ 0)
    (by norm_num)
  rwa [signed, zpow_zero, mul_one] at scaled

theorem place_ofNat {count : Nat} (short : count < 2 ^ 53) :
    place? (.ofNat count) = some (count : Rat) := by
  obtain ⟨other, among, small⟩ := isDouble_natCast short
  obtain ⟨_, -, one⟩ := isDouble_natCast (by norm_num : 1 < 2 ^ 53)
  have word : place? count.toUInt64.toFloat = some (count : Rat) := by
    have size : count.toUInt64.toNat = count := by
      rw [Nat.toUInt64, UInt64.toNat_ofNat']
      omega
    have rounded : Nearest ((count.toUInt64.toNat : Int) * 2 ^ (0 : Int)) count.toUInt64.toFloat :=
      nearest_normalize count.toUInt64.toNat 0 .positive
    rw [size, Int.cast_natCast, zpow_zero, mul_one] at rounded
    exact rounded.place?_eq among
  have unit : place? (.ofBits 4607182418800017408) = some ((1 : Nat) : Rat) := by
    rw [Nat.cast_one, ← mul_inv_cancel₀ (two_zpow_pos 52).ne', ← zpow_neg]
    rfl
  have scaled : Float.ofNat count = count.toUInt64.toFloat * .ofBits 4607182418800017408 := by
    show Float.ofScientific count false 0 = _
    rw [Float.ofScientific, dif_pos ⟨short, by norm_num⟩]
    rfl
  have product := nearest_mul word unit small one
  rw [Nat.cast_one, mul_one] at product
  rw [scaled, product.place?_eq among]

/-- A quotient of whole numbers leaves over what the division leaves. -/
theorem covers_accuracyOfFraction {part total : Nat} (proper : part < total) :
    Covers (accuracyOfFraction part total) (part / total) := by
  have positive : (0 : Rat) < total := by exact_mod_cast Nat.zero_lt_of_lt proper
  rw [accuracyOfFraction]
  rcases Nat.eq_zero_or_pos part with rfl | some
  · rw [if_pos rfl, Nat.cast_zero]
    exact zero_div _
  · have present : (0 : Rat) < part := by exact_mod_cast some
    have below : (part : Rat) < total := by exact_mod_cast proper
    rw [if_neg some.ne']
    rcases lt_trichotomy (2 * part) total with less | equal | more
    · have less : 2 * (part : Rat) < total := by exact_mod_cast less
      rw [Nat.compare_eq_lt.mpr (by assumption)]
      exact ⟨div_pos present positive, by rw [div_lt_div_iff₀ positive two_pos]; linarith⟩
    · have equal : 2 * (part : Rat) = total := by exact_mod_cast equal
      rw [Nat.compare_eq_eq.mpr (by assumption)]
      show (part : Rat) / total = 1 / 2
      rw [div_eq_div_iff positive.ne' two_ne_zero]
      linarith
    · have more : (total : Rat) < 2 * part := by exact_mod_cast more
      rw [Nat.compare_eq_gt.mpr (by assumption)]
      exact ⟨by rw [div_lt_div_iff₀ two_pos positive]; linarith, (div_lt_one positive).mpr below⟩

theorem signed_div (sign side : Sign) (near far : Rat) :
    signed sign near / signed side far = signed (sign / side) (near / far) := by
  cases sign <;> cases side
  · exact neg_div_neg_eq near far
  · exact neg_div far near
  · exact div_neg near
  · rfl

/-- The quotient has all its digits, since the dividend is first given enough of them. -/
theorem log2_div_digits {longer : Nat} {higher : Int} (positive : 0 < mantissa)
    (present : 0 < longer)
    (enough : exponent - higher - step = shift)
    (chosen : step = min (exponent - higher)
      (max (totalExponent mantissa exponent - totalExponent longer higher - 53) (-1074))) :
    52 ≤ ((mantissa <<< shift) / longer).log2 ∨ step ≤ -1074 := by
  rw [totalExponent, totalExponent] at chosen
  by_cases smallest : step ≤ -1074
  · exact .inr smallest
  · left
    have digits := log2_shiftLeft positive shift
    have reach : longer.log2 + 53 ≤ (mantissa <<< shift).log2 := by omega
    have dividend : 2 ^ (longer.log2 + 53) ≤ mantissa <<< shift :=
      (Nat.pow_le_pow_right two_pos reach).trans
        (Nat.log2_self_le (Nat.shiftLeft_pos_iff.mpr positive).ne')
    have quotient : 2 ^ 52 ≤ (mantissa <<< shift) / longer := by
      rw [Nat.le_div_iff_mul_le present]
      calc 2 ^ 52 * longer ≤ 2 ^ 52 * 2 ^ (longer.log2 + 1) :=
            Nat.mul_le_mul_left _ Nat.lt_log2_self.le
        _ = 2 ^ (longer.log2 + 53) := by rw [← pow_add]; congr 1; omega
        _ ≤ mantissa <<< shift := dividend
    exact (Nat.le_log2 (by omega)).mpr quotient

/-- The dividend is shifted, divided as a whole number, and the rest kept. -/
theorem div_eq_quotient_add_rest {longer : Nat} {higher : Int} (present : 0 < longer)
    (enough : exponent - higher - step = shift) :
    (mantissa * 2 ^ exponent : Rat) / (longer * 2 ^ higher) =
      (((mantissa <<< shift) / longer : Nat) + ((mantissa <<< shift) % longer : Nat) / longer) *
        2 ^ step := by
  have divisor : (0 : Rat) < longer := by exact_mod_cast present
  have whole : (longer : Rat) * ((mantissa <<< shift) / longer : Nat) +
      ((mantissa <<< shift) % longer : Nat) = (mantissa <<< shift : Nat) := by
    exact_mod_cast Nat.div_add_mod (mantissa <<< shift) longer
  have aligned := shiftLeft_mul_zpow mantissa shift exponent
  have split : exponent - shift = higher + step := by omega
  rw [split, zpow_add₀ two_ne_zero, ← whole] at aligned
  have scale := (two_zpow_pos higher).ne'
  rw [← aligned]
  field_simp

/-- The quotient of finite doubles is rounded once. -/
theorem nearest_div (placed : place? first = some near) (other : place? second = some far)
    (finite : |near| < limit) (also : |far| < limit) (nonzero : far ≠ 0) :
    Nearest (near / far) (first / second) := by
  show Nearest (near / far) (.ofModel (.pack
    (UnpackedFloat.div Format.binary64 first.toModel.unpack second.toModel.unpack)))
  rcases finite_cases other also with
    ⟨side, others, rfl⟩ | ⟨side, longer, higher, present, others, rfl, proper, space⟩
  · exact absurd rfl nonzero
  rcases finite_cases placed finite with
      ⟨sign, parts, rfl⟩ | ⟨sign, mantissa, exponent, positive, parts, rfl, canonical, room⟩ <;>
    rw [parts, others]
  · rw [zero_div]
    exact nearest_of_place (place_pack_zero _)
  · obtain ⟨step, chosen⟩ : ∃ step, step = min (exponent - higher)
        (max (totalExponent mantissa exponent - totalExponent longer higher - 53) (-1074)) :=
      ⟨_, rfl⟩
    obtain ⟨shift, enough⟩ : ∃ shift : Nat, exponent - higher - step = shift :=
      ⟨(exponent - higher - step).toNat, by omega⟩
    have amount : (exponent - higher - step).toNat = shift := by omega
    have digits := log2_div_digits positive present enough chosen
    rw [signed_div, div_eq_quotient_add_rest present enough, UnpackedFloat.div, divCore,
      targetExponent_eq, ← chosen, amount]
    exact nearest_roundWithAccuracy (covers_accuracyOfFraction (Nat.mod_lt _ present)) digits

end Finite

section Truncation

/-- A mantissa is the whole part of what it stands for. -/
theorem Holds.floor_eq {extended : ExtendedMantissa} {size : Rat} (holds : Holds extended size) :
    ⌊size⌋₊ = extended.mantissa := by
  obtain ⟨nonneg, small⟩ := holds.bounds
  have whole : (0 : Rat) ≤ extended.mantissa := Nat.cast_nonneg _
  exact (Nat.floor_eq_iff (by linarith)).mpr ⟨by linarith, by linarith⟩

theorem roundToInt_eq (sign : Sign) (mantissa : Nat) (exponent : Int) :
    UnpackedFloat.roundToInt sign mantissa exponent =
      sign.apply ⌊(mantissa * 2 ^ exponent : Rat)⌋₊ := by
  show sign.apply (ExtendedMantissa.ofMantissaAndAccuracy (mantissa <<< (exponent - 0).toNat) .exact
    >>> (0 - (exponent - (exponent - 0).toNat)).toNat).mantissa = _
  obtain ⟨up, raised⟩ : ∃ up, (exponent - 0).toNat = up := ⟨_, rfl⟩
  obtain ⟨down, lowered⟩ : ∃ down, (0 - (exponent - up)).toNat = down := ⟨_, rfl⟩
  have size : (mantissa * 2 ^ exponent : Rat) = ((mantissa <<< up : Nat) + 0) / 2 ^ down := by
    have split : exponent = up - down := by omega
    rw [split, zpow_sub₀ two_ne_zero, zpow_natCast, zpow_natCast, Nat.shiftLeft_eq, add_zero]
    push_cast
    ring
  have whole : Covers .exact 0 := rfl
  have cut := ((holds_ofMantissaAndAccuracy whole (mantissa <<< up)).shiftRight down).floor_eq
  rw [size, cut, raised, lowered]

theorem toNat_ofNatClamp (count : Nat) :
    (UInt64.ofNatClamp count).toNat = min count (2 ^ 64 - 1) := by
  rw [UInt64.ofNatClamp]
  split
  case isTrue inside =>
    have inside : count < 2 ^ 64 := inside
    rw [UInt64.toNat_ofNatLT]
    omega
  case isFalse beyond =>
    have beyond : ¬ count < 2 ^ 64 := beyond
    rw [UInt64.toNat_ofNatLT, UInt64.size]
    omega

/-- Turned into a whole number, a double loses its fraction, and stays within the words that
there are. -/
theorem toNat_toUInt64 {number : Float} (placed : place? number = some place) :
    number.toUInt64.toNat = min ⌊place⌋₊ (2 ^ 64 - 1) := by
  show number.toModel.unpack.toUInt64.toNat = _
  rw [UnpackedFloat.toUInt64, toNat_ofNatClamp]
  rw [place?] at placed
  cases parts : number.toModel.unpack with
  | notANumber =>
    rw [parts] at placed
    cases placed
  | infinity sign =>
    rw [parts] at placed
    cases placed
    cases sign
    · rw [signed, Nat.floor_of_nonpos (neg_nonpos.mpr limit_pos.le)]
      rfl
    · have words : (2 : Rat) ^ 12 ≤ 2 ^ (972 : Int) := by
        rw [← zpow_natCast]
        exact zpow_le_zpow_right₀ one_le_two (by norm_num)
      have beyond : 2 ^ 64 ≤ ⌊limit⌋₊ := by
        refine Nat.le_floor ?_
        calc ((2 ^ 64 : Nat) : Rat) = 2 ^ 52 * 2 ^ 12 := by norm_num
          _ ≤ limit := mul_le_mul_of_nonneg_left words (by positivity)
      show min (2 ^ 64 - 1) (2 ^ 64 - 1) = min ⌊limit⌋₊ (2 ^ 64 - 1)
      omega
  | zero =>
    rw [parts] at placed
    cases placed
    rw [Nat.floor_zero]
    rfl
  | finite sign mantissa exponent positive =>
    rw [parts] at placed
    cases placed
    rw [UnpackedFloat.toInt, roundToInt_eq]
    cases sign
    · have behind := neg_nonpos.mpr (place_pos positive exponent).le
      rw [signed, Nat.floor_of_nonpos behind, Sign.apply]
      omega
    · rw [signed, Sign.apply, Int.toNat_natCast]

end Truncation

end Telemetry.Doubles
