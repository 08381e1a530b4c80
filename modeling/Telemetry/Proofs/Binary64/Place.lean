/-
# Where doubles lie

Every double but the one that is no number has a place among the rationals. A finite one lies
at a mantissa times a power of two; the infinities lie where the next mantissa after the
largest finite double would be, on either side. Doubles are in the order of their places.
-/

import Mathlib

namespace Telemetry.Doubles

open Float.Model (Format UnpackedFloat)
open Float.Model.UnpackedFloat (Sign packComponents unpackExponent unpackMantissa unpackSign
  unpackExponent_packComponents unpackMantissa_packComponents unpackSign_packComponents)

/-- Where infinity lies: at the least mantissa with the first exponent that has no room. -/
def limit : Rat :=
  2 ^ 52 * 2 ^ (972 : Int)

/-- A number on the side of zero that a sign names. -/
def signed : Sign → Rat → Rat
  | .negative, size => -size
  | .positive, size => size

/-- The place of a double taken apart, if it is a number. -/
def partsPlace? : UnpackedFloat → Option Rat
  | .notANumber => none
  | .infinity sign => some (signed sign limit)
  | .zero _ => some 0
  | .finite sign mantissa exponent _ => some (signed sign (mantissa * 2 ^ exponent))

/-- The place of a double, if it is a number. -/
def place? (number : Float) : Option Rat :=
  partsPlace? number.toModel.unpack

/-- A mantissa and an exponent in the one form that doubles have: with as many binary digits
in the mantissa as there can be, fewer only at the smallest exponent. -/
structure Canonical (mantissa : Nat) (exponent : Int) : Prop where
  bounded : mantissa < 2 ^ 53
  least : -1074 ≤ exponent
  full : 2 ^ 52 ≤ mantissa ∨ exponent = -1074

section Packing

/-- The leading digit of a mantissa is not stored. -/
theorem toNat_leading_append (stored : BitVec 52) :
    (1#1 ++ stored).toNat = 2 ^ 52 + stored.toNat := by
  rw [BitVec.toNat_append, ← Nat.shiftLeft_add_eq_or_of_lt stored.isLt]
  rfl

/-- A double that is taken apart is canonical, and its exponent has room. -/
theorem canonical_of_unpack {bits : BitVec 64} {sign : Sign} {mantissa : Nat} {exponent : Int}
    {positive : 0 < mantissa}
    (parts : UnpackedFloat.unpack Format.binary64 bits = .finite sign mantissa exponent positive) :
    Canonical mantissa exponent ∧ exponent ≤ 971 := by
  rw [UnpackedFloat.unpack] at parts
  have low : (@unpackMantissa Format.binary64 bits).toNat < 2 ^ 52 :=
    BitVec.isLt _
  have high : (@unpackExponent Format.binary64 bits).toNat < 2 ^ 11 :=
    BitVec.isLt _
  have bias : ((Format.binary64.exponentBias : Nat) : Int) = 1023 := rfl
  have digits : ((Format.binary64.mantissaBitsWithoutImplicit : Nat) : Int) = 52 := rfl
  split at parts
  case isTrue => split at parts <;> cases parts
  case isFalse unbounded =>
    have below : (@unpackExponent Format.binary64 bits).toNat ≠ 2047 :=
      fun equal => unbounded (BitVec.eq_of_toNat_eq equal)
    split at parts
    case isTrue least =>
      split at parts
      case isTrue => cases parts
      case isFalse =>
        injection parts with _ mantissas exponents
        rw [least, bias, digits] at exponents
        subst mantissas
        have smallest : exponent = -1074 := exponents.symm
        exact ⟨⟨by omega, by omega, .inr smallest⟩, by omega⟩
    case isFalse above =>
      have positive : (@unpackExponent Format.binary64 bits).toNat ≠ 0 :=
        fun equal => above (BitVec.eq_of_toNat_eq equal)
      injection parts with _ mantissas exponents
      rw [toNat_leading_append] at mantissas
      rw [bias, digits] at exponents
      exact ⟨⟨by omega, by omega, by omega⟩, by omega⟩

variable {sign : Sign} {mantissa : Nat} {exponent : Int} {positive : 0 < mantissa}

/-- A finite double taken apart is made of its three fields. -/
theorem unpack_packComponents {field : BitVec 11} {stored : BitVec 52} (room : field.toNat < 2047)
    (least : field.toNat = 0 → mantissa = stored.toNat ∧ exponent = -1074)
    (above : field.toNat ≠ 0 → mantissa = 2 ^ 52 + stored.toNat ∧ exponent = field.toNat - 1075) :
    UnpackedFloat.unpack Format.binary64 (packComponents Format.binary64 sign field stored) =
      .finite sign mantissa exponent positive := by
  have bias : ((Format.binary64.exponentBias : Nat) : Int) = 1023 := rfl
  have digits : ((Format.binary64.mantissaBitsWithoutImplicit : Nat) : Int) = 52 := rfl
  have finite : field ≠ -1#(Format.binary64.exponentBits) := by
    rintro rfl
    exact absurd room (by decide)
  rw [UnpackedFloat.unpack]
  simp only [unpackMantissa_packComponents, unpackExponent_packComponents,
    unpackSign_packComponents, Sign.ofBitVec_toBitVec, bias, digits, if_neg finite]
  by_cases zero : field = 0#11
  · subst zero
    obtain ⟨mantissas, exponents⟩ := least rfl
    have present : stored ≠ 0#(Format.binary64.mantissaBitsWithoutImplicit) := by
      rintro rfl
      exact absurd mantissas positive.ne'
    rw [if_pos rfl, dif_neg present]
    congr 1
    · exact mantissas.symm
    · exact exponents.symm
  · obtain ⟨mantissas, exponents⟩ := above fun equal => zero (BitVec.eq_of_toNat_eq equal)
    rw [if_neg zero]
    congr 1
    · rw [toNat_leading_append, mantissas]
    · rw [exponents]
      omega

/-- What is canonical and has room comes back when it is taken apart again. -/
theorem unpack_pack (canonical : Canonical mantissa exponent) (room : exponent ≤ 971) :
    (Float.Model.pack (.finite sign mantissa exponent positive)).unpack =
      .finite sign mantissa exponent positive := by
  obtain ⟨bounded, least, full⟩ := canonical
  have bias : ((Format.binary64.exponentBias : Nat) : Int) = 1023 := rfl
  have digits : ((Format.binary64.mantissaBitsWithoutImplicit : Nat) : Int) = 52 := rfl
  have fits : ¬ 2 ^ Format.binary64.exponentBits ≤ (exponent + 1023 + 52).toNat + 1 := by
    show ¬ 2048 ≤ (exponent + 1023 + 52).toNat + 1
    omega
  rw [Float.Model.pack, Float.Model.unpack]
  simp only [UnpackedFloat.pack, bias, digits, if_neg fits]
  have low : (BitVec.ofNat 52 mantissa).toNat = mantissa % 2 ^ 52 := BitVec.toNat_ofNat ..
  split
  case isTrue digits =>
    have reached : 2 ^ 52 ≤ mantissa :=
      (Nat.le_log2 positive.ne').mp (Nat.le_of_succ_le_succ digits.ge)
    have high : (BitVec.ofNat 11 (exponent + 1023 + 52).toNat).toNat =
        (exponent + 1023 + 52).toNat % 2 ^ 11 := BitVec.toNat_ofNat ..
    exact unpack_packComponents (by omega) (fun _ => by omega) (fun _ => by omega)
  case isFalse fewer =>
    have short : mantissa < 2 ^ 52 := by
      by_contra reached
      exact fewer (congrArg (· + 1) ((Nat.log2_eq_iff positive.ne').mpr ⟨by omega, bounded⟩))
    exact unpack_packComponents (by decide) (fun _ => by omega) (fun above => absurd rfl above)

/-- What is canonical and has no room becomes infinite. -/
theorem unpack_pack_infinity (overflow : 971 < exponent) :
    (Float.Model.pack (.finite sign mantissa exponent positive)).unpack = .infinity sign := by
  have bias : ((Format.binary64.exponentBias : Nat) : Int) = 1023 := rfl
  have digits : ((Format.binary64.mantissaBitsWithoutImplicit : Nat) : Int) = 52 := rfl
  have beyond : 2 ^ Format.binary64.exponentBits ≤ (exponent + 1023 + 52).toNat + 1 := by
    show 2048 ≤ (exponent + 1023 + 52).toNat + 1
    omega
  rw [Float.Model.pack, Float.Model.unpack]
  simp only [UnpackedFloat.pack, bias, digits, if_pos beyond]
  cases sign <;> rfl

end Packing

section Places

variable {mantissa longer : Nat} {exponent higher : Int}

theorem two_zpow_pos (exponent : Int) : (0 : Rat) < 2 ^ exponent :=
  zpow_pos two_pos exponent

/-- Every double with a higher exponent is further from zero. -/
theorem Canonical.place_lt_place (low : Canonical mantissa exponent)
    (high : Canonical longer higher) (below : exponent < higher) :
    (mantissa : Rat) * 2 ^ exponent < longer * 2 ^ higher := by
  have full : 2 ^ 52 ≤ longer := high.full.resolve_right (by have := low.least; omega)
  have bounded : (mantissa : Rat) < 2 ^ 53 := by exact_mod_cast low.bounded
  have reached : (2 : Rat) ^ 52 ≤ longer := by exact_mod_cast full
  calc (mantissa : Rat) * 2 ^ exponent < 2 ^ 53 * 2 ^ exponent :=
        mul_lt_mul_of_pos_right bounded (two_zpow_pos exponent)
    _ = 2 ^ 52 * 2 ^ (exponent + 1) := by rw [zpow_add_one₀ two_ne_zero]; ring
    _ ≤ 2 ^ 52 * 2 ^ higher :=
        mul_le_mul_of_nonneg_left (zpow_le_zpow_right₀ one_le_two (by omega)) (by positivity)
    _ ≤ longer * 2 ^ higher := mul_le_mul_of_nonneg_right reached (two_zpow_pos higher).le

/-- No mantissa reaches infinity with an exponent that has room. -/
theorem place_lt_limit (bounded : mantissa < 2 ^ 53) (room : exponent ≤ 971) :
    (mantissa : Rat) * 2 ^ exponent < limit := by
  have bounded : (mantissa : Rat) < 2 ^ 53 := by exact_mod_cast bounded
  calc (mantissa : Rat) * 2 ^ exponent < 2 ^ 53 * 2 ^ exponent :=
        mul_lt_mul_of_pos_right bounded (two_zpow_pos exponent)
    _ ≤ 2 ^ 53 * 2 ^ (971 : Int) :=
        mul_le_mul_of_nonneg_left (zpow_le_zpow_right₀ one_le_two room) (by positivity)
    _ = limit := by
        rw [limit, show (972 : Int) = 971 + 1 from rfl, zpow_add_one₀ two_ne_zero]
        ring

theorem Canonical.limit_le_place (canonical : Canonical mantissa exponent)
    (overflow : 971 < exponent) : limit ≤ (mantissa : Rat) * 2 ^ exponent := by
  have full : 2 ^ 52 ≤ mantissa := canonical.full.resolve_right (by omega)
  have reached : (2 : Rat) ^ 52 ≤ mantissa := by exact_mod_cast full
  exact mul_le_mul reached (zpow_le_zpow_right₀ one_le_two overflow) (two_zpow_pos 972).le
    (Nat.cast_nonneg mantissa)

/-- Doubles on one side of zero are ordered by their exponents first, and by their mantissas
then. -/
theorem Canonical.compare_place (first : Canonical mantissa exponent)
    (second : Canonical longer higher) :
    compare ((mantissa : Rat) * 2 ^ exponent) (longer * 2 ^ higher) =
      (compare exponent higher).then (compare mantissa longer) := by
  rcases lt_trichotomy exponent higher with below | rfl | above
  · rw [compare_lt_iff_lt.mpr below]
    exact compare_lt_iff_lt.mpr (first.place_lt_place second below)
  · have positive := two_zpow_pos exponent
    rw [compare_eq_iff_eq.mpr rfl, Ordering.then]
    rcases lt_trichotomy mantissa longer with less | rfl | more
    · rw [compare_lt_iff_lt.mpr less, compare_lt_iff_lt]
      exact mul_lt_mul_of_pos_right (Nat.cast_lt.mpr less) positive
    · rw [compare_eq_iff_eq.mpr rfl, compare_eq_iff_eq.mpr rfl]
    · rw [compare_gt_iff_gt.mpr more, compare_gt_iff_gt]
      exact mul_lt_mul_of_pos_right (Nat.cast_lt.mpr more) positive
  · rw [compare_gt_iff_gt.mpr above]
    exact compare_gt_iff_gt.mpr (second.place_lt_place first above)

end Places

/-- What a double that is taken apart is like. -/
def Proper : UnpackedFloat → Prop
  | .finite _ mantissa exponent _ => Canonical mantissa exponent ∧ exponent ≤ 971
  | _ => True

theorem proper_unpack (number : Float.Model) : Proper number.unpack := by
  cases parts : number.unpack with
  | finite sign mantissa exponent positive => exact canonical_of_unpack parts
  | _ => trivial

section Comparing

variable {near far : Rat} {sign : Sign} {mantissa : Nat} {exponent : Int}
  {positive : 0 < mantissa} {first second : UnpackedFloat}

theorem limit_pos : 0 < limit := by
  rw [limit]
  positivity

theorem place_pos (positive : 0 < mantissa) (exponent : Int) :
    (0 : Rat) < mantissa * 2 ^ exponent :=
  mul_pos (Nat.cast_pos.mpr positive) (two_zpow_pos exponent)

theorem some_compare_of_lt (less : near < far) : some Ordering.lt = some (compare near far) :=
  congrArg some (compare_lt_iff_lt.mpr less).symm

theorem some_compare_of_gt (more : far < near) : some Ordering.gt = some (compare near far) :=
  congrArg some (compare_gt_iff_gt.mpr more).symm

theorem some_compare_of_eq (same : near = far) : some Ordering.eq = some (compare near far) :=
  congrArg some (compare_eq_iff_eq.mpr same).symm

theorem compare_neg_neg (near far : Rat) : compare (-near) (-far) = compare far near := by
  rcases lt_trichotomy near far with less | rfl | more
  · rw [compare_gt_iff_gt.mpr less, compare_gt_iff_gt]
    exact neg_lt_neg less
  · rw [compare_eq_iff_eq.mpr rfl, compare_eq_iff_eq.mpr rfl]
  · rw [compare_lt_iff_lt.mpr more, compare_lt_iff_lt]
    exact neg_lt_neg more

/-- Both infinities are beyond every other double. -/
theorem compare_infinity (proper : Proper second) (placed : partsPlace? second = some far) :
    (UnpackedFloat.infinity sign).compare second = some (compare (signed sign limit) far) := by
  have beyond := limit_pos
  cases second with
  | notANumber => cases placed
  | infinity other =>
    cases placed
    cases sign <;> cases other <;>
      first | exact some_compare_of_eq rfl | apply some_compare_of_lt | apply some_compare_of_gt
    all_goals simp only [signed]; linarith
  | zero =>
    cases placed
    cases sign <;> first | apply some_compare_of_lt | apply some_compare_of_gt
    all_goals simp only [signed]; linarith
  | finite other mantissa exponent positive =>
    cases placed
    have inside := place_lt_limit proper.1.bounded proper.2
    have apart := place_pos positive exponent
    cases sign <;> cases other <;> first | apply some_compare_of_lt | apply some_compare_of_gt
    all_goals simp only [signed]; linarith

/-- Zero has its place between the signs, whatever its own sign is. -/
theorem compare_zero (placed : partsPlace? second = some far) :
    (UnpackedFloat.zero sign).compare second = some (compare 0 far) := by
  have beyond := limit_pos
  cases second with
  | notANumber => cases placed
  | infinity other =>
    cases placed
    cases other <;> first | apply some_compare_of_lt | apply some_compare_of_gt
    all_goals simp only [signed]; linarith
  | zero =>
    cases placed
    exact some_compare_of_eq rfl
  | finite other mantissa exponent positive =>
    cases placed
    have apart := place_pos positive exponent
    cases other <;> first | apply some_compare_of_lt | apply some_compare_of_gt
    all_goals simp only [signed]; linarith

/-- Two finite doubles on the negative side are ordered backwards. -/
theorem compare_finite (canonical : Canonical mantissa exponent) (room : exponent ≤ 971)
    (proper : Proper second) (placed : partsPlace? second = some far) :
    (UnpackedFloat.finite sign mantissa exponent positive).compare second =
      some (compare (signed sign (mantissa * 2 ^ exponent)) far) := by
  have beyond := limit_pos
  have apart := place_pos positive exponent
  cases second with
  | notANumber => cases placed
  | infinity other =>
    cases placed
    have inside := place_lt_limit canonical.bounded room
    cases sign <;> cases other <;> first | apply some_compare_of_lt | apply some_compare_of_gt
    all_goals simp only [signed]; linarith
  | zero =>
    cases placed
    cases sign <;> first | apply some_compare_of_lt | apply some_compare_of_gt
    all_goals simp only [signed]; linarith
  | finite other longer higher also =>
    cases placed
    have away := place_pos also higher
    cases sign <;> cases other
    case negative.negative =>
      have backwards := canonical.compare_place proper.1
      simp only [signed, compare_neg_neg]
      rw [Std.OrientedOrd.eq_swap, backwards]
      rfl
    case positive.positive => exact congrArg some (canonical.compare_place proper.1).symm
    all_goals first | apply some_compare_of_lt | apply some_compare_of_gt
    all_goals simp only [signed]; linarith

/-- Doubles taken apart are in the order of their places. -/
theorem compare_parts (proper : Proper first) (also : Proper second)
    (placed : partsPlace? first = some near) (other : partsPlace? second = some far) :
    first.compare second = some (compare near far) := by
  cases first with
  | notANumber => cases placed
  | infinity =>
    cases placed
    exact compare_infinity also other
  | zero =>
    cases placed
    exact compare_zero other
  | finite =>
    cases placed
    exact compare_finite proper.1 proper.2 also other

end Comparing

section Ordering

variable {first second number : Float} {near far place : Rat} {sign : Sign} {mantissa : Nat}
  {exponent : Int} {positive : 0 < mantissa}

theorem lt_iff (placed : place? first = some near) (other : place? second = some far) :
    first < second ↔ near < far := by
  have compared := compare_parts (proper_unpack first.toModel) (proper_unpack second.toModel)
    placed other
  show decide (first.toModel < second.toModel) = true ↔ _
  rw [decide_eq_true_iff]
  show (first.toModel.unpack.compare second.toModel.unpack == some .lt) = true ↔ _
  rw [compared, beq_iff_eq, Option.some.injEq, compare_lt_iff_lt]

theorem le_iff (placed : place? first = some near) (other : place? second = some far) :
    first ≤ second ↔ near ≤ far := by
  have compared := compare_parts (proper_unpack first.toModel) (proper_unpack second.toModel)
    placed other
  show decide (first.toModel ≤ second.toModel) = true ↔ _
  rw [decide_eq_true_iff]
  show (first.toModel.unpack.compare second.toModel.unpack).any (·.isLE) = true ↔ _
  rw [compared, Option.any_some, ← not_lt, ← compare_gt_iff_gt]
  cases compare near far <;> simp

theorem beq_iff (placed : place? first = some near) (other : place? second = some far) :
    (first == second) = true ↔ near = far := by
  have compared := compare_parts (proper_unpack first.toModel) (proper_unpack second.toModel)
    placed other
  show (first.toModel.unpack.compare second.toModel.unpack == some .eq) = true ↔ _
  rw [compared, beq_iff_eq, Option.some.injEq, compare_eq_iff_eq]

theorem beq_self (placed : place? number = some place) : (number == number) = true :=
  (beq_iff placed placed).mpr rfl

theorem exists_place (isNumber : number.isNaN = false) : ∃ place, place? number = some place := by
  have parts : number.toModel.unpack.isNaN = false := isNumber
  rw [place?]
  cases unpacked : number.toModel.unpack with
  | notANumber => rw [unpacked] at parts; cases parts
  | _ => exact ⟨_, rfl⟩

theorem abs_signed {size : Rat} (nonneg : 0 ≤ size) (sign : Sign) : |signed sign size| = size := by
  cases sign
  · exact (abs_neg size).trans (abs_of_nonneg nonneg)
  · exact abs_of_nonneg nonneg

/-- No double is beyond infinity, and a finite one does not get there. -/
theorem abs_place (placed : place? number = some place) :
    |place| ≤ limit ∧ (number.isFinite = true ↔ |place| < limit) := by
  have beyond := limit_pos
  show |place| ≤ limit ∧ (number.toModel.unpack.isFinite = true ↔ |place| < limit)
  rw [place?] at placed
  cases parts : number.toModel.unpack with
  | notANumber =>
    rw [parts] at placed
    cases placed
  | infinity sign =>
    rw [parts] at placed
    cases placed
    simp [UnpackedFloat.isFinite, abs_signed beyond.le]
  | zero =>
    rw [parts] at placed
    cases placed
    simp [UnpackedFloat.isFinite, beyond, beyond.le]
  | finite sign mantissa exponent positive =>
    rw [parts] at placed
    cases placed
    obtain ⟨canonical, room⟩ := canonical_of_unpack parts
    have inside := place_lt_limit canonical.bounded room
    rw [abs_signed (place_pos positive exponent).le]
    exact ⟨inside.le, iff_of_true rfl inside⟩

theorem exists_place_of_isFinite (finite : number.isFinite = true) :
    ∃ place, place? number = some place ∧ |place| < limit := by
  have isNumber : number.isNaN = false := by
    have parts : number.toModel.unpack.isFinite = true := finite
    show number.toModel.unpack.isNaN = false
    cases unpacked : number.toModel.unpack with
    | notANumber => rw [unpacked] at parts; cases parts
    | _ => rfl
  obtain ⟨place, placed⟩ := exists_place isNumber
  exact ⟨place, placed, (abs_place placed).2.mp finite⟩

theorem place_pack_zero (sign : Sign) :
    place? (.ofModel (Float.Model.pack (.zero sign))) = some 0 := by
  cases sign <;> rfl

/-- A double that is put together lies where its parts say, but not beyond infinity. -/
theorem place_pack (canonical : Canonical mantissa exponent) :
    place? (.ofModel (Float.Model.pack (.finite sign mantissa exponent positive))) =
      some (signed sign (min (mantissa * 2 ^ exponent) limit)) := by
  rw [place?]
  by_cases room : exponent ≤ 971
  · rw [unpack_pack canonical room, min_eq_left (place_lt_limit canonical.bounded room).le]
    rfl
  · have overflow : 971 < exponent := by omega
    rw [unpack_pack_infinity overflow, min_eq_right (canonical.limit_le_place overflow)]
    rfl

end Ordering

end Telemetry.Doubles
