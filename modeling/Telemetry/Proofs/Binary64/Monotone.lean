/-
# Differences and quotients in order

Rounding keeps the order of exact results, so subtracting one double and dividing by one that is
positive keep the order of doubles. Two doubles at one place need care, since rounding to a nearest
double does not say which of two neighbours is taken: away from zero they are the same double, and
at zero nothing is rounded.
-/

import Telemetry.Proofs.Binary64.Arithmetic

namespace Telemetry.Doubles

open Float.Model (Format UnpackedFloat)

variable {first second other : Float} {near far place : Rat}

/-- Away from zero, a place belongs to one double only. -/
theorem unpack_eq_unpack (placed : place? first = some place) (among : place? second = some place)
    (finite : |place| < limit) (nonzero : place ≠ 0) :
    first.toModel.unpack = second.toModel.unpack := by
  rcases finite_cases placed finite with
    ⟨-, -, zero⟩ | ⟨sign, mantissa, exponent, positive, parts, same, canonical, -⟩
  · exact absurd zero nonzero
  rcases finite_cases among finite with
    ⟨-, -, zero⟩ | ⟨side, longer, higher, present, others, also, proper, -⟩
  · exact absurd zero nonzero
  have size := place_pos positive exponent
  have amount := place_pos present higher
  have equal : signed sign (mantissa * 2 ^ exponent) = signed side (longer * 2 ^ higher) :=
    same.symm.trans also
  -- The signs agree as the sizes are positive, and then the canonical forms do.
  obtain ⟨rfl, sizes⟩ : sign = side ∧ (mantissa : Rat) * 2 ^ exponent = longer * 2 ^ higher := by
    cases sign <;> cases side <;> simp only [signed] at equal
    · exact ⟨rfl, neg_inj.mp equal⟩
    · linarith
    · linarith
    · exact ⟨rfl, equal⟩
  have compared := canonical.compare_place proper
  rw [compare_eq_iff_eq.mpr sizes, eq_comm, Ordering.then_eq_eq, compare_eq_iff_eq,
    compare_eq_iff_eq] at compared
  obtain ⟨rfl, rfl⟩ := compared
  rw [parts, others]

section Differences

variable (also : place? other = some far) (bounded : |far| < limit)
include also bounded

/-- Zero less a double is at one place, whatever the sign of the zero is. -/
theorem place?_zero_sub (placed : place? first = some 0) :
    place? (first - other) = some (-far) := by
  have inside : |(0 : Rat)| < limit := by
    rw [abs_zero]
    exact limit_pos
  have rounded := nearest_sub placed also inside bounded
  rw [zero_sub] at rounded
  rcases finite_cases also bounded with
    ⟨-, -, rfl⟩ | ⟨side, longer, higher, present, -, rfl, proper, room⟩
  · rw [neg_zero] at rounded ⊢
    exact rounded.place?_eq placed
  · have opposite : -signed side (longer * 2 ^ higher) = signed (-side) (longer * 2 ^ higher) := by
      cases side
      · exact neg_neg _
      · rfl
    rw [opposite] at rounded ⊢
    exact rounded.place?_eq (@place_pack_finite _ _ _ present proper room)

theorem place?_sub_eq (placed : place? first = some place) (among : place? second = some place)
    (inside : |place| < limit) : place? (first - other) = place? (second - other) := by
  by_cases zero : place = 0
  · subst zero
    rw [place?_zero_sub also bounded placed, place?_zero_sub also bounded among]
  · have parts := unpack_eq_unpack placed among inside zero
    show partsPlace? (Float.Model.pack (UnpackedFloat.sub Format.binary64 first.toModel.unpack
      other.toModel.unpack)).unpack = partsPlace? (Float.Model.pack
        (UnpackedFloat.sub Format.binary64 second.toModel.unpack other.toModel.unpack)).unpack
    rw [parts]

/-- Differences from one double keep the order. -/
theorem sub_place_le {low high : Rat} (placed : place? first = some near)
    (among : place? second = some place) (inside : |near| < limit) (within : |place| < limit)
    (ordered : near ≤ place) (below : place? (first - other) = some low)
    (above : place? (second - other) = some high) : low ≤ high := by
  rcases ordered.lt_or_eq with less | rfl
  · exact (nearest_sub placed also inside bounded).place_le_place
      (nearest_sub among also within bounded) below above (sub_lt_sub_right less far)
  · rw [place?_sub_eq also bounded placed among inside, above] at below
    exact (Option.some.inj below).ge

end Differences

section Quotients

variable (also : place? other = some far) (bounded : |far| < limit) (positive : 0 < far)
include also bounded positive

theorem place?_div_eq (placed : place? first = some place) (among : place? second = some place)
    (inside : |place| < limit) : place? (first / other) = place? (second / other) := by
  by_cases zero : place = 0
  · subst zero
    have rounded := nearest_div placed also inside bounded positive.ne'
    have likewise := nearest_div among also inside bounded positive.ne'
    rw [zero_div] at rounded likewise
    rw [rounded.place?_eq placed, likewise.place?_eq placed]
  · have parts := unpack_eq_unpack placed among inside zero
    show partsPlace? (Float.Model.pack (UnpackedFloat.div Format.binary64 first.toModel.unpack
      other.toModel.unpack)).unpack = partsPlace? (Float.Model.pack
        (UnpackedFloat.div Format.binary64 second.toModel.unpack other.toModel.unpack)).unpack
    rw [parts]

/-- Quotients by one positive double keep the order. -/
theorem div_place_le {low high : Rat} (placed : place? first = some near)
    (among : place? second = some place) (inside : |near| < limit) (within : |place| < limit)
    (ordered : near ≤ place) (below : place? (first / other) = some low)
    (above : place? (second / other) = some high) : low ≤ high := by
  rcases ordered.lt_or_eq with less | rfl
  · exact (nearest_div placed also inside bounded positive.ne').place_le_place
      (nearest_div among also within bounded positive.ne') below above
      (div_lt_div_of_pos_right less positive)
  · rw [place?_div_eq also bounded positive placed among inside, above] at below
    exact (Option.some.inj below).ge

end Quotients

end Telemetry.Doubles
