/-
# Sifting

A sift moves one entry along a path of the tree until every parent is again at or below
its children. Before the last exchange the order fails at one place only: a rising entry
may be smaller than its parent, a sinking one larger than its children. The entries
around that place are already in order with one another, which is what makes a single
exchange restore the order where it was broken.
-/

import Mathlib.Order.Basic
import Mathlib.Order.Nat
import Telemetry.PagedHeap

namespace Telemetry.PagedHeap

variable {κ ν : Type} (order : κ → κ → Ordering)

/-- Whether the entry at the first place is at or below the one at the second. Places
outside the heap hold nothing that could violate this. -/
def AtMost (entries : Array (κ × ν)) (first second : Nat) : Prop :=
  ∀ lesser ∈ entries[first]?, ∀ greater ∈ entries[second]?, (order lesser.1 greater.1).isLE

/-- The place above another one; the root stands above itself. -/
def parent (place : Nat) : Nat :=
  (place - 1) / 2

/-- Every parent is at or below its children. -/
def Ordered (entries : Array (κ × ν)) : Prop :=
  ∀ child, 0 < child → AtMost order entries (parent child) child

/-- The order may fail between the entry at `place` and its parent, and nowhere else. -/
structure Rising (entries : Array (κ × ν)) (place : Nat) : Prop where
  elsewhere : ∀ child, 0 < child → child ≠ place → AtMost order entries (parent child) child
  across : ∀ child, 0 < child → parent child = place → 0 < place →
    AtMost order entries (parent place) child

/-- The order may fail between the entry at `place` and its children, and nowhere else. -/
structure Sinking (entries : Array (κ × ν)) (place : Nat) : Prop where
  elsewhere : ∀ child, 0 < child → parent child ≠ place →
    AtMost order entries (parent child) child
  across : ∀ child, 0 < child → parent child = place → 0 < place →
    AtMost order entries (parent place) child

theorem parent_lt {place : Nat} (interior : 0 < place) : parent place < place := by
  unfold parent
  omega

section

variable {order} {entries : Array (κ × ν)} {first second third place : Nat}

theorem atMost_iff_of_lt (firstInside : first < entries.size) (secondInside : second < entries.size) :
    AtMost order entries first second ↔
      (order entries[first].1 entries[second].1).isLE := by
  simp [AtMost, firstInside, secondInside]

theorem atMost_of_size_le (outside : entries.size ≤ second) : AtMost order entries first second := by
  simp [AtMost, Array.getElem?_eq_none outside]

theorem AtMost.trans [Std.TransCmp order] (inside : second < entries.size)
    (lower : AtMost order entries first second) (upper : AtMost order entries second third) :
    AtMost order entries first third := by
  intro least foundLeast greatest foundGreatest
  have found : entries[second] ∈ entries[second]? := Array.getElem?_eq_getElem inside
  exact Std.TransCmp.isLE_trans (lower _ foundLeast _ found) (upper _ found _ foundGreatest)

theorem AtMost.refl [Std.TransCmp order] : AtMost order entries first first := by
  intro entry found entry' found'
  obtain rfl : entry = entry' := Option.mem_unique found found'
  exact Std.ReflCmp.isLE_rfl

/-- After an exchange each of the two places answers for the other. -/
theorem atMost_swap {left right : Nat} (leftInside : left < entries.size)
    (rightInside : right < entries.size) :
    AtMost order (entries.swap left right) first second ↔
      AtMost order entries
        (if first = left then right else if first = right then left else first)
        (if second = left then right else if second = right then left else second) := by
  have found (place : Nat) : (entries.swap left right)[place]? =
      entries[if place = left then right else if place = right then left else place]? := by
    rw [Array.getElem?_swap]
    by_cases isRight : right = place
    · subst isRight
      by_cases same : right = left
      · simp [same, leftInside]
      · simp [same, leftInside]
    · by_cases isLeft : left = place
      · simp [isLeft, isRight, rightInside]
      · simp [isLeft, isRight, Ne.symm isLeft, Ne.symm isRight]
  simp only [AtMost, found]

theorem ordered_of_rising_root (rising : Rising order entries 0) : Ordered order entries :=
  fun child interior => rising.elsewhere child interior (by omega)

theorem Rising.ordered (rising : Rising order entries place)
    (settled : AtMost order entries (parent place) place) : Ordered order entries := by
  intro child interior
  by_cases same : child = place
  · rw [same]
    exact settled
  · exact rising.elsewhere child interior same

/-- Exchanging a rising entry with its larger parent moves the only failure up. -/
theorem Rising.swap [Std.TransCmp order] (rising : Rising order entries place)
    (interior : 0 < place) (inside : place < entries.size)
    (parentInside : parent place < entries.size)
    (smaller : AtMost order entries place (parent place)) :
    Rising order (entries.swap place (parent place)) (parent place) where
  elsewhere child childInterior other := by
    have above := parent_lt interior
    have childAbove := parent_lt childInterior
    rw [atMost_swap inside parentInside]
    by_cases same : child = place
    · subst same
      simpa [above.ne] using smaller
    · by_cases below : parent child = place
      · simpa [below, same, other] using rising.across child childInterior below interior
      · by_cases sibling : parent child = parent place
        · have ordered := rising.elsewhere child childInterior same
          rw [sibling] at ordered
          simpa [sibling, above.ne, same, other] using smaller.trans parentInside ordered
        · simpa [below, sibling, same, other] using rising.elsewhere child childInterior same
  across child childInterior below parentInterior := by
    have above := parent_lt interior
    have grandAbove := parent_lt parentInterior
    have ordered := rising.elsewhere (parent place) parentInterior above.ne
    rw [atMost_swap inside parentInside]
    by_cases same : child = place
    · subst same
      simpa [grandAbove.ne, (grandAbove.trans above).ne] using ordered
    · have other : child ≠ parent place := fun equal => by
        have := parent_lt childInterior
        omega
      have childOrdered := rising.elsewhere child childInterior same
      rw [below] at childOrdered
      simpa [grandAbove.ne, (grandAbove.trans above).ne, same, other] using
        ordered.trans parentInside childOrdered

/-- A rising entry ends below its parent with every other pair in order. -/
theorem ordered_siftUp [Std.TransCmp order] (entries : Array (κ × ν)) (place : Nat)
    (inside : place < entries.size) (rising : Rising order entries place) :
    Ordered order (siftUp order entries place inside) := by
  fun_induction siftUp order entries place inside with
  | case1 entries inside => exact ordered_of_rising_root rising
  | case2 entries place inside interior smaller recursion =>
    have positive : 0 < place := Nat.pos_of_ne_zero interior
    have parentInside : parent place < entries.size := (parent_lt positive).trans inside
    refine recursion (rising.swap positive inside parentInside ?_)
    rw [atMost_iff_of_lt inside parentInside]
    exact Ordering.isLE_of_eq_lt smaller
  | case3 entries place inside interior settled =>
    have positive : 0 < place := Nat.pos_of_ne_zero interior
    have parentInside : parent place < entries.size := (parent_lt positive).trans inside
    refine rising.ordered ?_
    rw [atMost_iff_of_lt parentInside inside]
    exact Std.OrientedCmp.isGE_iff_isLE.mp (Ordering.isGE_iff_ne_lt.mpr settled)

/-- The selected child is at or below both children. -/
theorem atMost_lesserChild [Std.TransCmp order] {child : Nat} (left : 2 * place + 1 < entries.size)
    (interior : 0 < child) (below : parent child = place) :
    AtMost order entries (lesserChild order entries place left) child := by
  have sides : child = 2 * place + 1 ∨ child = 2 * place + 2 := by
    unfold parent at below
    omega
  unfold lesserChild
  split
  · rename_i right
    split
    · rename_i larger
      rcases sides with rfl | rfl
      · rw [atMost_iff_of_lt right left]
        exact Std.OrientedCmp.isGE_iff_isLE.mp (Ordering.isGE_of_eq_gt larger)
      · exact AtMost.refl
    · rename_i notLarger
      rcases sides with rfl | rfl
      · exact AtMost.refl
      · rw [atMost_iff_of_lt left right]
        exact Ordering.isLE_iff_ne_gt.mpr notLarger
  · rename_i noRight
    rcases sides with rfl | rfl
    · exact AtMost.refl
    · exact atMost_of_size_le (by omega)

theorem parent_lesserChild (left : 2 * place + 1 < entries.size) :
    parent (lesserChild order entries place left) = place := by
  unfold lesserChild parent
  split
  · split <;> omega
  · omega

/-- Exchanging a sinking entry with its smallest child moves the only failure down. -/
theorem Sinking.swap [Std.TransCmp order] {lesser : Nat} (sinking : Sinking order entries place)
    (inside : place < entries.size) (lesserInside : lesser < entries.size)
    (interior : 0 < lesser) (below : parent lesser = place)
    (smaller : AtMost order entries lesser place)
    (least : ∀ child, 0 < child → parent child = place → AtMost order entries lesser child) :
    Sinking order (entries.swap place lesser) lesser where
  elsewhere child childInterior notBelow := by
    have deeper := parent_lt interior
    have childAbove := parent_lt childInterior
    rw [below] at deeper
    rw [atMost_swap inside lesserInside]
    by_cases isLesser : child = lesser
    · subst isLesser
      simpa [below, deeper.ne'] using smaller
    · by_cases same : child = place
      · subst same
        simpa [childAbove.ne, notBelow] using sinking.across lesser interior below childInterior
      · by_cases sibling : parent child = place
        · simpa [sibling, same, isLesser] using least child childInterior sibling
        · simpa [sibling, same, isLesser, notBelow] using
            sinking.elsewhere child childInterior sibling
  across child childInterior childBelow _ := by
    have deeper := parent_lt interior
    have childAbove := parent_lt childInterior
    rw [below] at deeper
    rw [childBelow] at childAbove
    have ordered := sinking.elsewhere child childInterior (by omega)
    rw [childBelow] at ordered
    rw [atMost_swap inside lesserInside, below]
    simpa [childAbove.ne', (deeper.trans childAbove).ne'] using ordered

theorem Sinking.ordered (sinking : Sinking order entries place)
    (settled : ∀ child, 0 < child → parent child = place → AtMost order entries place child) :
    Ordered order entries := by
  intro child interior
  by_cases below : parent child = place
  · rw [below]
    exact settled child interior below
  · exact sinking.elsewhere child interior below

/-- A sinking entry ends above its children with every other pair in order. -/
theorem ordered_siftDown [Std.TransCmp order] (entries : Array (κ × ν)) (place : Nat)
    (sinking : Sinking order entries place) : Ordered order (siftDown order entries place) := by
  fun_induction siftDown order entries place with
  | case1 entries place left bounds larger recursion =>
    have inside : place < entries.size := bounds.1.trans bounds.2
    have interior := Nat.zero_lt_of_lt bounds.1
    refine recursion (sinking.swap inside bounds.2 interior (parent_lesserChild left) ?_
      fun child => atMost_lesserChild left)
    rw [atMost_iff_of_lt bounds.2 inside]
    exact Std.OrientedCmp.isGE_iff_isLE.mp (Ordering.isGE_of_eq_gt larger)
  | case2 entries place left bounds settled =>
    have inside : place < entries.size := bounds.1.trans bounds.2
    apply sinking.ordered
    intro child interior below
    have atMost : AtMost order entries place (lesserChild order entries place left) := by
      rw [atMost_iff_of_lt inside bounds.2]
      exact Ordering.isLE_iff_ne_gt.mpr settled
    exact atMost.trans bounds.2 (atMost_lesserChild left interior below)
  | case3 entries place noLeft =>
    refine sinking.ordered fun child interior below => atMost_of_size_le ?_
    unfold parent at below
    omega

/-- The root is at or below everything. -/
theorem Ordered.root_atMost [Std.TransCmp order] (ordered : Ordered order entries) (place : Nat) :
    AtMost order entries 0 place := by
  induction place using Nat.strongRecOn with
  | ind place recursion =>
    by_cases root : place = 0
    · rw [root]
      exact AtMost.refl
    · by_cases inside : place < entries.size
      · have interior : 0 < place := Nat.pos_of_ne_zero root
        have above := parent_lt interior
        exact (recursion (parent place) above).trans (above.trans inside) (ordered place interior)
      · exact atMost_of_size_le (Nat.le_of_not_lt inside)

end

theorem siftUp_perm (entries : Array (κ × ν)) (place : Nat) (inside : place < entries.size) :
    (siftUp order entries place inside).Perm entries := by
  fun_induction siftUp order entries place inside with
  | case1 => exact .refl _
  | case2 entries place inside interior smaller recursion =>
    exact recursion.trans (Array.swap_perm _ _)
  | case3 => exact .refl _

theorem siftDown_perm (entries : Array (κ × ν)) (place : Nat) :
    (siftDown order entries place).Perm entries := by
  fun_induction siftDown order entries place with
  | case1 entries place left bounds larger recursion =>
    exact recursion.trans (Array.swap_perm _ _)
  | case2 => exact .refl _
  | case3 => exact .refl _

end Telemetry.PagedHeap
