/-
# The heap as a priority queue

The entries of a heap are read as a multiset: inserting adds one entry, and removing takes
out one whose key is least, key and value together. Pages never matter to what is held.
-/

import Mathlib.Data.Multiset.AddSub
import Telemetry.Proofs.PagedHeap.Sift

namespace Telemetry.PagedHeap

variable {κ ν : Type} {order : κ → κ → Ordering}

/-- Every parent of the heap is at or below its children. -/
def IsHeap (heap : PagedHeap order ν) : Prop :=
  Ordered order heap.entries

@[simp] theorem toList_create (entryBytes initial : Nat) :
    (create order ν entryBytes initial).toList = [] :=
  rfl

theorem isHeap_create (entryBytes initial : Nat) : (create order ν entryBytes initial).IsHeap :=
  fun _ _ => atMost_of_size_le (Nat.zero_le _)

@[simp] theorem length_toList (heap : PagedHeap order ν) : heap.toList.length = heap.size :=
  Array.length_toList

@[simp] theorem isEmpty_iff (heap : PagedHeap order ν) : heap.isEmpty ↔ heap.toList = [] := by
  simp [isEmpty, toList]

@[simp] theorem entries_grow (heap : PagedHeap order ν) : heap.grow.entries = heap.entries := by
  unfold grow
  split <;> rfl

@[simp] theorem entries_release (heap : PagedHeap order ν) :
    heap.release.entries = heap.entries := by
  simp only [release]
  split <;> rfl

/-- Inserting adds exactly the one entry. -/
theorem toList_insert_perm (heap : PagedHeap order ν) (key : κ) (value : ν) :
    (heap.insert key value).toList.Perm ((key, value) :: heap.toList) := by
  have sifted := siftUp_perm order (heap.grow.entries.push (key, value))
    heap.grow.entries.size (by simp)
  refine (Array.perm_iff_toList_perm.mp sifted).trans ?_
  rw [Array.toList_push, entries_grow]
  exact List.perm_append_singleton _ _

/-- A new last entry can only be in disorder with its parent. -/
theorem rising_push {entries : Array (κ × ν)} (ordered : Ordered order entries)
    (entry : κ × ν) : Rising order (entries.push entry) entries.size where
  elsewhere child interior other := by
    by_cases inside : child < entries.size
    · have parentInside := (parent_lt interior).trans inside
      have before := (atMost_iff_of_lt parentInside inside).mp (ordered child interior)
      rw [atMost_iff_of_lt (by simp; omega) (by simp; omega)]
      simpa [Array.getElem_push_lt, parentInside, inside] using before
    · exact atMost_of_size_le (by simp; omega)
  across child interior below _ := by
    have above := parent_lt interior
    exact atMost_of_size_le (by simp; omega)

theorem IsHeap.insert [Std.TransCmp order] {heap : PagedHeap order ν} (isHeap : heap.IsHeap)
    (key : κ) (value : ν) : (heap.insert key value).IsHeap :=
  ordered_siftUp _ _ _ (rising_push (by rwa [entries_grow]) (key, value))

/-- The last entry in place of the root can only be in disorder with its children. -/
theorem sinking_set_root {rest : Array (κ × ν)} {last : κ × ν} (several : 0 < rest.size)
    (ordered : Ordered order (rest.push last)) : Sinking order (rest.set 0 last) 0 where
  elsewhere child interior deeper := by
    by_cases inside : child < rest.size
    · have parentInside := (parent_lt interior).trans inside
      have before := ordered child interior
      rw [atMost_iff_of_lt (by simp; omega) (by simp; omega)] at before
      rw [atMost_iff_of_lt (by simpa using parentInside) (by simpa using inside)]
      simpa [Array.getElem_push_lt, Array.getElem_set, parentInside, inside, deeper.symm,
        interior.ne] using before
    · exact atMost_of_size_le (by simpa using inside)
  across _ _ _ interior := absurd interior (Nat.lt_irrefl 0)

/-- What removal does, told by the last entry and the ones before it. -/
theorem popMin_eq (heap : PagedHeap order ν) (nonempty : 0 < heap.size)
    {rest : Array (κ × ν)} {last : κ × ν} (shape : heap.entries = rest.push last) :
    heap.popMin nonempty =
      if several : 0 < rest.size then
        (rest[0], { heap with entries := siftDown order (rest.set 0 last) 0 }.release)
      else (last, { heap with entries := rest }.release) := by
  obtain ⟨entryBytes, minimumPages, pages, entries⟩ := heap
  obtain rfl : entries = rest.push last := shape
  simp only [popMin, Array.size_push, Nat.add_sub_cancel, Array.getElem_push_eq, Array.pop_push]

/-- Removing takes out exactly the entry that it answers. -/
theorem toList_popMin_perm (heap : PagedHeap order ν) (nonempty : 0 < heap.size) :
    ((heap.popMin nonempty).1 :: (heap.popMin nonempty).2.toList).Perm heap.toList := by
  obtain ⟨rest, last, shape⟩ := Array.eq_push_of_size_ne_zero (Nat.ne_of_gt nonempty)
  have held : heap.toList = rest.toList ++ [last] := by
    rw [toList, shape, Array.toList_push]
  rw [popMin_eq heap nonempty shape, held]
  refine List.Perm.trans ?_ (List.perm_append_singleton last rest.toList).symm
  split
  · rename_i several
    have sifted := siftDown_perm order (rest.set 0 last) 0
    have after := Array.perm_iff_toList_perm.mp sifted
    obtain ⟨first, later, shapeRest⟩ : ∃ first later, rest = ⟨first :: later⟩ := by
      obtain ⟨entries⟩ := rest
      cases entries with
      | nil => exact absurd several (Nat.lt_irrefl 0)
      | cons first later => exact ⟨first, later, rfl⟩
    subst shapeRest
    simp only [toList, entries_release]
    exact (after.cons first).trans (List.Perm.swap last first later)
  · rename_i single
    have empty : rest = #[] := Array.eq_empty_of_size_eq_zero (Nat.eq_zero_of_not_pos single)
    simp [toList, empty]

theorem IsHeap.popMin [Std.TransCmp order] {heap : PagedHeap order ν} (isHeap : heap.IsHeap)
    (nonempty : 0 < heap.size) : (heap.popMin nonempty).2.IsHeap := by
  obtain ⟨rest, last, shape⟩ := Array.eq_push_of_size_ne_zero (Nat.ne_of_gt nonempty)
  have ordered : Ordered order (rest.push last) := shape ▸ isHeap
  rw [popMin_eq heap nonempty shape]
  split
  · rename_i several
    simp only [IsHeap, entries_release]
    exact ordered_siftDown _ _ (sinking_set_root several ordered)
  · rename_i single
    simp only [IsHeap, entries_release]
    exact fun child _ => atMost_of_size_le (by omega)

/-- The entry at the root is what removal answers. -/
theorem popMin_eq_root (heap : PagedHeap order ν) (nonempty : 0 < heap.entries.size) :
    (heap.popMin nonempty).1 = heap.entries[0] := by
  obtain ⟨rest, last, shape⟩ := Array.eq_push_of_size_ne_zero (Nat.ne_of_gt nonempty)
  rw [popMin_eq heap nonempty shape]
  split
  · rename_i several
    simp [shape, Array.getElem_push_lt, several]
  · rename_i single
    have empty : rest = #[] := Array.eq_empty_of_size_eq_zero (Nat.eq_zero_of_not_pos single)
    simp [shape, empty]

/-- No entry is before the one at the root. -/
theorem IsHeap.root_isLE [Std.TransCmp order] {heap : PagedHeap order ν} (isHeap : heap.IsHeap)
    (nonempty : 0 < heap.entries.size) {entry : κ × ν} (held : entry ∈ heap.toList) :
    (order heap.entries[0].1 entry.1).isLE := by
  obtain ⟨place, inside, rfl⟩ := Array.getElem_of_mem (Array.mem_def.mpr held)
  exact (atMost_iff_of_lt nonempty inside).mp (Ordered.root_atMost isHeap place)

/-- The entry that removal answers is before all that were held. -/
theorem IsHeap.popMin_isLE [Std.TransCmp order] {heap : PagedHeap order ν} (isHeap : heap.IsHeap)
    (nonempty : 0 < heap.size) {entry : κ × ν} (held : entry ∈ heap.toList) :
    (order (heap.popMin nonempty).1.1 entry.1).isLE := by
  have root := popMin_eq_root heap nonempty
  rw [root]
  exact isHeap.root_isLE nonempty held

section Draining

variable (due : κ → Bool) (heap : PagedHeap order ν)

/-- Draining splits what was held into what it yields and what it leaves. -/
theorem popWhile_perm :
    ((heap.popWhile due).entries ++ (heap.popWhile due).rest.toList).Perm heap.toList := by
  fun_induction popWhile due heap with
  | case1 heap nonempty inside isDue before popped smaller change later recursion =>
    exact (recursion.cons _).trans (toList_popMin_perm heap nonempty)
  | case2 => exact .refl _
  | case3 => exact .refl _

theorem IsHeap.popWhile [Std.TransCmp order] {heap : PagedHeap order ν} (isHeap : heap.IsHeap) :
    (heap.popWhile due).rest.IsHeap := by
  fun_induction PagedHeap.popWhile due heap with
  | case1 heap nonempty inside isDue before popped smaller change later recursion =>
    exact recursion (isHeap.popMin nonempty)
  | case2 => exact isHeap
  | case3 => exact isHeap

theorem due_of_mem_popWhile {entry : κ × ν} (yielded : entry ∈ (heap.popWhile due).entries) :
    due entry.1 := by
  fun_induction popWhile due heap with
  | case1 heap nonempty inside isDue before popped smaller change later recursion =>
    rcases List.mem_cons.mp yielded with rfl | yielded
    · have root : popped.1 = heap.entries[0] := popMin_eq_root heap nonempty
      rw [root]
      exact isDue
    · exact recursion yielded
  | case2 => exact absurd yielded List.not_mem_nil
  | case3 => exact absurd yielded List.not_mem_nil

/-- Everything yielded comes in order and before everything left. -/
theorem IsHeap.popWhile_pairwise [Std.TransCmp order] {heap : PagedHeap order ν}
    (isHeap : heap.IsHeap) :
    (heap.popWhile due).entries.Pairwise (fun first second => (order first.1 second.1).isLE) ∧
      ∀ yielded ∈ (heap.popWhile due).entries, ∀ left ∈ (heap.popWhile due).rest.toList,
        (order yielded.1 left.1).isLE := by
  fun_induction PagedHeap.popWhile due heap with
  | case1 heap nonempty inside isDue before popped smaller change later recursion =>
    obtain ⟨ordered, separated⟩ := recursion (isHeap.popMin nonempty)
    have first {entry : κ × ν} (after : entry ∈ popped.2.toList) :
        (order popped.1.1 entry.1).isLE :=
      isHeap.popMin_isLE nonempty
        ((toList_popMin_perm heap nonempty).mem_iff.mp (List.mem_cons_of_mem _ after))
    have rest := popWhile_perm due popped.2
    refine ⟨List.pairwise_cons.mpr ⟨fun entry yielded => ?_, ordered⟩, fun entry yielded left after => ?_⟩
    · exact first (rest.mem_iff.mp (List.mem_append_left _ yielded))
    · rcases List.mem_cons.mp yielded with rfl | yielded
      · exact first (rest.mem_iff.mp (List.mem_append_right _ after))
      · exact separated entry yielded left after
  | case2 => simp
  | case3 => simp

/-- When whatever is before a due key is due itself, nothing due is left. -/
theorem IsHeap.not_due_of_mem_rest [Std.TransCmp order] {heap : PagedHeap order ν}
    (isHeap : heap.IsHeap)
    (closed : ∀ first second, (order first second).isLE → due second → due first)
    {entry : κ × ν} (left : entry ∈ (heap.popWhile due).rest.toList) : ¬ due entry.1 := by
  fun_induction PagedHeap.popWhile due heap with
  | case1 heap nonempty inside isDue before popped smaller change later recursion =>
    exact recursion (isHeap.popMin nonempty) left
  | case2 heap nonempty inside notDue =>
    exact fun isDue => notDue (closed _ _ (isHeap.root_isLE nonempty left) isDue)
  | case3 heap empty =>
    have none : heap.toList.length = 0 := by
      rw [length_toList]
      exact Nat.eq_zero_of_not_pos empty
    rw [List.eq_nil_of_length_eq_zero none] at left
    exact absurd left List.not_mem_nil

end Draining

/-- The keys held, however often each. -/
def keys (heap : PagedHeap order ν) : Multiset κ :=
  ↑(heap.toList.map Prod.fst)

theorem mem_keys {heap : PagedHeap order ν} {key : κ} :
    key ∈ heap.keys ↔ ∃ entry ∈ heap.toList, entry.1 = key := by
  simp [keys]

@[simp] theorem card_keys (heap : PagedHeap order ν) : heap.keys.card = heap.size := by
  simp [keys]

theorem keys_eq_zero_iff {heap : PagedHeap order ν} : heap.keys = 0 ↔ heap.size = 0 := by
  rw [← Multiset.card_eq_zero, card_keys]

theorem isEmpty_iff_keys {heap : PagedHeap order ν} : heap.isEmpty ↔ heap.keys = 0 := by
  rw [isEmpty_iff, keys, Multiset.coe_eq_zero, List.map_eq_nil_iff]

@[simp] theorem keys_create (entryBytes initial : Nat) :
    (create order ν entryBytes initial).keys = 0 :=
  rfl

@[simp] theorem keys_insert (heap : PagedHeap order ν) (key : κ) (value : ν) :
    (heap.insert key value).keys = key ::ₘ heap.keys :=
  Multiset.coe_eq_coe.mpr ((toList_insert_perm heap key value).map Prod.fst)

theorem cons_keys_popMin (heap : PagedHeap order ν) (nonempty : 0 < heap.size) :
    (heap.popMin nonempty).1.1 ::ₘ (heap.popMin nonempty).2.keys = heap.keys :=
  Multiset.coe_eq_coe.mpr ((toList_popMin_perm heap nonempty).map Prod.fst)

theorem add_keys_popWhile (due : κ → Bool) (heap : PagedHeap order ν) :
    ↑((heap.popWhile due).entries.map Prod.fst) + (heap.popWhile due).rest.keys = heap.keys := by
  rw [keys, keys, Multiset.coe_add, ← List.map_append]
  exact Multiset.coe_eq_coe.mpr ((popWhile_perm due heap).map Prod.fst)

end Telemetry.PagedHeap
