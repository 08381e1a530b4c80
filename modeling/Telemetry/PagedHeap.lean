/-
# Binary heaps with paged storage

The heap is a priority queue of keyed entries in one array, a parent at `place`
having its children at `2 * place + 1` and `2 * place + 2`. Its capacity is counted
in pages: it doubles when the heap is full and halves once at most a quarter of the
pages is in use, one spare page aside. It never falls below the pages it was created
with. The order of the keys is part of the type, so no operation can change it.
-/

import Telemetry.Event

namespace Telemetry

/-- The pages of a store and the entries in them. -/
structure Occupancy where
  pages : Nat
  entries : Nat

/-- The resize that took a store from one occupancy to another, if its pages changed.
Storage grows before the entry that needs it and shrinks after the entries it is freed
of, so the entries held at that moment are the smaller of the two numbers. -/
def Resize.between (before after : Occupancy) : Option Resize :=
  if before.pages = after.pages then none
  else some ⟨before.pages, after.pages, min before.entries after.entries⟩

/-- A min-heap of keys with values, ordered by `order`. -/
structure PagedHeap {κ : Type} (order : κ → κ → Ordering) (ν : Type) where
  /-- The size of one entry, which decides how many fit in a page. -/
  entryBytes : Nat
  /-- The pages the heap was created with. -/
  minimumPages : Nat
  /-- The pages allocated now. -/
  pages : Nat
  /-- The entries, every parent before its children. -/
  entries : Array (κ × ν)

namespace PagedHeap

variable {κ ν : Type} (order : κ → κ → Ordering)

/-- Move the entry at `place` towards the root until its parent is not larger. -/
def siftUp (entries : Array (κ × ν)) (place : Nat) (inside : place < entries.size) :
    Array (κ × ν) :=
  if place = 0 then entries
  else if order entries[place].1 entries[(place - 1) / 2].1 = .lt then
    siftUp (entries.swap place ((place - 1) / 2)) ((place - 1) / 2) (by simp; omega)
  else entries
termination_by place

/-- The child of `place` with the smaller key; of two equal ones, the left. -/
def lesserChild (entries : Array (κ × ν)) (place : Nat) (left : 2 * place + 1 < entries.size) :
    Nat :=
  if right : 2 * place + 2 < entries.size then
    if order entries[2 * place + 1].1 entries[2 * place + 2].1 = .gt then 2 * place + 2
    else 2 * place + 1
  else 2 * place + 1

theorem lesserChild_bounds (entries : Array (κ × ν)) (place : Nat)
    (left : 2 * place + 1 < entries.size) :
    place < lesserChild order entries place left ∧
      lesserChild order entries place left < entries.size := by
  simp only [lesserChild]
  split
  · split <;> omega
  · omega

/-- Move the entry at `place` away from the root until no child is smaller. -/
def siftDown (entries : Array (κ × ν)) (place : Nat) : Array (κ × ν) :=
  if left : 2 * place + 1 < entries.size then
    have bounds := lesserChild_bounds order entries place left
    if order entries[place].1 entries[lesserChild order entries place left].1 = .gt then
      siftDown (entries.swap place (lesserChild order entries place left))
        (lesserChild order entries place left)
    else entries
  else entries
termination_by entries.size - place
decreasing_by simp; omega

theorem size_siftUp (entries : Array (κ × ν)) (place : Nat) (inside : place < entries.size) :
    (siftUp order entries place inside).size = entries.size := by
  fun_induction siftUp order entries place inside with
  | case1 => rfl
  | case2 entries place inside interior smaller recursion => simpa using recursion
  | case3 => rfl

theorem size_siftDown (entries : Array (κ × ν)) (place : Nat) :
    (siftDown order entries place).size = entries.size := by
  fun_induction siftDown order entries place with
  | case1 entries place left bounds larger recursion => simpa using recursion
  | case2 => rfl
  | case3 => rfl

variable {order}

/-- The size of one page of storage. -/
def pageBytes : Nat :=
  4096

/-- Entries of a given size that fit in one page; an entry larger than a page still
counts as one, and an entry of no size as one byte. -/
def entriesPerPage (entryBytes : Nat) : Nat :=
  max (pageBytes / max entryBytes 1) 1

/-- Pages that hold a number of entries. -/
def pagesFor (entryBytes entries : Nat) : Nat :=
  (entries + entriesPerPage entryBytes - 1) / entriesPerPage entryBytes

/-- An empty heap with room for `initial` entries, or for one page of them when
`initial` is zero. -/
def create (order : κ → κ → Ordering) (ν : Type) (entryBytes initial : Nat) :
    PagedHeap order ν :=
  let requested := if initial = 0 then entriesPerPage entryBytes else initial
  let pages := pagesFor entryBytes requested
  ⟨entryBytes, pages, pages, #[]⟩

/-- Entries that fit in one page of this heap. -/
def perPage (heap : PagedHeap order ν) : Nat :=
  entriesPerPage heap.entryBytes

/-- The number of entries held. -/
def size (heap : PagedHeap order ν) : Nat :=
  heap.entries.size

/-- Whether no entry is held. -/
def isEmpty (heap : PagedHeap order ν) : Bool :=
  heap.entries.isEmpty

/-- Entries the heap can hold before it must grow. -/
def capacity (heap : PagedHeap order ν) : Nat :=
  heap.pages * heap.perPage

/-- What a resize is read off from. -/
def occupancy (heap : PagedHeap order ν) : Occupancy :=
  ⟨heap.pages, heap.size⟩

/-- The entries held, in no particular order. -/
def toList (heap : PagedHeap order ν) : List (κ × ν) :=
  heap.entries.toList

/-- Twice the pages when every place is taken. -/
def grow (heap : PagedHeap order ν) : PagedHeap order ν :=
  if heap.size = heap.capacity then { heap with pages := heap.pages * 2 } else heap

/-- Half the pages when they leave more than one spare beside those in use. -/
def release (heap : PagedHeap order ν) : PagedHeap order ν :=
  let used := pagesFor heap.entryBytes heap.size
  let half := heap.pages / 2
  if used + 1 < half ∧ heap.minimumPages ≤ half then { heap with pages := half } else heap

/-- Add an entry. -/
def insert (heap : PagedHeap order ν) (key : κ) (value : ν) : PagedHeap order ν :=
  let heap := heap.grow
  let place := heap.entries.size
  { heap with
    entries := siftUp order (heap.entries.push (key, value)) place (by simp [place]) }

/-- An entry with the smallest key. -/
def peekMin? (heap : PagedHeap order ν) : Option (κ × ν) :=
  heap.entries[0]?

/-- Remove an entry with the smallest key: the last entry takes its place at the root
and sinks from there. -/
def popMin (heap : PagedHeap order ν) (nonempty : 0 < heap.size) :
    (κ × ν) × PagedHeap order ν :=
  have inside : heap.entries.size - 1 < heap.entries.size := Nat.sub_lt nonempty Nat.one_pos
  let last := heap.entries[heap.entries.size - 1]
  let rest := heap.entries.pop
  if several : 0 < rest.size then
    let least := rest[0]
    (least, { heap with entries := siftDown order (rest.set 0 last) 0 }.release)
  else (last, { heap with entries := rest }.release)

/-- Remove an entry with the smallest key, if there is one. -/
def popMin? (heap : PagedHeap order ν) : Option ((κ × ν) × PagedHeap order ν) :=
  if nonempty : 0 < heap.size then some (heap.popMin nonempty) else none

/-- Drop every entry and all pages beyond the initial ones. -/
def clear (heap : PagedHeap order ν) : PagedHeap order ν :=
  { heap with entries := #[], pages := heap.minimumPages }

@[simp] theorem size_release (heap : PagedHeap order ν) : heap.release.size = heap.size := by
  simp only [release]
  split <;> rfl

theorem size_popMin (heap : PagedHeap order ν) (nonempty : 0 < heap.size) :
    (heap.popMin nonempty).2.size = heap.size - 1 := by
  simp only [popMin]
  split <;> simp [size, size_siftDown, release] <;> split <;> simp [size_siftDown]

/-- What removing entries in order yields: the entries, the resizes on the way, and
the heap that is left. -/
structure Drained (order : κ → κ → Ordering) (ν : Type) where
  entries : List (κ × ν)
  resizes : List Resize
  rest : PagedHeap order ν

/-- Remove the smallest entries, in order, for as long as their keys are due. -/
def popWhile (due : κ → Bool) (heap : PagedHeap order ν) : Drained order ν :=
  if nonempty : 0 < heap.size then
    have inside : 0 < heap.entries.size := nonempty
    if due heap.entries[0].1 then
      let before := heap.occupancy
      let popped := heap.popMin nonempty
      have smaller : popped.2.size < heap.size := by
        rw [show popped.2.size = heap.size - 1 from size_popMin heap nonempty]
        omega
      let change := Resize.between before popped.2.occupancy
      let later := popWhile due popped.2
      ⟨popped.1 :: later.entries, change.toList ++ later.resizes, later.rest⟩
    else ⟨[], [], heap⟩
  else ⟨[], [], heap⟩
termination_by heap.size

end PagedHeap

end Telemetry
