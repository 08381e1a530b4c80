/-
# How many pages a heap keeps

A heap doubles its pages when every place in them is taken, and halves them when it would still
have more than one to spare. One halving is enough after a removal: until then at most one page
too many was spare. The pages are always those it was created with, doubled a number of times.
-/

import Mathlib.Algebra.Order.Floor.Div
import Telemetry.Proofs.PagedHeap.History

namespace Telemetry.PagedHeap

section Counting

variable {entryBytes entries fewer pages : Nat}

theorem entriesPerPage_pos (entryBytes : Nat) : 0 < entriesPerPage entryBytes :=
  Nat.le_max_right _ 1

theorem pagesFor_le_iff :
    pagesFor entryBytes entries ≤ pages ↔ entries ≤ pages * entriesPerPage entryBytes := by
  rw [Nat.mul_comm]
  exact ceilDiv_le_iff_le_mul (entriesPerPage_pos entryBytes)

theorem lt_pagesFor_iff :
    pages < pagesFor entryBytes entries ↔ pages * entriesPerPage entryBytes < entries :=
  lt_iff_lt_of_le_iff_le pagesFor_le_iff

theorem le_pagesFor_mul (entryBytes entries : Nat) :
    entries ≤ pagesFor entryBytes entries * entriesPerPage entryBytes :=
  pagesFor_le_iff.mp le_rfl

theorem pagesFor_mono (atMost : fewer ≤ entries) :
    pagesFor entryBytes fewer ≤ pagesFor entryBytes entries :=
  pagesFor_le_iff.mpr (atMost.trans (le_pagesFor_mul entryBytes entries))

/-- One more entry takes up one more page at most. -/
theorem pagesFor_succ_le : pagesFor entryBytes (entries + 1) ≤ pagesFor entryBytes entries + 1 := by
  rw [pagesFor_le_iff, Nat.succ_mul]
  exact Nat.add_le_add (le_pagesFor_mul entryBytes entries) (entriesPerPage_pos entryBytes)

end Counting

variable {κ ν : Type} {order : κ → κ → Ordering} {heap next : PagedHeap order ν}
  {request : Request κ ν}

/-- The pages that the entries take up. -/
def usedPages (heap : PagedHeap order ν) : Nat :=
  pagesFor heap.entryBytes heap.size

theorem usedPages_le_iff {pages : Nat} :
    heap.usedPages ≤ pages ↔ heap.size ≤ pages * heap.perPage :=
  pagesFor_le_iff

theorem lt_usedPages_iff {pages : Nat} :
    pages < heap.usedPages ↔ pages * heap.perPage < heap.size :=
  lt_pagesFor_iff

/-- With one entry more a heap uses the pages that it used without it, or one page more. -/
theorem usedPages_succ (same : next.entryBytes = heap.entryBytes)
    (entries : next.size = heap.size + 1) :
    heap.usedPages ≤ next.usedPages ∧ next.usedPages ≤ heap.usedPages + 1 := by
  rw [usedPages, usedPages, same, entries]
  exact ⟨pagesFor_mono (Nat.le_succ _), pagesFor_succ_le⟩

/-- What a request does to the pages of a heap, by the number of its entries. -/
inductive Adapts (heap next : PagedHeap order ν) : Request κ ν → Prop where
  | fits {key : κ} {value : ν} (room : heap.size ≠ heap.capacity)
      (entries : next.size = heap.size + 1) (pages : next.pages = heap.pages) :
      Adapts heap next (.insert key value)
  | grows {key : κ} {value : ν} (full : heap.size = heap.capacity)
      (entries : next.size = heap.size + 1) (pages : next.pages = heap.pages * 2) :
      Adapts heap next (.insert key value)
  | idles (same : next = heap) : Adapts heap next .popMin
  | keeps (entries : next.size + 1 = heap.size) (pages : next.pages = heap.pages)
      (spare : heap.minimumPages ≤ heap.pages / 2 → heap.pages / 2 ≤ next.usedPages + 1) :
      Adapts heap next .popMin
  | shrinks (entries : next.size + 1 = heap.size) (pages : next.pages = heap.pages / 2)
      (spare : next.usedPages + 1 < heap.pages / 2) (least : heap.minimumPages ≤ heap.pages / 2) :
      Adapts heap next .popMin
  | clears (entries : next.size = 0) (pages : next.pages = heap.minimumPages) :
      Adapts heap next .clear

/-- A heap comes next after a request: it counts in the same pages, and has adapted them. -/
structure Follows (heap : PagedHeap order ν) (request : Request κ ν) (next : PagedHeap order ν) :
    Prop where
  entryBytes : next.entryBytes = heap.entryBytes
  minimumPages : next.minimumPages = heap.minimumPages
  adapts : Adapts heap next request

/-- A removal leaves one entry less, and then releases pages. -/
theorem exists_popMin_eq_release (heap : PagedHeap order ν) (nonempty : 0 < heap.size) :
    ∃ entries : Array (κ × ν), entries.size + 1 = heap.size ∧
      (heap.popMin nonempty).2 = { heap with entries := entries }.release := by
  obtain ⟨rest, last, shape⟩ := Array.eq_push_of_size_ne_zero (Nat.ne_of_gt nonempty)
  have fewer : rest.size + 1 = heap.size := by rw [size, shape, Array.size_push]
  rw [popMin_eq heap nonempty shape]
  split
  · exact ⟨siftDown order (rest.set 0 last) 0, by rwa [size_siftDown, Array.size_set], rfl⟩
  · exact ⟨rest, fewer, rfl⟩

theorem follows_insert (heap : PagedHeap order ν) (key : κ) (value : ν) :
    heap.Follows (.insert key value) (heap.insert key value) := by
  have entries : (heap.insert key value).size = heap.size + 1 := by
    rw [size, PagedHeap.insert, size_siftUp, Array.size_push, entries_grow]
    rfl
  by_cases full : heap.size = heap.capacity
  · have grown : heap.grow = { heap with pages := heap.pages * 2 } := if_pos full
    exact ⟨congrArg (·.entryBytes) grown, congrArg (·.minimumPages) grown,
      .grows full entries (congrArg (·.pages) grown)⟩
  · have kept : heap.grow = heap := if_neg full
    exact ⟨congrArg (·.entryBytes) kept, congrArg (·.minimumPages) kept,
      .fits full entries (congrArg (·.pages) kept)⟩

theorem follows_popMin (heap : PagedHeap order ν) (nonempty : 0 < heap.size) :
    heap.Follows .popMin (heap.popMin nonempty).2 := by
  obtain ⟨entries, fewer, popped⟩ := exists_popMin_eq_release heap nonempty
  rw [popped, release]
  split
  · rename_i wasteful
    exact ⟨rfl, rfl, .shrinks fewer rfl wasteful.1 wasteful.2⟩
  · rename_i frugal
    exact ⟨rfl, rfl, .keeps fewer rfl fun least =>
      Nat.le_of_not_lt fun more => frugal ⟨more, least⟩⟩

theorem follows_serve (heap : PagedHeap order ν) (request : Request κ ν) :
    heap.Follows request (heap.serve request).2 := by
  cases request with
  | insert key value => exact follows_insert heap key value
  | popMin =>
    by_cases nonempty : 0 < heap.size
    · rw [serve, popMin?, dif_pos nonempty]
      exact follows_popMin heap nonempty
    · rw [serve, popMin?, dif_neg nonempty]
      exact ⟨rfl, rfl, .idles rfl⟩
  | clear => exact ⟨rfl, rfl, .clears rfl rfl⟩

/-- The pages are those that a heap was created with, doubled a number of times. They hold all its
entries, and if they may be halved, then half of them would have no more than one to spare. -/
structure Paged (heap : PagedHeap order ν) : Prop where
  positive : 0 < heap.minimumPages
  doubled : ∃ doublings, heap.pages = heap.minimumPages * 2 ^ doublings
  fits : heap.usedPages ≤ heap.pages
  frugal : heap.minimumPages ≤ heap.pages / 2 → heap.pages / 2 ≤ heap.usedPages + 1

theorem Paged.pages_pos (paged : heap.Paged) : 0 < heap.pages := by
  obtain ⟨doublings, doubled⟩ := paged.doubled
  exact doubled ▸ Nat.mul_pos paged.positive (Nat.two_pow_pos doublings)

/-- Pages that were doubled can be halved, and no others. -/
theorem half_doubled {minimum doublings : Nat} :
    minimum * 2 ^ (doublings + 1) / 2 = minimum * 2 ^ doublings := by
  rw [Nat.pow_succ, ← Nat.mul_assoc, Nat.mul_div_cancel _ Nat.two_pos]

theorem not_le_half {minimum : Nat} (positive : 0 < minimum) : ¬ minimum ≤ minimum / 2 :=
  Nat.not_le.mpr (Nat.div_lt_self positive Nat.one_lt_two)

theorem paged_create (order : κ → κ → Ordering) (ν : Type) (entryBytes initial : Nat) :
    (create order ν entryBytes initial).Paged := by
  have positive : 0 < (create order ν entryBytes initial).minimumPages := by
    rw [create, lt_pagesFor_iff, Nat.zero_mul]
    split
    · exact entriesPerPage_pos entryBytes
    · rename_i some
      exact Nat.pos_of_ne_zero some
  refine ⟨positive, ⟨0, (Nat.mul_one _).symm⟩, ?_, fun half => absurd half (not_le_half positive)⟩
  exact usedPages_le_iff.mpr (Nat.zero_le _)

/-- A heap is created with room for what was asked. -/
theorem le_capacity_create (order : κ → κ → Ordering) (ν : Type) (entryBytes initial : Nat) :
    initial ≤ (create order ν entryBytes initial).capacity := by
  refine le_trans ?_ (le_pagesFor_mul entryBytes _)
  split
  · rename_i none
    exact none ▸ Nat.zero_le _
  · exact le_rfl

/-- Whatever is asked, the pages stay those of a heap. -/
theorem Paged.follows (paged : heap.Paged) (follows : heap.Follows request next) : next.Paged := by
  obtain ⟨sameBytes, sameMinimum, adapts⟩ := follows
  obtain ⟨doublings, doubled⟩ := paged.doubled
  have positive : 0 < next.minimumPages := sameMinimum ▸ paged.positive
  have samePage : next.perPage = heap.perPage := congrArg entriesPerPage sameBytes
  have fits := paged.fits
  have frugal := paged.frugal
  rw [← sameMinimum] at doubled frugal
  cases adapts with
  | fits room entries pages =>
    have more := (usedPages_succ sameBytes entries).1
    refine ⟨positive, ⟨doublings, pages ▸ doubled⟩, ?_, ?_⟩
    · rw [pages, usedPages_le_iff, entries, samePage]
      exact Nat.lt_of_le_of_ne (usedPages_le_iff.mp fits) room
    · rw [pages]
      exact fun least => (frugal least).trans (Nat.succ_le_succ more)
  | grows full entries pages =>
    -- All pages were in use, so half of twice as many leave none to spare.
    have most := (usedPages_succ sameBytes entries).2
    have used : heap.pages < next.usedPages := by
      rw [lt_usedPages_iff, entries, full, samePage]
      exact Nat.lt_succ_self _
    have some := paged.pages_pos
    refine ⟨positive, ⟨doublings + 1, ?_⟩, by omega, fun _ => by omega⟩
    rw [pages, doubled, Nat.pow_succ, Nat.mul_assoc]
  | idles same => exact same ▸ paged
  | keeps entries pages spare =>
    have fewer := (usedPages_succ sameBytes.symm entries.symm).1
    rw [← sameMinimum, ← pages] at spare
    exact ⟨positive, ⟨doublings, pages ▸ doubled⟩, pages ▸ fewer.trans fits, spare⟩
  | shrinks entries pages spare least =>
    -- The entry that is gone took up the last page that kept the heap from halving before.
    have fewer := (usedPages_succ sameBytes.symm entries.symm).2
    rw [← sameMinimum] at least
    have half := frugal least
    refine ⟨positive, ?_, by omega, fun _ => by omega⟩
    cases doublings with
    | zero =>
      rw [Nat.pow_zero, Nat.mul_one] at doubled
      exact absurd (doubled ▸ least) (not_le_half positive)
    | succ doublings => exact ⟨doublings, by rw [pages, doubled, half_doubled]⟩
  | clears entries pages =>
    rw [← sameMinimum] at pages
    refine ⟨positive, ⟨0, by rw [pages, Nat.pow_zero, Nat.mul_one]⟩, ?_, ?_⟩
    · rw [usedPages_le_iff, entries]
      exact Nat.zero_le _
    · rw [pages]
      exact fun half => absurd half (not_le_half positive)

theorem run_append (order : κ → κ → Ordering) (entryBytes initial : Nat)
    (earlier later : List (Request κ ν)) :
    run order entryBytes initial (earlier ++ later) =
      (run order entryBytes initial earlier).serveAll later :=
  List.foldl_append

/-- A run never changes the pages that a heap counts in, nor those it was created with. -/
theorem paged_run (order : κ → κ → Ordering) (entryBytes initial : Nat)
    (requests : List (Request κ ν)) :
    let heap := (run order entryBytes initial requests).heap
    heap.Paged ∧ heap.entryBytes = entryBytes ∧
      heap.minimumPages = (create order ν entryBytes initial).pages := by
  induction requests using List.reverseRecOn with
  | nil => exact ⟨paged_create order ν entryBytes initial, rfl, rfl⟩
  | append_singleton requests request recursion =>
    obtain ⟨paged, bytes, minimum⟩ := recursion
    have follows := follows_serve (run order entryBytes initial requests).heap request
    rw [run_append]
    exact ⟨paged.follows follows, follows.entryBytes.trans bytes,
      follows.minimumPages.trans minimum⟩

/-- Whatever is asked of a heap, in every state its pages are those it was created with, doubled
a number of times. They hold its entries and as many as it was created for. Once they were
doubled, half of them would have no more than one to spare, so that a removal never leaves a
heap that the next one would have to halve for the same entries. -/
theorem capacity_of_run (order : κ → κ → Ordering) (entryBytes initial : Nat)
    (requests : List (Request κ ν)) :
    let heap := (run order entryBytes initial requests).heap
    heap.minimumPages = (create order ν entryBytes initial).pages ∧
      heap.perPage = entriesPerPage entryBytes ∧
      heap.size ≤ heap.capacity ∧ initial ≤ heap.capacity ∧
      (∃ doublings, heap.pages = heap.minimumPages * 2 ^ doublings ∧
        (doublings = 0 ∨ heap.pages / 2 ≤ heap.size ⌈/⌉ heap.perPage + 1)) ∧
      heap.release = heap := by
  intro heap
  obtain ⟨paged, bytes, minimum⟩ := paged_run order entryBytes initial requests
  obtain ⟨doublings, doubled⟩ := paged.doubled
  refine ⟨minimum, congrArg entriesPerPage bytes, usedPages_le_iff.mp paged.fits, ?_,
    ⟨doublings, doubled, ?_⟩, ?_⟩
  · have least : heap.minimumPages ≤ heap.pages :=
      doubled ▸ Nat.le_mul_of_pos_right _ (Nat.two_pow_pos doublings)
    rw [minimum] at least
    refine (le_capacity_create order ν entryBytes initial).trans ?_
    rw [capacity, capacity, perPage, perPage, bytes]
    exact Nat.mul_le_mul_right _ least
  · cases doublings with
    | zero => exact .inl rfl
    | succ doublings =>
      apply Or.inr
      apply paged.frugal
      rw [doubled, half_doubled]
      exact Nat.le_mul_of_pos_right _ (Nat.two_pow_pos doublings)
  · apply if_neg
    rintro ⟨spare, least⟩
    exact absurd (paged.frugal least) (Nat.not_le.mpr spare)

end Telemetry.PagedHeap
