/-
# How far resizes of a heap are apart

After a heap has changed its pages, it is some way from both ends at which it changes them again:
from the last free place, and from the page that is one too many to spare. Each request brings it
nearer by one entry at most. So it takes a page of entries, going in or out, until the next
resize, and a heap resizes no more than once for each page of requests.
-/

import Telemetry.Proofs.PagedHeap.Pages

namespace Telemetry.PagedHeap

variable {κ ν : Type} {order : κ → κ → Ordering} {heap next : PagedHeap order ν}
  {request : Request κ ν} {requests : List (Request κ ν)} {calls fewer : Nat}

/-- The resize that a request causes, if it causes one. -/
def resize? (heap : PagedHeap order ν) (request : Request κ ν) : Option Resize :=
  Resize.between heap.occupancy (heap.serve request).2.occupancy

/-- The resizes that requests cause, one after another. -/
def resizes (heap : PagedHeap order ν) : List (Request κ ν) → List Resize
  | [] => []
  | request :: later =>
    (heap.resize? request).toList ++ (heap.serve request).2.resizes later

theorem resize?_eq_none_iff :
    heap.resize? request = none ↔ (heap.serve request).2.pages = heap.pages := by
  rw [resize?, Resize.between]
  split
  · rename_i same
    exact iff_of_true rfl same.symm
  · rename_i changed
    exact iff_of_false (Option.some_ne_none _) (Ne.symm changed)

theorem isSome_resize?_iff :
    (heap.resize? request).isSome ↔ (heap.serve request).2.pages ≠ heap.pages := by
  rw [Option.isSome_iff_ne_none, ne_eq, resize?_eq_none_iff]

/-- A heap may serve some more calls, insertions or removals in any order, before it has to resize:
it has room for so many entries, and would not be halved for want of so many. -/
structure Calm (heap : PagedHeap order ν) (calls : Nat) : Prop where
  growth : heap.size + calls ≤ heap.capacity
  release : heap.minimumPages ≤ heap.pages / 2 →
    heap.pages / 2 ≤ pagesFor heap.entryBytes (heap.size - calls) + 1

theorem Calm.mono (calm : heap.Calm calls) (atMost : fewer ≤ calls) : heap.Calm fewer where
  growth := (Nat.add_le_add_left atMost _).trans calm.growth
  release least := (calm.release least).trans
    (Nat.succ_le_succ (pagesFor_mono (Nat.sub_le_sub_left atMost _)))

/-- The pages of a heap are always enough for no call at all. -/
theorem Paged.calm (paged : heap.Paged) : heap.Calm 0 where
  growth := usedPages_le_iff.mp paged.fits
  release := paged.frugal

/-- One of the calls is made: the pages stay, and one call less may follow. -/
theorem Calm.follows (calm : heap.Calm (calls + 1)) (keeps : request.isClear = false)
    (follows : heap.Follows request next) : next.pages = heap.pages ∧ next.Calm calls := by
  obtain ⟨sameBytes, sameMinimum, adapts⟩ := follows
  have growth := calm.growth
  have release := calm.release
  have sameCapacity (pages : next.pages = heap.pages) : next.capacity = heap.capacity := by
    rw [capacity, capacity, perPage, perPage, pages, sameBytes]
  cases adapts with
  | fits room entries pages =>
    refine ⟨pages, ⟨?_, ?_⟩⟩
    · rw [sameCapacity pages, entries]
      omega
    · rw [sameMinimum, pages, sameBytes]
      exact fun least => (release least).trans (Nat.succ_le_succ (pagesFor_mono (by omega)))
  | grows full entries pages => omega
  | idles same =>
    subst same
    exact ⟨rfl, calm.mono (Nat.le_succ calls)⟩
  | keeps entries pages spare =>
    refine ⟨pages, ⟨?_, ?_⟩⟩
    · rw [sameCapacity pages]
      omega
    · rwa [sameMinimum, pages, sameBytes, show next.size - calls = heap.size - (calls + 1) by omega]
  | shrinks entries pages spare least =>
    have kept : heap.pages / 2 ≤ next.usedPages + 1 := by
      rw [usedPages, sameBytes]
      exact (release least).trans (Nat.succ_le_succ (pagesFor_mono (by omega)))
    exact absurd kept (Nat.not_le.mpr spare)
  | clears entries pages => cases keeps

/-- Entries that do not fill a page take up one page at most. -/
theorem usedPages_le_pagesFor_sub (heap : PagedHeap order ν) :
    heap.usedPages ≤ pagesFor heap.entryBytes (heap.size - (heap.perPage - 1)) + 1 := by
  have others := le_pagesFor_mul heap.entryBytes (heap.size - (heap.perPage - 1))
  rw [usedPages_le_iff, Nat.succ_mul]
  rw [← perPage] at others
  have page : 0 < heap.perPage := entriesPerPage_pos _
  omega

/-- Room for a page of entries less one, and no page to spare when the pages may be halved, are
enough for as many calls. -/
theorem calm_of_frugal (growth : heap.size + (heap.perPage - 1) ≤ heap.capacity)
    (frugal : heap.minimumPages ≤ heap.pages / 2 → heap.pages / 2 ≤ max heap.usedPages 1) :
    heap.Calm (heap.perPage - 1) where
  growth := growth
  release least := (frugal least).trans
    (max_le heap.usedPages_le_pagesFor_sub (Nat.le_add_left _ _))

/-- An empty heap with the pages it was created with has all their places free. -/
theorem calm_of_empty (positive : 0 < heap.minimumPages) (empty : heap.size = 0)
    (pages : heap.pages = heap.minimumPages) : heap.Calm (heap.perPage - 1) := by
  refine calm_of_frugal ?_ fun least => absurd (pages ▸ least) (not_le_half positive)
  rw [capacity, empty, pages, Nat.zero_add]
  exact (Nat.sub_le _ _).trans (Nat.le_mul_of_pos_left _ positive)

/-- After a resize there is a page of calls less one until the next. -/
theorem Paged.calm_of_resize (paged : heap.Paged) (follows : heap.Follows request next)
    (resized : next.pages ≠ heap.pages) : next.Calm (next.perPage - 1) := by
  obtain ⟨sameBytes, sameMinimum, adapts⟩ := follows
  have samePage : next.perPage = heap.perPage := congrArg entriesPerPage sameBytes
  have page : 0 < next.perPage := entriesPerPage_pos _
  cases adapts with
  | fits room entries pages => exact absurd pages resized
  | grows full entries pages =>
    rw [capacity, ← samePage] at full
    have some := Nat.mul_le_mul_right next.perPage paged.pages_pos
    refine calm_of_frugal ?_ fun _ => ?_
    · rw [capacity, pages, Nat.mul_two, Nat.add_mul]
      omega
    · have used : heap.pages < next.usedPages := by
        rw [lt_usedPages_iff]
        omega
      rw [pages, Nat.mul_div_cancel _ Nat.two_pos]
      exact used.le.trans (le_max_left _ _)
  | idles same => exact absurd (congrArg (·.pages) same) resized
  | keeps entries pages spare => exact absurd pages resized
  | shrinks entries pages spare least =>
    -- before the entry was gone, half of the pages had no more than one to spare
    have half : heap.pages / 2 = next.usedPages + 2 := by
      have frugal := paged.frugal least
      have most := (usedPages_succ sameBytes.symm entries.symm).2
      omega
    have fits := usedPages_le_iff.mp (le_refl next.usedPages)
    rw [half] at pages
    refine calm_of_frugal ?_ fun _ => by omega
    rw [capacity, pages, Nat.add_mul]
    omega
  | clears entries pages =>
    exact calm_of_empty (sameMinimum ▸ paged.positive) entries (pages.trans sameMinimum.symm)

/-- Every resize takes a page of calls, the calls that a heap is calm for at first among them. -/
theorem Paged.length_resizes_lt (paged : heap.Paged) (calm : heap.Calm calls)
    (atMost : calls < heap.perPage) (keeps : ∀ request ∈ requests, request.isClear = false) :
    (heap.resizes requests).length * heap.perPage + calls < requests.length + heap.perPage := by
  induction requests generalizing heap calls with
  | nil =>
    rw [resizes, List.length_nil, List.length_nil, Nat.zero_mul, Nat.zero_add, Nat.zero_add]
    exact atMost
  | cons request later recursion =>
    rw [List.forall_mem_cons] at keeps
    have follows := follows_serve heap request
    have page : (heap.serve request).2.perPage = heap.perPage :=
      congrArg entriesPerPage follows.entryBytes
    have rest (left : Nat) (calm : (heap.serve request).2.Calm left) (few : left < heap.perPage) :=
      page ▸ recursion (paged.follows follows) calm (page.symm ▸ few) keeps.2
    rw [resizes, List.length_append, List.length_cons]
    cases resized : heap.resize? request with
    | none =>
      have left : (heap.serve request).2.Calm (calls - 1) := by
        cases calls with
        | zero => exact (paged.follows follows).calm
        | succ fewer => exact (calm.follows keeps.1 follows).2
      have later := rest (calls - 1) left (by omega)
      rw [Option.toList_none, List.length_nil, Nat.zero_add]
      omega
    | some resize =>
      have changed := isSome_resize?_iff.mp (Option.isSome_of_eq_some resized)
      have none : calls = 0 := by
        cases calls with
        | zero => rfl
        | succ fewer => exact absurd (calm.follows keeps.1 follows).1 changed
      have later := rest (heap.perPage - 1) (page ▸ paged.calm_of_resize follows changed)
        (Nat.sub_lt (entriesPerPage_pos _) Nat.one_pos)
      rw [Option.toList_some, List.length_singleton, Nat.add_mul, Nat.one_mul]
      omega

/-- The resizes of a run go on where an earlier part of it ends. -/
theorem resizes_append (session : Session order ν) (earlier later : List (Request κ ν)) :
    session.heap.resizes (earlier ++ later) =
      session.heap.resizes earlier ++ (session.serveAll earlier).heap.resizes later := by
  induction earlier generalizing session with
  | nil => rfl
  | cons request requests recursion =>
    rw [List.cons_append, resizes, resizes, List.append_assoc]
    exact congrArg _ (recursion (session.serve request))

/-- Whatever was asked of a heap until it was resized, from then on it serves a page of insertions
and removals until the next resize, with the one that causes it. So all later resizes together
take no fewer calls than as many pages hold entries. -/
theorem resizes_apart_of_run (order : κ → κ → Ordering) (entryBytes initial : Nat)
    {earlier later : List (Request κ ν)} {first : Request κ ν}
    (resized : ((run order entryBytes initial earlier).heap.resize? first).isSome)
    (keeps : ∀ request ∈ later, request.isClear = false) :
    (∀ between second after, later = between ++ second :: after →
      ((run order entryBytes initial (earlier ++ first :: between)).heap.resize? second).isSome →
        entriesPerPage entryBytes ≤ (between ++ [second]).length) ∧
      ((run order entryBytes initial (earlier ++ [first])).heap.resizes later).length *
        entriesPerPage entryBytes ≤ later.length := by
  obtain ⟨paged, sameBytes, -⟩ := paged_run order entryBytes initial earlier
  let session := (run order entryBytes initial earlier).serve first
  have follows : (run order entryBytes initial earlier).heap.Follows first session.heap :=
    follows_serve _ first
  have page : session.heap.perPage = entriesPerPage entryBytes :=
    congrArg entriesPerPage (follows.entryBytes.trans sameBytes)
  have calm := paged.calm_of_resize follows (isSome_resize?_iff.mp resized)
  have apart {calls : List (Request κ ν)} (keeps : ∀ request ∈ calls, request.isClear = false) :
      (session.heap.resizes calls).length * entriesPerPage entryBytes ≤ calls.length := by
    have positive : 0 < session.heap.perPage := entriesPerPage_pos _
    have fewer := (paged.follows follows).length_resizes_lt calm
      (Nat.sub_lt positive Nat.one_pos) keeps
    rw [← page]
    omega
  rw [run_append]
  refine ⟨?_, apart keeps⟩
  rintro between second after rfl again
  rw [List.append_cons] at keeps
  have once := apart (List.forall_mem_append.mp keeps).1
  have triggered : ((session.serveAll between).heap.resize? second).isSome := by
    rw [run_append] at again
    exact again
  have counted : 0 < (session.heap.resizes (between ++ [second])).length := by
    rw [resizes_append, resizes, resizes, List.append_nil, List.length_append,
      Option.length_toList, if_pos triggered]
    exact Nat.succ_pos _
  exact (Nat.le_mul_of_pos_left _ counted).trans once

/-- A heap with room for four entries to a page is resized by the fifth and by the ninth. -/
theorem resizes_apart_of_inserts :
    let insertion : Request Nat Unit := .insert 0 ()
    let four := List.replicate 4 insertion
    (((run compare 1024 0 four).heap.resize? insertion).isSome ∧
      ∀ request ∈ four, request.isClear = false) ∧
    entriesPerPage 1024 ≤ (List.replicate 3 insertion ++ [insertion]).length ∧
      ((run compare 1024 0 (four ++ [insertion])).heap.resizes four).length *
        entriesPerPage 1024 ≤ four.length := by
  intro insertion four
  have resized : ((run compare 1024 0 four).heap.resize? insertion).isSome := by
    decide +kernel
  have again : ((run compare 1024 0 (four ++ insertion ::
      List.replicate 3 insertion)).heap.resize? insertion).isSome := by
    decide +kernel
  have keeps : ∀ request ∈ four, request.isClear = false := by
    decide
  obtain ⟨apart, amortised⟩ := resizes_apart_of_run compare 1024 0 resized keeps
  exact ⟨⟨resized, keeps⟩, apart (List.replicate 3 insertion) insertion [] rfl again, amortised⟩

end Telemetry.PagedHeap
