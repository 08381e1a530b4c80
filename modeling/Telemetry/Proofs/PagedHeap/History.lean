/-
# Histories of a heap

A session is a heap together with the log of what was asked of it since it was created: the
requests in order, each with the entry that it took out. The entries held are those put in
and not taken out since the last time the heap was cleared. What is taken out is always an
entry before which there is no other, so taking out all that is held sorts it.
-/

import Mathlib.Data.List.DropRight
import Telemetry.Proofs.Binary64.Order
import Telemetry.Proofs.PagedHeap.Queue

namespace Telemetry.PagedHeap

variable {κ ν : Type} {order : κ → κ → Ordering}

/-- What can be asked of a heap. -/
inductive Request (κ ν : Type) where
  | insert (key : κ) (value : ν)
  | popMin
  | clear

/-- The entry that a request puts in, if it puts one in. -/
def Request.entry? : Request κ ν → Option (κ × ν)
  | insert key value => some (key, value)
  | popMin => none
  | clear => none

/-- Whether a request takes everything out unseen. -/
def Request.isClear : Request κ ν → Bool
  | insert _ _ => false
  | popMin => false
  | clear => true

/-- A request with the entry that it answered, if it answered one. -/
structure Exchange (κ ν : Type) where
  request : Request κ ν
  answer : Option (κ × ν)

/-- Do what is asked, and answer the entry taken out. -/
def serve (heap : PagedHeap order ν) : Request κ ν → Option (κ × ν) × PagedHeap order ν
  | .insert key value => (none, heap.insert key value)
  | .popMin =>
    match heap.popMin? with
    | none => (none, heap)
    | some (entry, rest) => (some entry, rest)
  | .clear => (none, heap.clear)

/-- A heap with the log of what was asked of it, the oldest request first. -/
structure Session (order : κ → κ → Ordering) (ν : Type) where
  heap : PagedHeap order ν
  log : List (Exchange κ ν)

/-- Serve a request and log it. -/
def Session.serve (session : Session order ν) (request : Request κ ν) : Session order ν :=
  let (answer, heap) := session.heap.serve request
  ⟨heap, session.log ++ [⟨request, answer⟩]⟩

/-- Serve requests in order. -/
def Session.serveAll (session : Session order ν) (requests : List (Request κ ν)) :
    Session order ν :=
  requests.foldl Session.serve session

/-- The session of a new heap that serves requests in order. -/
def run (order : κ → κ → Ordering) (entryBytes initial : Nat) (requests : List (Request κ ν)) :
    Session order ν :=
  Session.serveAll ⟨create order ν entryBytes initial, []⟩ requests

/-- The exchanges after the last time that everything was cleared. -/
def sinceClear (log : List (Exchange κ ν)) : List (Exchange κ ν) :=
  log.rtakeWhile fun exchange => !exchange.request.isClear

/-- All entries that were put in, however often each. -/
def inserted (log : List (Exchange κ ν)) : Multiset (κ × ν) :=
  ↑(log.filterMap (·.request.entry?))

/-- All entries that were taken out, however often each. -/
def removed (log : List (Exchange κ ν)) : Multiset (κ × ν) :=
  ↑(log.filterMap (·.answer))

/-- All entries held, however often each. -/
def held (heap : PagedHeap order ν) : Multiset (κ × ν) :=
  ↑heap.toList

/-- An entry of some that has no key before its own. -/
def IsFirst (order : κ → κ → Ordering) (entries : Multiset (κ × ν)) (entry : κ × ν) : Prop :=
  entry ∈ entries ∧ ∀ other ∈ entries, (order entry.1 other.1).isLE

section Operations

variable {heap rest : PagedHeap order ν} {entry : κ × ν}

@[simp] theorem held_insert (heap : PagedHeap order ν) (key : κ) (value : ν) :
    (heap.insert key value).held = (key, value) ::ₘ heap.held :=
  Multiset.coe_eq_coe.mpr (toList_insert_perm heap key value)

@[simp] theorem held_clear (heap : PagedHeap order ν) : heap.clear.held = 0 :=
  rfl

theorem held_eq_zero_iff : heap.held = 0 ↔ ¬ 0 < heap.size := by
  rw [held, Multiset.coe_eq_zero, ← List.length_eq_zero_iff, length_toList, Nat.pos_iff_ne_zero,
    not_not]

theorem popMin?_eq_none_iff : heap.popMin? = none ↔ heap.held = 0 := by
  rw [held_eq_zero_iff, popMin?]
  split <;> simp [*]

/-- A removal that answers is one from a heap that holds something. -/
theorem exists_popMin_eq (popped : heap.popMin? = some (entry, rest)) :
    ∃ nonempty : 0 < heap.size, heap.popMin nonempty = (entry, rest) := by
  rw [popMin?] at popped
  split at popped
  · rename_i nonempty
    exact ⟨nonempty, Option.some.inj popped⟩
  · cases popped

/-- What is answered is what is taken out. -/
theorem held_of_popMin? (popped : heap.popMin? = some (entry, rest)) :
    heap.held = entry ::ₘ rest.held := by
  obtain ⟨nonempty, answered⟩ := exists_popMin_eq popped
  have taken := toList_popMin_perm heap nonempty
  rw [answered] at taken
  exact (Multiset.coe_eq_coe.mpr taken).symm

theorem peekMin?_eq (heap : PagedHeap order ν) : heap.peekMin? = heap.popMin?.map Prod.fst := by
  rw [peekMin?, popMin?]
  split
  · rename_i nonempty
    have root := popMin_eq_root heap nonempty
    rw [Option.map_some, root]
    exact Array.getElem?_eq_getElem nonempty
  · rename_i empty
    exact Array.getElem?_eq_none (Nat.le_of_not_lt empty)

namespace IsHeap

variable [Std.TransCmp order]

theorem of_popMin? (isHeap : heap.IsHeap) (popped : heap.popMin? = some (entry, rest)) :
    rest.IsHeap := by
  obtain ⟨nonempty, answered⟩ := exists_popMin_eq popped
  have kept := isHeap.popMin nonempty
  rwa [answered] at kept

/-- What is answered has no key before its own. -/
theorem isFirst (isHeap : heap.IsHeap) (popped : heap.popMin? = some (entry, rest)) :
    IsFirst order heap.held entry := by
  refine ⟨held_of_popMin? popped ▸ Multiset.mem_cons_self _ _, ?_⟩
  intro other member
  obtain ⟨nonempty, answered⟩ := exists_popMin_eq popped
  have first := isHeap.popMin_isLE nonempty (Multiset.mem_coe.mp member)
  rwa [answered] at first

/-- Whatever is asked, the order of the heap is kept. -/
theorem serve (isHeap : heap.IsHeap) (request : Request κ ν) :
    (heap.serve request).2.IsHeap := by
  cases request with
  | insert key value => exact isHeap.insert key value
  | popMin =>
    rw [PagedHeap.serve]
    split
    · exact isHeap
    · rename_i entry rest popped
      exact isHeap.of_popMin? popped
  | clear => exact fun _ _ => atMost_of_size_le (Nat.zero_le _)

end IsHeap

end Operations

namespace Session

variable {session : Session order ν}

/-- What is held is what was put in and not taken out since the last clearing. -/
def Balanced (session : Session order ν) : Prop :=
  inserted (sinceClear session.log) = removed (sinceClear session.log) + session.heap.held

/-- A request goes into the log with what it answers. -/
theorem log_serve (session : Session order ν) (request : Request κ ν) :
    (session.serve request).log =
      session.log ++ [⟨request, (session.heap.serve request).1⟩] :=
  rfl

theorem serve_of_popMin?_eq_none (popped : session.heap.popMin? = none) :
    session.serve .popMin = ⟨session.heap, session.log ++ [⟨.popMin, none⟩]⟩ := by
  simp [Session.serve, PagedHeap.serve, popped]

theorem serve_of_popMin?_eq_some {entry : κ × ν} {rest : PagedHeap order ν}
    (popped : session.heap.popMin? = some (entry, rest)) :
    session.serve .popMin = ⟨rest, session.log ++ [⟨.popMin, some entry⟩]⟩ := by
  simp [Session.serve, PagedHeap.serve, popped]

theorem sinceClear_append_singleton (log : List (Exchange κ ν)) (exchange : Exchange κ ν) :
    sinceClear (log ++ [exchange]) =
      if exchange.request.isClear then [] else sinceClear log ++ [exchange] := by
  rw [sinceClear, List.rtakeWhile_concat, sinceClear]
  cases exchange.request.isClear <;> rfl

theorem inserted_append (log later : List (Exchange κ ν)) :
    inserted (log ++ later) = inserted log + inserted later := by
  rw [inserted, List.filterMap_append, ← Multiset.coe_add]
  rfl

theorem removed_append (log later : List (Exchange κ ν)) :
    removed (log ++ later) = removed log + removed later := by
  rw [removed, List.filterMap_append, ← Multiset.coe_add]
  rfl

/-- An exchange that clears nothing keeps the balance when the heap gains what is put in and
loses what is taken out. -/
theorem Balanced.append {exchange : Exchange κ ν} {after : PagedHeap order ν}
    (balanced : session.Balanced) (keeps : exchange.request.isClear = false)
    (moved : inserted [exchange] + session.heap.held = removed [exchange] + after.held) :
    Balanced ⟨after, session.log ++ [exchange]⟩ := by
  have before : inserted (sinceClear session.log) =
      removed (sinceClear session.log) + session.heap.held := balanced
  rw [Balanced, sinceClear_append_singleton, keeps, if_neg Bool.false_ne_true, inserted_append,
    removed_append, before, Multiset.add_assoc, Multiset.add_comm session.heap.held, moved,
    Multiset.add_assoc]

/-- Every request puts in, takes out or clears just what the log says. -/
theorem Balanced.serve (balanced : session.Balanced) (request : Request κ ν) :
    (session.serve request).Balanced := by
  cases request with
  | insert key value =>
    apply balanced.append rfl
    show {(key, value)} + session.heap.held = 0 + (session.heap.insert key value).held
    rw [held_insert, Multiset.zero_add, Multiset.singleton_add]
  | popMin =>
    cases popped : session.heap.popMin? with
    | none =>
      rw [serve_of_popMin?_eq_none popped]
      exact balanced.append rfl rfl
    | some answer =>
      obtain ⟨entry, rest⟩ := answer
      rw [serve_of_popMin?_eq_some popped]
      apply balanced.append rfl
      show 0 + session.heap.held = {entry} + rest.held
      rw [held_of_popMin? popped, Multiset.zero_add, Multiset.singleton_add]
  | clear =>
    have forgotten : sinceClear (session.serve .clear).log = [] := by
      rw [log_serve, sinceClear_append_singleton]
      rfl
    rw [Balanced, forgotten]
    rfl

/-- The heap of a session is in order, and it holds what the log says it should. -/
structure Consistent (session : Session order ν) : Prop where
  isHeap : session.heap.IsHeap
  balanced : session.Balanced

theorem consistent_create (order : κ → κ → Ordering) (entryBytes initial : Nat) :
    Consistent (⟨create order ν entryBytes initial, []⟩ : Session order ν) where
  isHeap := isHeap_create entryBytes initial
  balanced := rfl

theorem Consistent.serveAll [Std.TransCmp order] (consistent : session.Consistent)
    (requests : List (Request κ ν)) : (session.serveAll requests).Consistent := by
  induction requests using List.reverseRecOn with
  | nil => exact consistent
  | append_singleton requests request recursion =>
    rw [Session.serveAll, List.foldl_append]
    exact ⟨recursion.isHeap.serve request, recursion.balanced.serve request⟩

/-- Taking out all that is held answers it in order, and then there is nothing to answer. -/
theorem exists_drained [Std.TransCmp order] (isHeap : session.heap.IsHeap) :
    ∃ (drained : List (κ × ν)) (rest : PagedHeap order ν),
      session.serveAll (List.replicate drained.length .popMin) =
        ⟨rest, session.log ++ drained.map fun entry => ⟨.popMin, some entry⟩⟩ ∧
      rest.popMin? = none ∧ ↑drained = session.heap.held ∧
      drained.Pairwise fun first second => (order first.1 second.1).isLE := by
  -- By the number of entries held, for any session: what comes after the first removal is
  -- a session of its own.
  induction counted : session.heap.held.card generalizing session with
  | zero =>
    have nothing := Multiset.card_eq_zero.mp counted
    have unchanged : session.serveAll [] = ⟨session.heap, session.log ++ []⟩ := by
      rw [List.append_nil]
      rfl
    exact ⟨[], session.heap, unchanged, popMin?_eq_none_iff.mpr nothing, nothing.symm, .nil⟩
  | succ count recursion =>
    cases popped : session.heap.popMin? with
    | none =>
      rw [popMin?_eq_none_iff.mp popped] at counted
      cases counted
    | some answer =>
      obtain ⟨entry, rest⟩ := answer
      have taken := held_of_popMin? popped
      have fewer : rest.held.card = count := by
        rw [taken, Multiset.card_cons] at counted
        exact Nat.succ.inj counted
      let next : Session order ν := ⟨rest, session.log ++ [⟨.popMin, some entry⟩]⟩
      have ordered : next.heap.IsHeap := isHeap.of_popMin? popped
      obtain ⟨later, last, served, none, all, sorted⟩ := recursion ordered fewer
      have first := (isHeap.isFirst popped).2
      refine ⟨entry :: later, last, ?_, none, ?_, List.pairwise_cons.mpr ⟨?_, sorted⟩⟩
      · rw [List.length_cons, List.replicate_succ, serveAll, List.foldl_cons,
          serve_of_popMin?_eq_some popped]
        refine served.trans ?_
        rw [List.map_cons, List.append_assoc]
        rfl
      · rw [taken, ← all]
        rfl
      · intro other member
        refine first other ?_
        rw [taken, ← all]
        exact Multiset.mem_cons_of_mem (Multiset.mem_coe.mpr member)

/-- The log tells all that was asked. -/
theorem requests_serveAll (session : Session order ν) (requests : List (Request κ ν)) :
    (session.serveAll requests).log.map (·.request) =
      session.log.map (·.request) ++ requests := by
  induction requests generalizing session with
  | nil => simp [serveAll]
  | cons request later recursion =>
    have next := recursion (session.serve request)
    rw [log_serve, List.map_append, List.append_assoc] at next
    exact next

end Session

/-- A heap is a priority queue, whatever is asked of it in any order. It holds the entries
that were put in and not taken out since it was last cleared. Looking at the first entry and
taking it out answer nothing just when nothing is held, and otherwise an entry with no key
before its own, which alone is taken out. So taking out all that is held answers it sorted. -/
theorem queue_of_run (order : κ → κ → Ordering) [Std.TransCmp order] (entryBytes initial : Nat)
    (requests : List (Request κ ν)) :
    let session := run order entryBytes initial requests
    let heap := session.heap
    session.log.map (·.request) = requests ∧
    inserted (sinceClear session.log) = removed (sinceClear session.log) + heap.held ∧
    (heap.peekMin? = none ↔ heap.held = 0) ∧
    (∀ entry, heap.peekMin? = some entry → IsFirst order heap.held entry) ∧
    (heap.popMin? = none ↔ heap.held = 0) ∧
    (∀ entry rest, heap.popMin? = some (entry, rest) →
      IsFirst order heap.held entry ∧ heap.held = entry ::ₘ rest.held) ∧
    ∃ (drained : List (κ × ν)) (rest : PagedHeap order ν),
      session.serveAll (List.replicate drained.length .popMin) =
        ⟨rest, session.log ++ drained.map fun entry => ⟨.popMin, some entry⟩⟩ ∧
      rest.popMin? = none ∧ ↑drained = heap.held ∧
      drained.Pairwise fun first second => (order first.1 second.1).isLE := by
  intro session heap
  have consistent : session.Consistent :=
    (Session.consistent_create order entryBytes initial).serveAll requests
  refine ⟨Session.requests_serveAll _ requests, consistent.balanced, ?_, ?_, popMin?_eq_none_iff,
    ?_, Session.exists_drained consistent.isHeap⟩
  · rw [peekMin?_eq, Option.map_eq_none_iff, popMin?_eq_none_iff]
  · intro entry seen
    rw [peekMin?_eq, Option.map_eq_some_iff] at seen
    obtain ⟨⟨_, rest⟩, popped, rfl⟩ := seen
    exact consistent.isHeap.isFirst popped
  · intro entry rest popped
    exact ⟨consistent.isHeap.isFirst popped, held_of_popMin? popped⟩

/-- Doubles from the largest to the smallest: a NaN of either sign, both zeros, one of them
twice, and an entry that was cleared before. -/
theorem queue_of_doubles :
    let order (first second : Binary64) := second.compare first
    let least : Binary64 := ⟨0xfff8000000000000⟩
    let most : Binary64 := ⟨0x7ff8000000000000⟩
    let below : Binary64 := ⟨0x8000000000000000⟩
    let requests : List (Request Binary64 Nat) :=
      [.insert most 0, .clear, .insert 0 1, .insert least 2, .insert below 3, .insert most 4,
        .insert 0 5]
    Std.TransCmp order ∧
      ∃ (drained : List (Binary64 × Nat)) (rest : PagedHeap order Nat),
        (run order 16 0 requests).serveAll (List.replicate drained.length .popMin) =
          ⟨rest, (run order 16 0 requests).log ++
            drained.map fun entry => ⟨.popMin, some entry⟩⟩ ∧
        ↑drained = ({(0, 1), (least, 2), (below, 3), (most, 4), (0, 5)} : Multiset _) ∧
        drained.Pairwise fun first second => (order first.1 second.1).isLE := by
  intro order least most below requests
  have total : Std.TransCmp order :=
    inferInstanceAs (Std.TransCmp fun first second => Binary64.compare second first)
  obtain ⟨-, balanced, -, -, -, -, drained, rest, served, -, all, sorted⟩ :=
    queue_of_run order 16 0 requests
  refine ⟨total, drained, rest, served, ?_, sorted⟩
  have log : inserted (sinceClear (run order 16 0 requests).log) =
      {(0, 1), (least, 2), (below, 3), (most, 4), (0, 5)} := rfl
  have taken : removed (sinceClear (run order 16 0 requests).log) = 0 := rfl
  rw [log, taken, Multiset.zero_add] at balanced
  rw [all, balanced]

end Telemetry.PagedHeap
