/-
# How the slots of a list are used again

A slot is filled, emptied, filled again and so on, and the list keeps the emptied ones on a
stack. So the slot that is filled next is the one that was emptied last of those that still wait,
and a new slot is made only when none is waiting. Every slot holds a node at that moment, which is
why there are never more slots than there have been nodes at one time.
-/

import Mathlib.Data.List.Perm.Basic
import Mathlib.Data.List.Range
import Mathlib.Order.Bounds.Basic
import Telemetry.Proofs.Quantile.Sequence

namespace Telemetry.Quantile.SampleList

/-- What happens to a slot: a node is put into it, or the node in it is removed. -/
inductive Move where
  | filled (slot : Slot)
  | emptied (slot : Slot)
deriving DecidableEq

/-- What undoes a move. -/
def Move.undo : Move → Move
  | filled slot => emptied slot
  | emptied slot => filled slot

/-- A move that was made and has not been undone since. -/
def Stands (history : List Move) (move : Move) : Prop :=
  ∃ later, move :: later <:+ history ∧ move.undo ∉ later

/-- The slot was emptied and has not been filled since, while every slot emptied after it has. -/
def LastToWait (history : List Move) (slot : Slot) : Prop :=
  ∃ earlier later, history = earlier ++ .emptied slot :: later ∧ .filled slot ∉ later ∧
    ∀ other, ¬ Stands later (.emptied other)

section History

variable {history earlier later : List Move} {move last : Move} {slot : Slot} {waiting : List Slot}

theorem not_stands_nil (move : Move) : ¬ Stands [] move :=
  fun ⟨_, made, _⟩ => List.cons_ne_nil _ _ (List.suffix_nil.mp made)

/-- Only the move that undoes it makes an end to a move that stands. -/
theorem stands_append_singleton :
    Stands (history ++ [last]) move ↔ last = move ∨ Stands history move ∧ last ≠ move.undo := by
  constructor
  · rintro ⟨later, made, kept⟩
    obtain none | ⟨front, split, before⟩ := List.suffix_concat_iff.mp made
    · cases none
    · cases front with
      | nil =>
        cases split
        exact .inl rfl
      | cons first front =>
        rw [List.cons_append, List.cons.injEq] at split
        obtain ⟨rfl, rfl⟩ := split
        rw [List.mem_append, List.mem_singleton, not_or] at kept
        exact .inr ⟨⟨front, before, kept.1⟩, Ne.symm kept.2⟩
  · rintro (rfl | ⟨⟨later, made, kept⟩, other⟩)
    · exact ⟨[], List.suffix_append .., List.not_mem_nil⟩
    · refine ⟨later ++ [last], List.suffix_concat_iff.mpr (.inr ⟨move :: later, rfl, made⟩), ?_⟩
      rw [List.mem_append, List.mem_singleton, not_or]
      exact ⟨kept, Ne.symm other⟩

theorem stands_singleton : Stands [last] move ↔ last = move := by
  rw [← List.nil_append [last], stands_append_singleton]
  exact or_iff_left fun ⟨stands, _⟩ => not_stands_nil move stands

/-- What stands in the end was made in one of two parts and stands in it. -/
theorem stands_of_append (stands : Stands (earlier ++ later) move) :
    Stands earlier move ∨ Stands later move := by
  induction later using List.reverseRecOn with
  | nil => exact .inl (List.append_nil earlier ▸ stands)
  | append_singleton later last recursion =>
    rw [← List.append_assoc, stands_append_singleton] at stands
    rw [stands_append_singleton]
    obtain same | ⟨before, other⟩ := stands
    · exact .inr (.inl same)
    · exact (recursion before).imp_right fun late => .inr ⟨late, other⟩

/-- A slot that was filled once is so still, unless it has been emptied and not been filled since. -/
theorem stands_of_filled_mem (member : .filled slot ∈ history) :
    Stands history (.filled slot) ∨ Stands history (.emptied slot) := by
  induction history using List.reverseRecOn with
  | nil => cases member
  | append_singleton history last recursion =>
    rw [stands_append_singleton, stands_append_singleton]
    by_cases filled : last = .filled slot
    · exact .inl (.inl filled)
    by_cases emptied : last = .emptied slot
    · exact .inr (.inl emptied)
    rw [List.mem_append, List.mem_singleton] at member
    have before := recursion (member.resolve_right (Ne.symm filled))
    exact before.imp (fun stands => .inr ⟨stands, emptied⟩) fun stands => .inr ⟨stands, filled⟩

/-- The slots that wait form a stack: between the emptying of one and that of the next above it,
or the end, only slots were emptied that have been filled again, and none of those that wait. -/
inductive Stacked : List Move → List Slot → Prop
  | nil {history : List Move} (reused : ∀ other, ¬ Stands history (.emptied other)) :
      Stacked history []
  | cons {earlier later : List Move} {slot : Slot} {waiting : List Slot}
      (below : Stacked earlier waiting) (reused : ∀ other, ¬ Stands later (.emptied other))
      (untouched : ∀ other ∈ slot :: waiting, .filled other ∉ later) :
      Stacked (earlier ++ .emptied slot :: later) (slot :: waiting)

/-- Moves that leave no slot to wait and fill none that does leave the stack as it is. -/
theorem Stacked.append (stacked : Stacked earlier waiting)
    (reused : ∀ other, ¬ Stands later (.emptied other))
    (untouched : ∀ other ∈ waiting, .filled other ∉ later) :
    Stacked (earlier ++ later) waiting := by
  cases stacked with
  | nil before => exact .nil fun other stands => (stands_of_append stands).elim (before _) (reused _)
  | cons below before kept =>
    rw [List.append_assoc, List.cons_append]
    refine .cons below (fun other stands => (stands_of_append stands).elim (before _) (reused _)) ?_
    intro other member
    rw [List.mem_append, not_or]
    exact ⟨kept other member, untouched other member⟩

/-- A slot that is emptied waits above all others. -/
theorem Stacked.push (stacked : Stacked history waiting) (slot : Slot) :
    Stacked (history ++ [.emptied slot]) (slot :: waiting) :=
  .cons stacked (fun _ => not_stands_nil _) fun _ _ => List.not_mem_nil

/-- If the slot on top is filled, the others wait on, and the moves above them leave none to wait. -/
theorem Stacked.pop (stacked : Stacked history (slot :: waiting)) (once : slot ∉ waiting) :
    Stacked (history ++ [.filled slot]) waiting := by
  cases stacked with
  | @cons earlier later _ _ below reused untouched =>
    rw [List.append_assoc]
    apply below.append
    -- from the emptying of the slot to its filling every emptied slot is filled again
    · intro other stands
      obtain same | ⟨before, different⟩ := stands_append_singleton.mp stands
      · cases same
      · rw [← List.singleton_append] at before
        rcases stands_of_append before with first | late
        · cases stands_singleton.mp first
          exact different rfl
        · exact reused other late
    · intro other member filled
      rw [List.cons_append, List.mem_cons, List.mem_append, List.mem_singleton] at filled
      rcases filled with same | late | same
      · cases same
      · exact untouched other (List.mem_cons_of_mem _ member) late
      · cases same
        exact once member

/-- If no slot waits, none does after one more is filled. -/
theorem Stacked.grow (stacked : Stacked history []) (slot : Slot) :
    Stacked (history ++ [.filled slot]) [] := by
  refine stacked.append (fun other stands => ?_) fun other member => absurd member List.not_mem_nil
  cases stands_singleton.mp stands

theorem Stacked.lastToWait (stacked : Stacked history (slot :: waiting)) :
    LastToWait history slot := by
  cases stacked with
  | cons below reused untouched => exact ⟨_, _, rfl, untouched slot List.mem_cons_self, reused⟩

theorem Stacked.not_stands (stacked : Stacked history []) (other : Slot) :
    ¬ Stands history (.emptied other) := by
  cases stacked with
  | nil reused => exact reused other

end History

/-- The move that a request has made by what it was answered, if it has made one. -/
def Request.move? : Request → Reply → Option Move
  | remove slot, _ => some (.emptied slot)
  | _, .placed slot => some (.filled slot)
  | _, _ => none

/-- The move that a request makes, if it makes one. -/
def move? (list : SampleList) (request : Request) : Option Move :=
  match list.perform request with
  | .ok (reply, _) => request.move? reply
  | .error _ => none

/-- The moves that requests make, one after another. -/
def moves (list : SampleList) : List Request → List Move
  | [] => []
  | request :: later => (list.move? request).toList ++ (list.after request).moves later

/-- The moves of a run, beginning without entries. -/
def history (requests : List Request) : List Move :=
  (∅ : SampleList).moves requests

/-- How many entries there were after each part of a run. -/
def census (requests : List Request) : Set Nat :=
  {count | ∃ earlier, earlier <+: requests ∧ (run earlier).entries.length = count}

/-- A request that brings a sample. -/
def Request.adds : Request → Bool
  | pushBack _ | insertBefore _ _ => true
  | remove _ | setWidth _ _ | look _ => false

/-- What a request can do to the slots: it fills the one that waits on top, or a new one if none
waits, or it lets one wait, or it leaves all of them alone. -/
inductive Turns (list : SampleList) : Option Move → SampleList → Prop
  | reuses {slot : Slot} {next : SampleList} (top : list.free = slot :: next.free)
      (size : next.slots.size = list.slots.size) : Turns list (some (.filled slot)) next
  | grows {next : SampleList} (none : list.free = []) (still : next.free = [])
      (size : next.slots.size = list.slots.size + 1) :
      Turns list (some (.filled list.slots.size)) next
  | empties {slot : Slot} {next : SampleList} (top : next.free = slot :: list.free)
      (size : next.slots.size = list.slots.size) : Turns list (some (.emptied slot)) next
  | keeps {next : SampleList} (free : next.free = list.free)
      (size : next.slots.size = list.slots.size) : Turns list none next

variable {list next : SampleList} {request : Request} {requests : List Request} {entries : List Entry}
  {made? : Option Move} {past : List Move}

theorem turns_place (list : SampleList) (node : Node) :
    list.Turns (some (.filled (list.place node).2)) (list.place node).1 := by
  unfold place
  split
  · rename_i slot free top
    exact .reuses top (Array.size_modify ..)
  · rename_i none
    exact .grows none none (Array.size_push ..)

/-- Linking is no matter of slots. -/
theorem Turns.link (turns : list.Turns made? next) (first? second? : Option Slot) :
    list.Turns made? (next.link first? second?) := by
  cases turns with
  | reuses top size => exact .reuses (by rwa [free_link]) (by rwa [size_slots_link])
  | grows none still size => exact .grows none (by rwa [free_link]) (by rwa [size_slots_link])
  | empties top size => exact .empties (by rwa [free_link]) (by rwa [size_slots_link])
  | keeps free size => exact .keeps (by rwa [free_link]) (by rwa [size_slots_link])

theorem turns_of_perform {reply : Reply} (performed : list.perform request = .ok (reply, next)) :
    list.Turns (request.move? reply) next := by
  cases request with
  | pushBack sample =>
    cases performed
    exact ((turns_place list _).link _ _).link _ _
  | insertBefore successor sample =>
    obtain ⟨answer, inserted, rest⟩ := exists_of_bind_eq_ok performed
    obtain ⟨node, found, linked⟩ := exists_of_bind_eq_ok inserted
    cases linked
    cases rest
    exact ((turns_place list _).link _ _).link _ _
  | remove slot =>
    obtain ⟨answer, removed, rest⟩ := exists_of_bind_eq_ok performed
    obtain ⟨node, found, unlinked⟩ := exists_of_bind_eq_ok removed
    cases unlinked
    cases rest
    exact (Turns.empties rfl (Array.size_modify ..)).link _ _
  | setWidth slot width =>
    obtain ⟨changed, widened, rest⟩ := exists_of_bind_eq_ok performed
    obtain ⟨node, found, adjusted⟩ := exists_of_bind_eq_ok widened
    cases adjusted
    cases rest
    exact .keeps rfl (Array.size_modify ..)
  | look slot =>
    obtain ⟨node, found, rest⟩ := exists_of_bind_eq_ok performed
    cases rest
    exact .keeps rfl rfl

theorem move?_of_perform {reply : Reply} (performed : list.perform request = .ok (reply, next)) :
    list.move? request = request.move? reply := by
  rw [move?, performed]

/-- A request that is refused leaves the slots alone, too. -/
theorem turns_after (list : SampleList) (request : Request) :
    list.Turns (list.move? request) (list.after request) := by
  rw [move?, after]
  cases performed : list.perform request with
  | error fault => exact .keeps rfl rfl
  | ok answer => exact turns_of_perform performed

/-- Every slot is in use or waits, and none does both. -/
theorem Represents.size_slots (represents : list.Represents entries) :
    list.slots.size = entries.length + list.free.length := by
  have owns := represents.owns
  have nodup : (slotsOf entries ++ list.free).Nodup := by
    refine List.nodup_append.mpr ⟨owns.nodup, owns.free_nodup, ?_⟩
    rintro slot used _ waits rfl
    exact ((owns.mem_free slot).mp waits).2 used
  have all : (slotsOf entries ++ list.free).Perm (List.range list.slots.size) := by
    refine (List.perm_ext_iff_of_nodup nodup List.nodup_range).mpr fun slot => ?_
    have inside := owns.inside slot
    rw [List.mem_append, owns.mem_free, List.mem_range]
    tauto
  rw [← List.length_range (n := list.slots.size), ← all.length_eq, List.length_append]
  exact congrArg (· + _) (List.length_map _)

/-- A new slot is made only when there are more entries than ever. -/
theorem Turns.size_eq (turns : list.Turns made? next) (represents : next.Represents entries) :
    next.slots.size = max entries.length list.slots.size := by
  have all := represents.size_slots
  cases turns with
  | grows none still size =>
    rw [still, List.length_nil] at all
    omega
  | reuses top size | empties top size | keeps free size => omega

/-- What a list remembers of its history: the emptied slots wait as a stack, and a slot that is
filled still does not wait. -/
structure Recalls (past : List Move) (list : SampleList) : Prop where
  stacked : Stacked past list.free
  inUse : ∀ slot, Stands past (.filled slot) → slot < list.slots.size ∧ slot ∉ list.free

theorem recalls_empty : Recalls [] ∅ where
  stacked := .nil fun _ => not_stands_nil _
  inUse _ stands := absurd stands (not_stands_nil _)

/-- Whatever a request does to the slots, the list remembers the move with all moves before. -/
theorem Recalls.turns (recalls : Recalls past list) (represents : list.Represents entries)
    (turns : list.Turns made? next) : Recalls (past ++ made?.toList) next := by
  have nodup := represents.owns.free_nodup
  have inside (slot : Slot) (waits : slot ∈ list.free) := ((represents.owns.mem_free slot).mp waits).1
  cases turns with
  | @reuses slot _ top size =>
    rw [top, List.nodup_cons] at nodup
    rw [top] at inside
    refine ⟨(top ▸ recalls.stacked).pop nodup.1, fun other stands => ?_⟩
    rw [size]
    obtain same | ⟨before, -⟩ := stands_append_singleton.mp stands
    · cases same
      exact ⟨inside slot List.mem_cons_self, nodup.1⟩
    · obtain ⟨below, used⟩ := recalls.inUse other before
      rw [top, List.mem_cons, not_or] at used
      exact ⟨below, used.2⟩
  | grows none still size =>
    refine ⟨still ▸ (none ▸ recalls.stacked).grow _, fun other stands => ?_⟩
    rw [still, size]
    refine ⟨?_, List.not_mem_nil⟩
    obtain same | ⟨before, -⟩ := stands_append_singleton.mp stands
    · cases same
      exact Nat.lt_succ_self _
    · exact Nat.lt_succ_of_lt (recalls.inUse other before).1
  | @empties slot _ top size =>
    refine ⟨top ▸ recalls.stacked.push slot, fun other stands => ?_⟩
    obtain same | ⟨before, different⟩ := stands_append_singleton.mp stands
    · cases same
    · obtain ⟨below, used⟩ := recalls.inUse other before
      rw [size, top, List.mem_cons, not_or]
      refine ⟨below, fun same => different ?_, used⟩
      rw [same]
      rfl
  | keeps free size =>
    rw [Option.toList_none, List.append_nil]
    refine ⟨free ▸ recalls.stacked, fun other stands => ?_⟩
    rw [size, free]
    exact recalls.inUse other stands

theorem moves_append_singleton (list : SampleList) (requests : List Request) (request : Request) :
    list.moves (requests ++ [request]) =
      list.moves requests ++ ((requests.foldl after list).move? request).toList := by
  induction requests generalizing list with
  | nil => exact List.append_nil _
  | cons first later recursion =>
    rw [List.cons_append, moves, moves, recursion, List.append_assoc]
    rfl

theorem recalls_run (requests : List Request) : (run requests).Recalls (history requests) := by
  induction requests using List.reverseRecOn with
  | nil => exact recalls_empty
  | append_singleton requests request recursion =>
    rw [run_append_singleton, history, moves_append_singleton]
    exact recursion.turns (represents_run requests) (turns_after _ request)

theorem census_append_singleton (requests : List Request) (request : Request) :
    census (requests ++ [request]) =
      insert (run (requests ++ [request])).entries.length (census requests) := by
  ext count
  constructor
  · rintro ⟨earlier, part, counted⟩
    obtain rfl | before := List.prefix_concat_iff.mp part
    · exact .inl counted.symm
    · exact .inr ⟨earlier, before, counted⟩
  · rintro (rfl | ⟨earlier, before, counted⟩)
    · exact ⟨_, List.prefix_rfl, rfl⟩
    · exact ⟨earlier, List.prefix_concat_iff.mpr (.inr before), counted⟩

theorem isGreatest_census (requests : List Request) :
    IsGreatest (census requests) (run requests).slots.size := by
  induction requests using List.reverseRecOn with
  | nil =>
    refine ⟨⟨[], List.prefix_rfl, rfl⟩, ?_⟩
    rintro count ⟨earlier, part, rfl⟩
    rw [List.prefix_nil.mp part]
    exact Nat.le_refl 0
  | append_singleton requests request recursion =>
    have turns := turns_after (run requests) request
    rw [← run_append_singleton] at turns
    rw [census_append_singleton, turns.size_eq (represents_run _)]
    exact recursion.insert _

/-- A sample that is to go to the end, or before a slot in use, gets a slot of its own. -/
theorem Represents.exists_placed (represents : list.Represents entries) (adds : request.adds)
    (inUse : ∀ slot, request.slot? = some slot → slot ∈ slotsOf entries) :
    ∃ slot changed, list.perform request = .ok (.placed slot, changed) := by
  obtain ⟨⟨reply, changed⟩, performed, entries', takes, -⟩ := represents.perform_of_mem inUse
  cases takes with
  | pushBack | insertBefore => exact ⟨_, _, performed⟩
  | remove | setWidth | look => cases adds

/-- Whatever was asked of a list, each of its slots is in use or free, and there are as many as
there have ever been entries at one time. The next sample that is added, at the end or before a
slot in use, gets the slot that waits and was emptied last, and a new one if none waits; a slot
that had an entry before is one that was emptied since. -/
theorem recycles_of_run (requests : List Request) :
    let list := run requests
    let past := history requests
    list.slots.size = list.entries.length + list.free.length ∧
    IsGreatest (census requests) list.slots.size ∧
    ∀ request : Request, request.adds →
      (∀ slot, request.slot? = some slot → slot ∈ slotsOf list.entries) →
      ∃ slot changed, list.perform request = .ok (.placed slot, changed) ∧
        (.filled slot ∈ past → Stands past (.emptied slot)) ∧
        (LastToWait past slot ∧ changed.slots.size = list.slots.size ∨
          (∀ other, ¬ Stands past (.emptied other)) ∧ slot = list.slots.size ∧
            changed.slots.size = list.slots.size + 1) := by
  intro list past
  have represents : list.Represents list.entries := represents_run requests
  have recalls : list.Recalls past := recalls_run requests
  refine ⟨represents.size_slots, isGreatest_census requests, fun request adds inUse => ?_⟩
  obtain ⟨slot, changed, performed⟩ := represents.exists_placed adds inUse
  have turns : list.Turns (some (.filled slot)) changed := by
    have turns := turns_of_perform performed
    cases request with
    | pushBack | insertBefore => exact turns
    | remove | setWidth | look => cases adds
  refine ⟨slot, changed, performed, ?_, ?_⟩
  · refine fun before => (stands_of_filled_mem before).resolve_left fun stands => ?_
    obtain ⟨below, used⟩ := recalls.inUse slot stands
    cases turns with
    | reuses top size => exact used (top ▸ List.mem_cons_self)
    | grows none still size => exact Nat.lt_irrefl _ below
  · have stacked := recalls.stacked
    cases turns with
    | reuses top size => exact .inl ⟨(top ▸ stacked).lastToWait, size⟩
    | grows none still size => exact .inr ⟨(none ▸ stacked).not_stands, rfl, size⟩

/-- Of three slots the first and the last are emptied, in this order. The last is filled first. -/
theorem recycles_of_two_removals :
    let sample : Sample := ⟨0, 1, 0⟩
    let requests : List Request := [.pushBack sample, .pushBack sample, .pushBack sample,
      .remove 0, .remove 2]
    let request : Request := .insertBefore 1 sample
    let list := run requests
    list.slots.size = 3 ∧ list.entries.length = 1 ∧ list.free.length = 2 ∧
    (request.adds ∧ ∀ slot, request.slot? = some slot → slot ∈ slotsOf list.entries) ∧
    ∃ changed, list.perform request = .ok (.placed 2, changed) ∧
      Stands (history requests) (.emptied 2) ∧ LastToWait (history requests) 2 ∧
      changed.slots.size = 3 := by
  intro sample requests request list
  obtain ⟨-, -, next⟩ := recycles_of_run requests
  have size : list.slots.size = 3 := by decide
  have inUse : ∀ slot, request.slot? = some slot → slot ∈ slotsOf list.entries := by
    rintro slot ⟨⟩
    decide
  obtain ⟨slot, changed, performed, again, turned⟩ := next request rfl inUse
  have last : slot = 2 := by
    have filled : list.move? request = some (.filled 2) := by decide
    exact Move.filled.inj (Option.some.inj ((move?_of_perform performed).symm.trans filled))
  subst last
  rcases turned with ⟨waited, same⟩ | ⟨-, new, -⟩
  · refine ⟨size, by decide, by decide, ⟨rfl, inUse⟩, changed, performed, again ?_, waited, ?_⟩
    · decide
    · exact same.trans size
  · rw [size] at new
    cases new

end Telemetry.Quantile.SampleList
