/-
# What a list of samples does when asked

Whatever was asked of a list, it stands for a plain sequence of entries: walking from the
head meets them in order, walking from the tail meets them in reverse, and every slot
that holds none of them waits to be used again. A request does to the list what it would
do to that sequence, so the slot of an entry stays its name for as long as the entry is
there; and a request that names a slot without an entry is refused.
-/

import Telemetry.Proofs.Answers
import Telemetry.Proofs.Quantile.Arena

namespace Telemetry.Quantile.SampleList

/-- What can be asked of a list. -/
inductive Request where
  | pushBack (sample : Sample)
  | insertBefore (successor : Slot) (sample : Sample)
  | remove (slot : Slot)
  | setWidth (slot : Slot) (width : Nat)
  | look (slot : Slot)

/-- The slot that a request names, if it names one. -/
def Request.slot? : Request → Option Slot
  | pushBack _ => none
  | insertBefore successor _ => some successor
  | remove slot | setWidth slot _ | look slot => some slot

/-- What a request is answered. -/
inductive Reply where
  /-- The slot of the entry that was added. -/
  | placed (slot : Slot)
  /-- The node that was asked for, as it is or was. -/
  | held (node : Node)
  | done

/-- Do what is asked. -/
def perform (list : SampleList) : Request → Except SlotFault (Reply × SampleList)
  | .pushBack sample =>
    let (changed, slot) := list.pushBack sample
    return (.placed slot, changed)
  | .insertBefore successor sample => do
    let (changed, slot) ← list.insertBefore successor sample
    return (.placed slot, changed)
  | .remove slot => do
    let (changed, node) ← list.remove slot
    return (.held node, changed)
  | .setWidth slot width => return (.done, ← list.setWidth slot width)
  | .look slot => return (.held (← list.node slot), list)

/-- What a request looks up before anything is written: the node in the slot that it names. -/
def lookUp (list : SampleList) (request : Request) : Except SlotFault (Option Node) :=
  match request.slot? with
  | some slot => some <$> list.node slot
  | none => .ok none

theorem lookUp_of_slot? (list : SampleList) {request : Request} {slot : Slot}
    (named : request.slot? = some slot) : list.lookUp request = some <$> list.node slot := by
  rw [lookUp, named]

/-- Whether a request is refused, and why, is decided by its look-up, so whatever is refused has
written nothing. -/
theorem map_perform (list : SampleList) (request : Request) :
    (list.perform request).map (fun _ => ()) = (list.lookUp request).map fun _ => () := by
  cases request with
  | pushBack sample => rfl
  | insertBefore successor sample =>
    rw [perform, SampleList.insertBefore, list.lookUp_of_slot? rfl]
    cases list.node successor <;> rfl
  | remove slot =>
    rw [perform, SampleList.remove, list.lookUp_of_slot? rfl]
    cases list.node slot <;> rfl
  | setWidth slot width =>
    rw [perform, SampleList.setWidth, list.lookUp_of_slot? rfl]
    cases list.node slot <;> rfl
  | look slot =>
    rw [perform, list.lookUp_of_slot? rfl]
    cases list.node slot <;> rfl

/-- The list after a request. One that is refused leaves it as it was. -/
def after (list : SampleList) (request : Request) : SampleList :=
  match list.perform request with
  | .ok (_, changed) => changed
  | .error _ => list

/-- The list after some requests, beginning without entries. -/
def run (requests : List Request) : SampleList :=
  requests.foldl after ∅

theorem run_append_singleton (requests : List Request) (request : Request) :
    run (requests ++ [request]) = (run requests).after request :=
  List.foldl_append

/-- What a request does to a plain sequence of entries, and what it is answered. Only the slot
of an added entry is left open, and that is none of those in use. -/
inductive Takes : List Entry → Request → Reply → List Entry → Prop
  | pushBack {entries : List Entry} {slot : Slot} (sample : Sample)
      (fresh : slot ∉ slotsOf entries) :
      Takes entries (.pushBack sample) (.placed slot) (entries ++ [(slot, sample)])
  | insertBefore {earlier later : List Entry} {entry : Entry} {slot : Slot} (sample : Sample)
      (fresh : slot ∉ slotsOf (earlier ++ entry :: later)) :
      Takes (earlier ++ entry :: later) (.insertBefore entry.1 sample) (.placed slot)
        (earlier ++ (slot, sample) :: entry :: later)
  | remove {earlier later : List Entry} {entry : Entry} :
      Takes (earlier ++ entry :: later) (.remove entry.1)
        (.held ⟨entry.2, lastSlot none earlier, firstSlot none later⟩) (earlier ++ later)
  | setWidth {earlier later : List Entry} {entry : Entry} (width : Nat) :
      Takes (earlier ++ entry :: later) (.setWidth entry.1 width) .done
        (earlier ++ (entry.1, { entry.2 with width := width }) :: later)
  | look {earlier later : List Entry} {entry : Entry} :
      Takes (earlier ++ entry :: later) (.look entry.1)
        (.held ⟨entry.2, lastSlot none earlier, firstSlot none later⟩)
        (earlier ++ entry :: later)

/-- Turning from node to node, beginning at a slot and for as long as there is a next one,
meets these entries. Nothing bounds the walk. -/
inductive Visits (list : SampleList) (turn : Node → Option Slot) :
    Option Slot → List Entry → Prop
  | done : list.Visits turn none []
  | visit {slot : Slot} {node : Node} {later : List Entry} (held : list.node? slot = some node)
      (onward : list.Visits turn (turn node) later) :
      list.Visits turn (some slot) ((slot, node.toSample) :: later)

variable {list : SampleList} {entries : List Entry} {before? after? : Option Slot} {slot : Slot}

theorem Chain.visits_next (chain : list.Chain before? entries none) :
    list.Visits (·.next) (firstSlot none entries) entries := by
  induction entries generalizing before? with
  | nil => exact .done
  | cons entry later recursion =>
    obtain ⟨held, rest⟩ := chain
    exact .visit held (recursion rest)

/-- Backwards the induction is on the last entry, behind which the chain may go on. -/
theorem Chain.visits_prev (chain : list.Chain none entries after?) :
    list.Visits (·.prev) (lastSlot none entries) entries.reverse := by
  induction entries using List.reverseRecOn generalizing after? with
  | nil => exact .done
  | append_singleton earlier entry recursion =>
    obtain ⟨front, held, -⟩ := chain_append.mp chain
    rw [lastSlot_append, List.reverse_append]
    exact .visit held (recursion front)

/-- A slot that is not in use is refused: as emptied while it waits, and as unknown if it was
never made. -/
theorem Represents.node_of_not_mem (represents : list.Represents entries)
    (absent : slot ∉ slotsOf entries) :
    list.node slot = .error (if slot ∈ list.free then .emptied slot else .unknown slot) := by
  have vacant := represents.owns.vacant slot absent
  have waiting := represents.owns.mem_free slot
  rw [SampleList.node]
  rw [node?] at vacant
  cases there : list.slots[slot]? with
  | none =>
    have outside : ¬ slot < list.slots.size := by simpa using there
    rw [if_neg fun member => outside (waiting.mp member).1]
  | some held =>
    obtain ⟨inside, -⟩ := Array.getElem?_eq_some_iff.mp there
    rw [there] at vacant
    obtain rfl : held = none := vacant
    rw [if_pos (waiting.mpr ⟨inside, absent⟩)]

/-- A request that names a slot not in use is refused by its look-up, and so changes nothing. -/
theorem Represents.perform_of_not_mem (represents : list.Represents entries) {request : Request}
    (named : request.slot? = some slot) (absent : slot ∉ slotsOf entries) :
    let fault : SlotFault := if slot ∈ list.free then .emptied slot else .unknown slot
    list.lookUp request = .error fault ∧ list.perform request = .error fault := by
  intro fault
  have looked : list.lookUp request = .error fault := by
    rw [list.lookUp_of_slot? named, represents.node_of_not_mem absent]
    rfl
  have failed := list.map_perform request
  rw [looked] at failed
  exact ⟨looked, eq_error_of_map failed⟩

/-- A request that names no slot, or one in use, does to the list what it does to the sequence
that the list represents. -/
theorem Represents.perform_of_mem (represents : list.Represents entries) {request : Request}
    (inUse : ∀ slot, request.slot? = some slot → slot ∈ slotsOf entries) :
    Answers (list.perform request) fun (reply, changed) =>
      ∃ entries', Takes entries request reply entries' ∧ changed.Represents entries' := by
  cases request with
  | pushBack sample =>
    obtain ⟨changed, slot, added, fresh, represents'⟩ := represents.pushBack sample
    refine ⟨(.placed slot, changed), ?_, _, .pushBack sample fresh, represents'⟩
    rw [perform, added]
    rfl
  | insertBefore successor sample =>
    obtain ⟨earlier, held, later, rfl⟩ := exists_split_of_mem_slotsOf (inUse successor rfl)
    obtain ⟨changed, slot, added, fresh, represents'⟩ := represents.insertBefore sample
    refine ⟨(.placed slot, changed), ?_, _, .insertBefore sample fresh, represents'⟩
    rw [perform, added]
    rfl
  | remove slot =>
    obtain ⟨earlier, held, later, rfl⟩ := exists_split_of_mem_slotsOf (inUse slot rfl)
    obtain ⟨changed, node, removed, -, represents'⟩ := represents.remove
    have asked : node = ⟨held, lastSlot none earlier, firstSlot none later⟩ := by
      have there := represents.node
      rw [SampleList.remove, there] at removed
      cases removed
      rfl
    refine ⟨(.held node, changed), ?_, _, asked ▸ .remove, represents'⟩
    rw [perform, removed]
    rfl
  | setWidth slot width =>
    obtain ⟨earlier, held, later, rfl⟩ := exists_split_of_mem_slotsOf (inUse slot rfl)
    obtain ⟨changed, widened, represents'⟩ := represents.setWidth width
    refine ⟨(.done, changed), ?_, _, .setWidth width, represents'⟩
    rw [perform, widened]
    rfl
  | look slot =>
    obtain ⟨earlier, held, later, rfl⟩ := exists_split_of_mem_slotsOf (inUse slot rfl)
    refine ⟨(.held _, list), ?_, _, .look, represents⟩
    rw [perform, represents.node]
    rfl

/-- A list that represents a sequence does so after every request. -/
theorem Represents.exists_after (represents : list.Represents entries) (request : Request) :
    ∃ entries', (list.after request).Represents entries' := by
  by_cases inUse : ∀ slot, request.slot? = some slot → slot ∈ slotsOf entries
  · obtain ⟨⟨reply, changed⟩, performed, entries', -, represents'⟩ :=
      represents.perform_of_mem inUse
    rw [after, performed]
    exact ⟨entries', represents'⟩
  · push Not at inUse
    obtain ⟨slot, named, absent⟩ := inUse
    rw [after, (represents.perform_of_not_mem named absent).2]
    exact ⟨entries, represents⟩

/-- Whatever was asked of a list, it represents the sequence that a walk from its head meets. -/
theorem represents_run (requests : List Request) :
    (run requests).Represents (run requests).entries := by
  have represented : ∃ entries, (run requests).Represents entries := by
    induction requests using List.reverseRecOn with
    | nil => exact ⟨[], represents_empty⟩
    | append_singleton requests request recursion =>
      obtain ⟨entries, represents⟩ := recursion
      rw [run_append_singleton]
      exact represents.exists_after request
  obtain ⟨entries, represents⟩ := represented
  rwa [represents.entries_eq]

/-- Whatever was asked of a list, both walks meet the same entries in opposite orders, as many
as the list says, and all other slots that were ever made wait to be used again, each once. The
next request does to these entries exactly what it says, if it names no slot or one of theirs;
otherwise its look-up fails, nothing is written, and the whole list is left as it was. -/
theorem sequence_of_run (requests : List Request) :
    let list := run requests
    let entries := list.entries
    list.Visits (·.next) list.head entries ∧ list.Visits (·.prev) list.tail entries.reverse ∧
    entries.length = list.length ∧ (slotsOf entries).Nodup ∧
    (list.head = none ↔ entries = []) ∧ (list.tail = none ↔ entries = []) ∧
    (∀ slot, slot ∈ slotsOf entries ↔ ∃ node, list.node? slot = some node) ∧
    list.free.Nodup ∧
    (∀ slot, slot ∈ list.free ↔ slot < list.slots.size ∧ list.node? slot = none) ∧
    ∀ request,
      ((∀ slot, request.slot? = some slot → slot ∈ slotsOf entries) →
        ∃ reply changed, list.perform request = .ok (reply, changed) ∧
          run (requests ++ [request]) = changed ∧
          Takes entries request reply changed.entries) ∧
      ∀ slot, request.slot? = some slot → slot ∉ slotsOf entries →
        let fault : SlotFault := if slot ∈ list.free then .emptied slot else .unknown slot
        list.lookUp request = .error fault ∧ list.perform request = .error fault ∧
          run (requests ++ [request]) = list := by
  intro list entries
  have represents : list.Represents entries := represents_run requests
  have mem (slot : Slot) : slot ∈ slotsOf entries ↔ ∃ node, list.node? slot = some node :=
    ⟨represents.exists_node?, fun ⟨_, held⟩ => represents.mem_slotsOf held⟩
  have next (request : Request) : run (requests ++ [request]) = list.after request := by
    rw [run, List.foldl_append]
    rfl
  refine ⟨represents.head ▸ represents.chain.visits_next,
    represents.tail ▸ represents.chain.visits_prev, represents.length_eq.symm,
    represents.owns.nodup, ?_, ?_, mem, represents.owns.free_nodup, ?_, ?_⟩
  · rw [represents.head, firstSlot_eq_none_iff]
  · rw [represents.tail, lastSlot_eq_none_iff]
  · intro slot
    rw [represents.owns.mem_free, mem, ← Option.ne_none_iff_exists', not_not]
  · intro request
    constructor
    · intro inUse
      obtain ⟨⟨reply, changed⟩, performed, entries', takes, represents'⟩ :=
        represents.perform_of_mem inUse
      refine ⟨reply, changed, performed, ?_, represents'.entries_eq ▸ takes⟩
      rw [next, after, performed]
    · intro slot named absent
      obtain ⟨looked, refused⟩ := represents.perform_of_not_mem named absent
      refine ⟨looked, refused, ?_⟩
      rw [next, after, refused]

end Telemetry.Quantile.SampleList
