/-
# Checked runs

A summary relies on more than it looks at: that the neighbours of a node are there, that a
slot to be used again was made before, that no difference of counts is below zero. The
checked operations do the same, but look at each of these first, and answer nothing where
one of them fails. What they answer is what the summary answers, so a checked run that
answers shows that the run itself never relied on anything that did not hold.
-/

import Mathlib.Data.Nat.PSub
import Telemetry.Proofs.Quantile.Run

namespace Telemetry.Quantile

namespace SampleList

/-- A slot, if one is named, holds a node. -/
def present (list : SampleList) (slot? : Option Slot) : Bool :=
  slot?.all fun slot => (list.node? slot).isSome

/-- Put a node into a slot of its own; an emptied one has to be among those made. -/
def checkedPlace (list : SampleList) (node : Node) : Option (SampleList × Slot) :=
  if list.free.head?.all (· < list.slots.size) then some (list.place node) else none

/-- Let one node be followed by another; both are written to and have to be there. -/
def checkedLink (list : SampleList) (first? second? : Option Slot) : Option SampleList :=
  if list.present first? && list.present second? then some (list.link first? second?) else none

/-- Add a sample after the last one. -/
def checkedPushBack (list : SampleList) (sample : Sample) : Option SampleList := do
  let last? := list.tail
  let (list, slot) ← list.checkedPlace { sample with prev := last?, next := none }
  let list ← list.checkedLink last? (some slot)
  list.checkedLink (some slot) none

/-- Add a sample just before a node. -/
def checkedInsertBefore (list : SampleList) (successor : Slot) (sample : Sample) :
    Option SampleList := do
  let before? := (← list.node? successor).prev
  let (list, slot) ← list.checkedPlace { sample with prev := before?, next := some successor }
  let list ← list.checkedLink before? (some slot)
  list.checkedLink (some slot) (some successor)

/-- Remove a node. -/
def checkedRemove (list : SampleList) (slot : Slot) : Option SampleList := do
  let node ← list.node? slot
  let length ← list.length.psub 1
  let list := { list with
    slots := list.slots.modify slot fun _ => none
    free := slot :: list.free
    length := length }
  list.checkedLink node.prev node.next

section Agreement

variable {list : SampleList} {entries earlier later : List Entry} {entry : Entry} {slot : Slot}
  {node : Node} {first? second? : Option Slot}

theorem present_eq_true_iff :
    list.present first? ↔ ∀ slot, first? = some slot → ∃ node, list.node? slot = some node := by
  cases first? with
  | none => simp [present]
  | some slot => simp [present, Option.isSome_iff_exists]

theorem Represents.present_of_mem (represents : list.Represents entries)
    (inside : ∀ slot, first? = some slot → slot ∈ slotsOf entries) : list.present first? :=
  present_eq_true_iff.mpr fun slot named => represents.exists_node? (inside slot named)

/-- The nodes beside a node are there. -/
theorem Represents.present_beside (represents : list.Represents entries)
    (held : list.node? slot = some node) : list.present node.prev ∧ list.present node.next := by
  obtain ⟨earlier, sample, later, rfl⟩ := represents.exists_split held
  rw [represents.chain.node?] at held
  cases held
  constructor
  · apply represents.present_of_mem
    intro before last
    simp [mem_slotsOf_of_lastSlot last]
  · apply represents.present_of_mem
    intro after first
    simp [mem_slotsOf_of_firstSlot first]

@[simp] theorem present_link (list : SampleList) (first? second? slot? : Option Slot) :
    (list.link first? second?).present slot? = list.present slot? := by
  cases slot? with
  | none => rfl
  | some slot => simp [present, node?_link]

theorem Owns.present_place {owned : List Slot} (owns : list.Owns owned) (node : Node)
    (there : list.present first?) :
    (list.place node).1.present first? ∧ (list.place node).1.present (some (list.place node).2) := by
  constructor
  · rw [present_eq_true_iff] at there ⊢
    intro slot named
    rw [owns.node?_place]
    split
    · exact ⟨node, rfl⟩
    · exact there slot named
  · rw [present_eq_true_iff]
    rintro slot ⟨⟩
    rw [owns.node?_place, if_pos rfl]
    exact ⟨node, rfl⟩

/-- A slot that waits to be used again was made before. -/
theorem Owns.checkedPlace_eq {owned : List Slot} (owns : list.Owns owned) (node : Node) :
    list.checkedPlace node = some (list.place node) := by
  rw [checkedPlace, if_pos]
  cases isFree : list.free with
  | nil => rfl
  | cons slot free =>
    have waiting : slot ∈ list.free := isFree ▸ List.mem_cons_self
    simpa using ((owns.mem_free slot).mp waiting).1

theorem checkedLink_eq (first : list.present first?) (second : list.present second?) :
    list.checkedLink first? second? = some (list.link first? second?) := by
  rw [checkedLink, if_pos (by rw [first, second]; rfl)]

/-- A node in a slot of its own can be linked to a node before and a node after it, if there
are any. -/
theorem Owns.checkedLink_place {owned : List Slot} (owns : list.Owns owned) (node : Node)
    (before : list.present first?) (after : list.present second?) :
    ((list.place node).1.checkedLink first? (some (list.place node).2) >>= fun linked =>
        linked.checkedLink (some (list.place node).2) second?) =
      some (((list.place node).1.link first? (some (list.place node).2)).link
        (some (list.place node).2) second?) := by
  obtain ⟨placedBefore, placed⟩ := owns.present_place node before
  obtain ⟨placedAfter, -⟩ := owns.present_place node after
  rw [checkedLink_eq placedBefore placed, Option.bind_eq_bind, Option.bind_some,
    checkedLink_eq (by rwa [present_link]) (by rwa [present_link])]

theorem Represents.checkedPushBack_eq (represents : list.Represents entries) (sample : Sample) :
    list.checkedPushBack sample = some (list.pushBack sample).1 := by
  have tail : list.present list.tail := by
    rw [represents.tail]
    exact represents.present_of_mem fun slot last => mem_slotsOf_of_lastSlot last
  rw [checkedPushBack, represents.owns.checkedPlace_eq]
  exact represents.owns.checkedLink_place _ tail rfl

theorem toOption_node (list : SampleList) (slot : Slot) :
    (list.node slot).toOption = list.node? slot := by
  rw [SampleList.node, node?]
  cases list.slots[slot]? with
  | none => rfl
  | some held => cases held <;> rfl

theorem Represents.checkedInsertBefore_eq (represents : list.Represents entries)
    (successor : Slot) (sample : Sample) :
    list.checkedInsertBefore successor sample =
      (list.insertBefore successor sample).toOption.map (·.1) := by
  rw [checkedInsertBefore, ← toOption_node, SampleList.insertBefore]
  cases there : list.node successor with
  | error fault => rfl
  | ok node =>
    have held := node_eq_ok_iff.mp there
    have itself : list.present (some successor) :=
      represents.present_of_mem fun slot named => Option.some.inj named ▸ represents.mem_slotsOf held
    show (list.checkedPlace _ >>= _) = _
    rw [represents.owns.checkedPlace_eq]
    exact represents.owns.checkedLink_place _ (represents.present_beside held).1 itself

/-- Emptying a slot leaves the nodes of all others where they were. -/
theorem Represents.present_vacate (represents : list.Represents (earlier ++ entry :: later))
    (free : List Slot) (length : Nat) (slot? : Option Slot)
    (inside : ∀ slot, slot? = some slot → slot ∈ slotsOf (earlier ++ later)) :
    present { list with
      slots := list.slots.modify entry.1 fun _ => none
      free := free
      length := length } slot? := by
  rw [present_eq_true_iff]
  intro slot named
  have member := inside slot named
  have different : entry.1 ≠ slot := fun same =>
    (nodup_slotsOf_middle.mp represents.owns.nodup).1 (same ▸ member)
  have among : slot ∈ slotsOf (earlier ++ entry :: later) := by
    rw [slotsOf_append, List.mem_append] at member ⊢
    exact member.imp_right (List.mem_cons_of_mem _)
  obtain ⟨node, held⟩ := represents.exists_node? among
  exact ⟨node, by simpa [node?, Array.getElem?_modify, different] using held⟩

theorem Represents.checkedRemove_eq (represents : list.Represents entries) (slot : Slot) :
    list.checkedRemove slot = (list.remove slot).toOption.map (·.1) := by
  rw [checkedRemove, ← toOption_node, SampleList.remove]
  cases there : list.node slot with
  | error fault => rfl
  | ok node =>
    obtain ⟨earlier, sample, later, rfl⟩ := represents.exists_split (node_eq_ok_iff.mp there)
    rw [represents.node] at there
    cases there
    have positive : 1 ≤ list.length := by
      rw [represents.length_eq, List.length_append, List.length_cons]
      omega
    have before := represents.present_vacate (slot :: list.free) (list.length - 1)
      (lastSlot none earlier) fun slot last => by simp [mem_slotsOf_of_lastSlot last]
    have after := represents.present_vacate (slot :: list.free) (list.length - 1)
      (firstSlot none later) fun slot first => by simp [mem_slotsOf_of_firstSlot first]
    show (list.length.psub 1 >>= _) = _
    rw [Nat.psub_eq_sub positive]
    exact checkedLink_eq before after

/-- A list that a sample was put into is in order again. -/
theorem Represents.exists_of_insertBefore {changed : SampleList} {successor : Slot}
    {sample : Sample} (represents : list.Represents entries)
    (inserted : list.insertBefore successor sample = .ok (changed, slot)) :
    ∃ entries', changed.Represents entries' := by
  have answered := inserted
  rw [SampleList.insertBefore] at answered
  obtain ⟨node, there, -⟩ := exists_of_bind_eq_ok answered
  obtain ⟨earlier, held, later, rfl⟩ := represents.exists_split (node_eq_ok_iff.mp there)
  obtain ⟨longer, added, same, -, final⟩ := represents.insertBefore sample
  rw [same] at inserted
  cases inserted
  exact ⟨_, final⟩

/-- A list that a sample was widened in is in order still. -/
theorem Represents.exists_of_setWidth {changed : SampleList} {width : Nat}
    (represents : list.Represents entries) (widened : list.setWidth slot width = .ok changed) :
    ∃ entries', changed.Represents entries' := by
  have answered := widened
  rw [SampleList.setWidth] at answered
  obtain ⟨node, there, -⟩ := exists_of_bind_eq_ok answered
  obtain ⟨earlier, held, later, rfl⟩ := represents.exists_split (node_eq_ok_iff.mp there)
  obtain ⟨wider, same, final⟩ := represents.setWidth width
  rw [same] at widened
  cases widened
  exact ⟨_, final⟩

end Agreement

end SampleList

namespace Summary

/-- Add a sample of one value after the last one. -/
def checkedPushBack (summary : Summary) (value : Binary64) : Option Summary := do
  let samples ← summary.samples.checkedPushBack ⟨value, 1, 0⟩
  return { summary with samples := samples, count := summary.count + 1 }

/-- Add a sample of one value just before a node. -/
def checkedInsertBefore (summary : Summary) (successor : Slot) (delta : Nat) (value : Binary64) :
    Option Summary := do
  let samples ← summary.samples.checkedInsertBefore successor ⟨value, 1, delta⟩
  let summary := { summary with samples := samples, count := summary.count + 1 }
  match summary.compressCursor with
  | none => return summary
  | some sweep =>
    if ← (atOrBefore summary.samples successor sweep.slot).toOption then
      return { summary with
        compressCursor := some { sweep with rankBefore := sweep.rankBefore + 1 } }
    else return summary

/-- Sweep over a number of nodes, each of which has to be worth at least one rank. -/
def checkedAdvance : (steps : Nat) → Slot → Summary → Option Summary
  | 0, cursor, summary => return { summary with insertCursor := some cursor }
  | steps + 1, cursor, summary => do
    let node ← summary.samples.node? cursor
    let delta ← (node.width + node.delta).psub 1
    let (values, summary) ← (summary.takeDue fun value => value.compare node.value != .gt).answer?
    let summary ← values.foldlM
      (fun summary value => summary.checkedInsertBefore cursor delta value) summary
    match node.next with
    | some next => checkedAdvance steps next summary
    | none =>
      let (values, summary) ← (summary.takeDue fun _ => true).answer?
      let summary ← values.foldlM checkedPushBack summary
      summary.endPass.answer?

/-- One call of the insert sweep. -/
def checkedInsertStep (policy : Policy) (summary : Summary) : Option Summary :=
  match summary.insertCursor.or summary.samples.head with
  | some cursor => checkedAdvance (policy.steps summary.samples.length) cursor summary
  | none =>
    if nonempty : 0 < summary.ahead.size then
      let (least, rest) := summary.ahead.popMin nonempty
      { summary with ahead := rest }.checkedPushBack least.1
    else some summary

/-- Fold a node into its successor. -/
def checkedAbsorb (summary : Summary) (slot next : Slot) (width : Nat) : Option Summary := do
  let samples ← (summary.samples.setWidth next width).toOption
  let samples ← samples.checkedRemove slot
  let insertCursor :=
    if summary.insertCursor = some slot then some next else summary.insertCursor
  return { summary with samples := samples, insertCursor := insertCursor }

/-- Sweep back over a number of nodes; the rank kept has to cover each node passed. -/
def checkedRetreat (policy : Policy) : (steps : Nat) → Sweep → Summary → Option Summary
  | 0, sweep, summary => return { summary with compressCursor := some sweep }
  | steps + 1, sweep, summary => do
    let node ← summary.samples.node? sweep.slot
    match node.prev, node.next with
    | some prev, some next =>
      let successor ← summary.samples.node? next
      let band := node.width + successor.width + successor.delta
      let summary ←
        if policy.admits summary.count (sweep.rankBefore + band) band then
          summary.checkedAbsorb sweep.slot next (successor.width + node.width)
        else some summary
      let before ← summary.samples.node? prev
      let rankBefore ← sweep.rankBefore.psub before.width
      checkedRetreat policy steps ⟨prev, rankBefore⟩ summary
    | _, _ => return { summary with compressCursor := none }

/-- Where a compress sweep stands or starts; the count has to cover the last two samples. -/
def checkedSweepStart (summary : Summary) : Option (Option Sweep) := do
  match summary.compressCursor, summary.samples.tail with
  | some sweep, _ => return some sweep
  | none, none => return none
  | none, some tail =>
    let last ← summary.samples.node? tail
    match last.prev with
    | none => return none
    | some slot =>
      let node ← summary.samples.node? slot
      let rankBefore ← (← summary.count.psub last.width).psub node.width
      return some ⟨slot, rankBefore⟩

/-- One call of the compress sweep. -/
def checkedCompressStep (policy : Policy) (summary : Summary) : Option Summary := do
  if summary.samples.length < 3 then return summary
  match ← summary.checkedSweepStart with
  | none => return summary
  | some sweep => checkedRetreat policy (policy.steps summary.samples.length) sweep summary

/-- One call of both sweeps. -/
def checkedWork (policy : Policy) (summary : Summary) : Option Summary := do
  let summary ← summary.checkedInsertStep policy
  summary.checkedCompressStep policy

/-- Work until nothing is staged, `rounds` times at most. -/
def checkedSettle (policy : Policy) : (rounds : Nat) → Summary → Option Summary
  | 0, summary => some summary
  | rounds + 1, summary => do
    if summary.ahead.isEmpty && summary.behind.isEmpty then return summary
    let summary ← summary.startPass.answer?
    let summary ← summary.checkedWork policy
    checkedSettle policy rounds summary

/-- One call under a policy. -/
def checkedCall (summary : Summary) (step : Policy × Call) : Option Summary :=
  match step.2 with
  | .add value => do
    let summary ← (summary.stage value).answer?
    summary.checkedWork step.1
  | .flush => summary.checkedSettle step.1 summary.enoughRounds

/-- Calls in order, from the summary of no values. -/
def checkedRun (calls : List (Policy × Call)) : Option Summary :=
  calls.foldlM checkedCall empty

end Summary

end Telemetry.Quantile
