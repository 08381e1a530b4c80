/-
# Linked nodes as a sequence

The nodes of a list are read as a sequence of entries, each a sample with the slot of its
node. A chain says that the nodes of some consecutive entries stand in their slots and
point at one another; its two ends are open, so a list can be cut at any entry, changed
there and put together again. Relinking two chains is the one fact behind every change
of the list.
-/

import Mathlib.Data.List.Induction
import Telemetry.Quantile.SampleList

namespace Telemetry.Quantile

/-- A sample and the slot of its node. -/
abbrev Entry := Slot × Sample

/-- The slots of some entries. -/
def slotsOf (entries : List Entry) : List Slot :=
  entries.map Prod.fst

/-- The samples of some entries. -/
def samplesOf (entries : List Entry) : List Sample :=
  entries.map Prod.snd

@[simp] theorem slotsOf_nil : slotsOf [] = [] :=
  rfl

@[simp] theorem slotsOf_cons (entry : Entry) (later : List Entry) :
    slotsOf (entry :: later) = entry.1 :: slotsOf later :=
  rfl

@[simp] theorem slotsOf_append (earlier later : List Entry) :
    slotsOf (earlier ++ later) = slotsOf earlier ++ slotsOf later :=
  List.map_append

@[simp] theorem samplesOf_nil : samplesOf [] = [] :=
  rfl

@[simp] theorem samplesOf_cons (entry : Entry) (later : List Entry) :
    samplesOf (entry :: later) = entry.2 :: samplesOf later :=
  rfl

@[simp] theorem samplesOf_append (earlier later : List Entry) :
    samplesOf (earlier ++ later) = samplesOf earlier ++ samplesOf later :=
  List.map_append

theorem exists_split_of_mem_slotsOf {entries : List Entry} {slot : Slot}
    (member : slot ∈ slotsOf entries) :
    ∃ earlier sample later, entries = earlier ++ (slot, sample) :: later := by
  obtain ⟨entry, among, rfl⟩ := List.mem_map.mp member
  obtain ⟨earlier, later, split⟩ := List.append_of_mem among
  exact ⟨earlier, entry.2, later, split⟩

theorem forall_mem_samplesOf_append_singleton {holds : Sample → Prop} {entries : List Entry}
    {entry : Entry} : (∀ sample ∈ samplesOf (entries ++ [entry]), holds sample) ↔
      (∀ sample ∈ samplesOf entries, holds sample) ∧ holds entry.2 := by
  rw [samplesOf_append, List.forall_mem_append, samplesOf_cons, samplesOf_nil,
    List.forall_mem_singleton]

/-- The slot that a walk from the front meets first, `after?` lying behind the entries. -/
def firstSlot (after? : Option Slot) : List Entry → Option Slot
  | [] => after?
  | entry :: _ => some entry.1

/-- The slot that a walk from the back meets first, `before?` lying before the entries. -/
def lastSlot (before? : Option Slot) : List Entry → Option Slot
  | [] => before?
  | entry :: later => lastSlot (some entry.1) later

@[simp] theorem firstSlot_nil (after? : Option Slot) : firstSlot after? [] = after? :=
  rfl

@[simp] theorem firstSlot_cons (after? : Option Slot) (entry : Entry) (later : List Entry) :
    firstSlot after? (entry :: later) = some entry.1 :=
  rfl

@[simp] theorem lastSlot_nil (before? : Option Slot) : lastSlot before? [] = before? :=
  rfl

@[simp] theorem lastSlot_cons (before? : Option Slot) (entry : Entry) (later : List Entry) :
    lastSlot before? (entry :: later) = lastSlot (some entry.1) later :=
  rfl

@[simp] theorem firstSlot_append (after? : Option Slot) (earlier later : List Entry) :
    firstSlot after? (earlier ++ later) = firstSlot (firstSlot after? later) earlier := by
  cases earlier <;> rfl

@[simp] theorem lastSlot_append (before? : Option Slot) (earlier later : List Entry) :
    lastSlot before? (earlier ++ later) = lastSlot (lastSlot before? earlier) later := by
  induction earlier generalizing before? with
  | nil => rfl
  | cons entry earlier recursion => exact recursion _

theorem firstSlot_append_of_ne_nil {earlier : List Entry} (nonempty : earlier ≠ [])
    (later : List Entry) : firstSlot none (earlier ++ later) = firstSlot none earlier := by
  cases earlier with
  | nil => exact absurd rfl nonempty
  | cons => rfl

theorem lastSlot_eq_of_ne_nil {entries : List Entry} (nonempty : entries ≠ [])
    (before? : Option Slot) : lastSlot before? entries = lastSlot none entries := by
  cases entries with
  | nil => exact absurd rfl nonempty
  | cons => rfl

theorem lastSlot_eq_none_iff {entries : List Entry} :
    lastSlot none entries = none ↔ entries = [] := by
  cases entries using List.reverseRecOn with
  | nil => simp
  | append_singleton => simp

theorem firstSlot_eq_none_iff {entries : List Entry} :
    firstSlot none entries = none ↔ entries = [] := by
  cases entries <;> simp

theorem mem_slotsOf_of_firstSlot {entries : List Entry} {slot : Slot}
    (first : firstSlot none entries = some slot) : slot ∈ slotsOf entries := by
  cases entries with
  | nil => cases first
  | cons entry later =>
    cases first
    exact List.mem_cons_self

theorem mem_slotsOf_of_lastSlot {entries : List Entry} {slot : Slot}
    (last : lastSlot none entries = some slot) : slot ∈ slotsOf entries := by
  induction entries using List.reverseRecOn with
  | nil => cases last
  | append_singleton earlier entry =>
    rw [lastSlot_append] at last
    cases last
    simp

/-- Where no slot occurs twice, the entries before one are those with other slots. -/
theorem takeWhile_ne_slot {earlier later : List Entry} {entry : Entry}
    (nodup : (slotsOf (earlier ++ entry :: later)).Nodup) :
    (earlier ++ entry :: later).takeWhile (·.1 ≠ entry.1) = earlier := by
  rw [slotsOf_append, List.nodup_append] at nodup
  have others : ∀ other ∈ earlier, decide (other.1 ≠ entry.1) = true := by
    intro other member
    exact decide_eq_true (nodup.2.2 other.1 (List.mem_map_of_mem member) entry.1 (by simp))
  rw [List.takeWhile_append_of_pos others]
  simp

namespace SampleList

/-- The nodes of the entries stand in their slots, each between its neighbours. The first
comes after `before?` and the last before `after?`. -/
def Chain (list : SampleList) : Option Slot → List Entry → Option Slot → Prop
  | _, [], _ => True
  | before?, (slot, sample) :: later, after? =>
    list.node? slot = some ⟨sample, before?, firstSlot after? later⟩ ∧
      list.Chain (some slot) later after?

variable {list changed : SampleList} {before? after? : Option Slot} {earlier later : List Entry}

theorem chain_append :
    list.Chain before? (earlier ++ later) after? ↔
      list.Chain before? earlier (firstSlot after? later) ∧
        list.Chain (lastSlot before? earlier) later after? := by
  induction earlier generalizing before? with
  | nil => simp [Chain, lastSlot]
  | cons entry earlier recursion =>
    simp only [List.cons_append, Chain, firstSlot_append, recursion, lastSlot, and_assoc]

/-- A chain depends on the nodes of its own slots only. -/
theorem Chain.congr {entries : List Entry} (chain : list.Chain before? entries after?)
    (same : ∀ slot ∈ slotsOf entries, changed.node? slot = list.node? slot) :
    changed.Chain before? entries after? := by
  induction entries generalizing before? with
  | nil => trivial
  | cons entry later recursion =>
    obtain ⟨node, rest⟩ := chain
    refine ⟨?_, recursion rest fun slot member => same slot (List.mem_cons_of_mem _ member)⟩
    rw [same entry.1 List.mem_cons_self, node]

theorem Chain.node? {entry : Entry}
    (chain : list.Chain before? (earlier ++ entry :: later) after?) :
    list.node? entry.1 =
      some ⟨entry.2, lastSlot before? earlier, firstSlot after? later⟩ :=
  (chain_append.mp chain).2.1

theorem node?_adjust (list : SampleList) (slot other : Slot) (change : Node → Node) :
    (list.adjust slot change).node? other =
      (list.node? other).map fun node => if slot = other then change node else node := by
  simp only [node?, adjust, Array.getElem?_modify]
  by_cases same : slot = other
  · simp only [same, if_true]
    cases list.slots[other]? with
    | none => rfl
    | some held => rfl
  · simp [same]

theorem node?_adjust_of_ne {slot other : Slot} {change : Node → Node} (different : slot ≠ other) :
    (list.adjust slot change).node? other = list.node? other := by
  simp [node?_adjust, different, Option.map_id']

@[simp] theorem head_adjust (list : SampleList) (slot : Slot) (change : Node → Node) :
    (list.adjust slot change).head = list.head :=
  rfl

@[simp] theorem tail_adjust (list : SampleList) (slot : Slot) (change : Node → Node) :
    (list.adjust slot change).tail = list.tail :=
  rfl

@[simp] theorem node?_setHead (list : SampleList) (head? : Option Slot) (slot : Slot) :
    node? { list with head := head? } slot = list.node? slot :=
  rfl

@[simp] theorem node?_setTail (list : SampleList) (tail? : Option Slot) (slot : Slot) :
    node? { list with tail := tail? } slot = list.node? slot :=
  rfl

/-- Linking changes one pointer of each of the two nodes and nothing else. -/
theorem node?_link (list : SampleList) (first? second? : Option Slot) (slot : Slot) :
    (list.link first? second?).node? slot = (list.node? slot).map fun node =>
      { node with
        prev := if second? = some slot then first? else node.prev
        next := if first? = some slot then second? else node.next } := by
  cases first? with
  | none =>
    cases second? with
    | none =>
      simp only [link, reduceCtorEq, if_false, Option.map_id']
      rfl
    | some second =>
      simp only [link, node?_adjust, node?_setHead, Option.some.injEq, reduceCtorEq, if_false]
      apply congrFun
      apply congrArg
      funext node
      split <;> rfl
  | some first =>
    cases second? with
    | none =>
      simp only [link, node?_adjust, node?_setTail, Option.some.injEq, reduceCtorEq, if_false]
      apply congrFun
      apply congrArg
      funext node
      split <;> rfl
    | some second =>
      simp only [link, node?_adjust, Option.map_map, Option.some.injEq]
      apply congrFun
      apply congrArg
      funext node
      simp only [Function.comp_apply]
      split <;> split <;> rfl

/-- A node that is at neither side of a link stays as it is. -/
theorem node?_link_of_ne {first? second? : Option Slot} {slot : Slot}
    (notFirst : first? ≠ some slot) (notSecond : second? ≠ some slot) :
    (list.link first? second?).node? slot = list.node? slot := by
  simp [node?_link, notFirst, notSecond, Option.map_id']

theorem head_link (list : SampleList) (first? second? : Option Slot) :
    (list.link first? second?).head = if first? = none then second? else list.head := by
  cases first? <;> cases second? <;> rfl

theorem tail_link (list : SampleList) (first? second? : Option Slot) :
    (list.link first? second?).tail = if second? = none then first? else list.tail := by
  cases first? <;> cases second? <;> rfl

@[simp] theorem free_link (list : SampleList) (first? second? : Option Slot) :
    (list.link first? second?).free = list.free := by
  cases first? <;> cases second? <;> rfl

@[simp] theorem length_link (list : SampleList) (first? second? : Option Slot) :
    (list.link first? second?).length = list.length := by
  cases first? <;> cases second? <;> rfl

@[simp] theorem size_slots_link (list : SampleList) (first? second? : Option Slot) :
    (list.link first? second?).slots.size = list.slots.size := by
  cases first? <;> cases second? <;> simp [link, adjust]

/-- Linking the end of one chain to the start of another makes them one chain. -/
theorem Chain.link {loose? other? : Option Slot} (front : list.Chain none earlier loose?)
    (back : list.Chain other? later after?) (nodup : (slotsOf (earlier ++ later)).Nodup)
    (closed : later = [] → after? = none) :
    (list.link (lastSlot none earlier) (firstSlot none later)).Chain none
      (earlier ++ later) after? := by
  rw [slotsOf_append, List.nodup_append] at nodup
  obtain ⟨frontNodup, backNodup, disjoint⟩ := nodup
  have notSecond {slot : Slot} (member : slot ∈ slotsOf earlier) :
      firstSlot none later ≠ some slot := fun first =>
    disjoint slot member slot (mem_slotsOf_of_firstSlot first) rfl
  have notFirst {slot : Slot} (member : slot ∈ slotsOf later) :
      lastSlot none earlier ≠ some slot := fun last =>
    disjoint slot (mem_slotsOf_of_lastSlot last) slot member rfl
  refine chain_append.mpr ⟨?_, ?_⟩
  · cases earlier using List.reverseRecOn with
    | nil => trivial
    | append_singleton earlier entry =>
      obtain ⟨init, node, -⟩ := chain_append.mp front
      have final : lastSlot none (earlier ++ [entry]) = some entry.1 := lastSlot_append ..
      rw [slotsOf_append, List.nodup_append] at frontNodup
      refine chain_append.mpr ⟨init.congr fun slot member => ?_, ?_, trivial⟩
      · have other : some entry.1 ≠ some slot := fun same =>
          frontNodup.2.2 slot member entry.1 (by simp) (Option.some.inj same).symm
        exact node?_link_of_ne (final ▸ other) (notSecond (by simp [member]))
      · have target : firstSlot none later = firstSlot after? later := by
          cases later with
          | nil => exact (closed rfl).symm
          | cons => rfl
        have unreached : firstSlot none later ≠ some entry.1 := notSecond (by simp)
        rw [node?_link, node, final]
        simp [← target, unreached]
  · cases later with
    | nil => trivial
    | cons entry later =>
      obtain ⟨node, rest⟩ := back
      rw [slotsOf_cons, List.nodup_cons] at backNodup
      refine ⟨?_, rest.congr fun slot member => ?_⟩
      · have unreached : lastSlot none earlier ≠ some entry.1 := notFirst (by simp)
        rw [node?_link, node]
        simp [unreached]
      · have other : some entry.1 ≠ some slot := fun same =>
          backNodup.1 ((Option.some.inj same).symm ▸ member)
        exact node?_link_of_ne (notFirst (by simp [member])) other

theorem head_link_eq (head : earlier ≠ [] → list.head = firstSlot none earlier) :
    (list.link (lastSlot none earlier) (firstSlot none later)).head =
      firstSlot none (earlier ++ later) := by
  rw [head_link]
  by_cases empty : earlier = []
  · rw [if_pos (lastSlot_eq_none_iff.mpr empty), empty, List.nil_append]
  · rw [if_neg (empty ∘ lastSlot_eq_none_iff.mp), head empty, firstSlot_append_of_ne_nil empty]

theorem tail_link_eq (tail : later ≠ [] → list.tail = lastSlot none later) :
    (list.link (lastSlot none earlier) (firstSlot none later)).tail =
      lastSlot none (earlier ++ later) := by
  rw [tail_link, lastSlot_append]
  by_cases empty : later = []
  · rw [if_pos (firstSlot_eq_none_iff.mpr empty), empty, lastSlot_nil]
  · rw [if_neg (empty ∘ firstSlot_eq_none_iff.mp), tail empty, lastSlot_eq_of_ne_nil empty (lastSlot none earlier)]

end SampleList

end Telemetry.Quantile
