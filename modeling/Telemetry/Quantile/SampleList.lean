/-
# Lists of samples

The samples of a sketch form a doubly linked list whose nodes live in an array of
slots. A node keeps its slot until it is removed, so a slot number can be held outside
the list, as a cursor, while other nodes come and go. Emptied slots are used again,
the last emptied first, before a new one is made.

Every operation that is told a slot first looks whether a node is there. It refuses a
slot that is empty and a slot that was never made, and leaves the list as it was.
-/

import Telemetry.Binary64

namespace Telemetry.Quantile

/-- Number of a slot. -/
abbrev Slot := Nat

/-- Some observed values for which one value stands. -/
structure Sample where
  value : Binary64
  /-- Values this sample stands for. -/
  width : Nat
  /-- How many more ranks the last of them may be away. -/
  delta : Nat
deriving DecidableEq, Repr

/-- A sample with its neighbours in the list. -/
structure Node extends Sample where
  prev : Option Slot
  next : Option Slot
deriving DecidableEq, Repr

/-- Why a slot cannot be used. -/
inductive SlotFault where
  /-- The node that was here has been removed. -/
  | emptied (slot : Slot)
  /-- No node was ever here. -/
  | unknown (slot : Slot)
deriving DecidableEq, Repr

/-- Only an emptied slot has a history to tell about. -/
def SlotFault.message? : SlotFault → Option String
  | .emptied slot => some ("sample " ++ toString slot ++ " is not linked")
  | .unknown _ => none

/-- A list of samples whose nodes keep their slots. -/
structure SampleList where
  slots : Array (Option Node)
  /-- Emptied slots, the last emptied first. -/
  free : List Slot
  head : Option Slot
  tail : Option Slot
  /-- The number of nodes. -/
  length : Nat
deriving DecidableEq, Repr

namespace SampleList

/-- The list without nodes and without slots. -/
def empty : SampleList :=
  ⟨#[], [], none, none, 0⟩

instance : EmptyCollection SampleList :=
  ⟨empty⟩

/-- Whether the list has no nodes. -/
def isEmpty (list : SampleList) : Bool :=
  list.length == 0

/-- The node in a slot. -/
def node (list : SampleList) (slot : Slot) : Except SlotFault Node :=
  match list.slots[slot]? with
  | some (some node) => .ok node
  | some none => .error (.emptied slot)
  | none => .error (.unknown slot)

/-- The node in a slot, if there is one. -/
def node? (list : SampleList) (slot : Slot) : Option Node :=
  list.slots[slot]?.join

/-- Change the node in a slot; an empty slot stays empty. -/
def adjust (list : SampleList) (slot : Slot) (change : Node → Node) : SampleList :=
  { list with slots := list.slots.modify slot (·.map change) }

/-- Let `first?` be followed by `second?`; at the ends of the list this moves the head
or the tail instead. -/
def link (list : SampleList) (first? second? : Option Slot) : SampleList :=
  let list := match first? with
    | some first => list.adjust first ({ · with next := second? })
    | none => { list with head := second? }
  match second? with
  | some second => list.adjust second ({ · with prev := first? })
  | none => { list with tail := first? }

/-- Put a node into a slot of its own: the last emptied one, or else a new one. -/
def place (list : SampleList) (node : Node) : SampleList × Slot :=
  match list.free with
  | slot :: free =>
    ({ list with
        slots := list.slots.modify slot fun _ => some node
        free := free
        length := list.length + 1 }, slot)
  | [] =>
    let slot := list.slots.size
    ({ list with slots := list.slots.push (some node), length := list.length + 1 }, slot)

/-- Add a sample after the last one. -/
def pushBack (list : SampleList) (sample : Sample) : SampleList × Slot :=
  let last? := list.tail
  let (list, slot) := list.place { sample with prev := last?, next := none }
  (((list.link last? (some slot)).link (some slot) none), slot)

/-- Add a sample just before a node. -/
def insertBefore (list : SampleList) (successor : Slot) (sample : Sample) :
    Except SlotFault (SampleList × Slot) := do
  let before? := (← list.node successor).prev
  let (list, slot) := list.place { sample with prev := before?, next := some successor }
  return ((list.link before? (some slot)).link (some slot) (some successor), slot)

/-- Remove a node, answering it as it was. -/
def remove (list : SampleList) (slot : Slot) : Except SlotFault (SampleList × Node) := do
  let node ← list.node slot
  let list := { list with
    slots := list.slots.modify slot fun _ => none
    free := slot :: list.free
    length := list.length - 1 }
  return (list.link node.prev node.next, node)

/-- Change how many values a node stands for. -/
def setWidth (list : SampleList) (slot : Slot) (width : Nat) : Except SlotFault SampleList := do
  let _ ← list.node slot
  return list.adjust slot ({ · with width := width })

/-- The nodes met on following `next` from a slot, `bound` of them at most. -/
def follow (list : SampleList) : (bound : Nat) → Option Slot → List Node
  | bound + 1, some slot =>
    match list.node? slot with
    | some node => node :: list.follow bound node.next
    | none => []
  | _, _ => []

/-- The nodes from head to tail. -/
def nodes (list : SampleList) : List Node :=
  list.follow list.length list.head

/-- The samples from head to tail. -/
def samples (list : SampleList) : List Sample :=
  list.nodes.map (·.toSample)

/-- The first sample. -/
def first? (list : SampleList) : Option Sample :=
  (list.head.bind list.node?).map (·.toSample)

/-- The last sample. -/
def last? (list : SampleList) : Option Sample :=
  (list.tail.bind list.node?).map (·.toSample)

end SampleList

end Telemetry.Quantile
