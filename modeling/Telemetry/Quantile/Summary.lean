/-
# Summaries of a stream

A summary keeps a sorted list of samples. Values do not enter the list one at a time:
they are staged in two heaps, and an insert cursor sweeps the list from head to tail,
merging the values it meets. A value below the cursor has missed this pass and waits
in the heap behind; the heaps change roles when the pass ends. A compress cursor sweeps
from tail to head and folds a sample into its successor where the policy admits it.
Both cursors move a bounded number of nodes per call.

Neither the head nor the tail is ever folded away, so the extremes stay exact. All
operations refuse a cursor that names no node; the invariants show that none ever does.
-/

import Telemetry.PagedHeap
import Telemetry.Traced
import Telemetry.Quantile.Policy
import Telemetry.Quantile.SampleList

namespace Telemetry.Quantile

/-- Values waiting to be merged, the least first. -/
abbrev Staging := PagedHeap Binary64.compare Unit

/-- A place in a backward sweep. -/
structure Sweep where
  slot : Slot
  /-- The number of values that the samples before this one stand for. -/
  rankBefore : Nat
deriving DecidableEq, Repr

/-- A sorted list of samples with the values waiting to enter it. -/
structure Summary where
  samples : SampleList
  /-- Values the list stands for. -/
  count : Nat
  /-- Values for the pass under way. -/
  ahead : Staging
  /-- Values for the next pass. -/
  behind : Staging
  /-- Where the insert sweep stands, while a pass is under way. -/
  insertCursor : Option Slot
  /-- Where the compress sweep stands, while one is under way. -/
  compressCursor : Option Sweep

namespace Summary

/-- Bytes a staged value takes. -/
def stagedBytes : Nat :=
  8

/-- The summary of no values. -/
def empty : Summary :=
  let heap := PagedHeap.create Binary64.compare Unit stagedBytes 0
  ⟨∅, 0, heap, heap, none, none⟩

/-- Values staged and not yet merged. -/
def buffered (summary : Summary) : Nat :=
  summary.ahead.size + summary.behind.size

/-- Add a sample of one value after the last one. -/
def pushBack (summary : Summary) (value : Binary64) : Summary :=
  { summary with
    samples := (summary.samples.pushBack ⟨value, 1, 0⟩).1
    count := summary.count + 1 }

/-- Whether following `next` from a node meets the target node before any larger value,
or meets a smaller value at all. In a sorted list this is to stand at or before the
target, and only a run of values equal to the target's has to be walked. -/
def reaches (samples : SampleList) (target : Slot) (value : Binary64) :
    (bound : Nat) → Option Slot → Except SlotFault Bool
  | bound + 1, some slot => do
    if slot = target then return true
    let node ← samples.node slot
    match node.value.compare value with
    | .lt => return true
    | .gt => return false
    | .eq => reaches samples target value bound node.next
  | _, _ => return false

/-- Whether one node stands at or before another. -/
def atOrBefore (samples : SampleList) (slot target : Slot) : Except SlotFault Bool := do
  let node ← samples.node target
  reaches samples target node.value (samples.length + 1) (some slot)

/-- Add a sample of one value just before a node. The rank kept by the compress sweep
grows when the new sample comes before it. -/
def insertBefore (summary : Summary) (successor : Slot) (delta : Nat) (value : Binary64) :
    Except SlotFault Summary := do
  let (samples, _) ← summary.samples.insertBefore successor ⟨value, 1, delta⟩
  let summary := { summary with samples := samples, count := summary.count + 1 }
  match summary.compressCursor with
  | none => return summary
  | some sweep =>
    if ← atOrBefore summary.samples successor sweep.slot then
      return { summary with
        compressCursor := some { sweep with rankBefore := sweep.rankBefore + 1 } }
    else return summary

/-- Take the staged values that are due out of the heap ahead. -/
def takeDue (summary : Summary) (due : Binary64 → Bool) :
    Traced SlotFault (List Binary64 × Summary) := do
  let drained := summary.ahead.popWhile due
  Traced.report (drained.resizes.map .heapResized)
  return (drained.entries.map (·.1), { summary with ahead := drained.rest })

/-- End the pass: what was staged behind is ahead in the next one. -/
def endPass (summary : Summary) : Traced SlotFault Summary := do
  Traced.report
    [.stagingSwapped summary.ahead.size summary.behind.size summary.samples.length]
  return { summary with
    ahead := summary.behind
    behind := summary.ahead
    insertCursor := none }

/-- Sweep over a number of nodes. Before each node go the staged values up to its own,
all with the room its ranks leave; past the tail go all that remain, and the pass ends. -/
def advance : (steps : Nat) → Slot → Summary → Traced SlotFault Summary
  | 0, cursor, summary => return { summary with insertCursor := some cursor }
  | steps + 1, cursor, summary => do
    let node ← summary.samples.node cursor
    let (values, summary) ← summary.takeDue fun value => value.compare node.value != .gt
    let summary ← values.foldlM
      (fun summary value => summary.insertBefore cursor (node.width + node.delta - 1) value)
      summary
    match node.next with
    | some next => advance steps next summary
    | none =>
      let (values, summary) ← summary.takeDue fun _ => true
      (values.foldl pushBack summary).endPass

/-- One call of the insert sweep. The first value of all makes the list. -/
def insertStep (policy : Policy) (summary : Summary) : Traced SlotFault Summary :=
  match summary.insertCursor.or summary.samples.head with
  | some cursor => advance (policy.steps summary.samples.length) cursor summary
  | none =>
    if nonempty : 0 < summary.ahead.size then do
      let before := summary.ahead.occupancy
      let (least, rest) := summary.ahead.popMin nonempty
      Traced.report ((Resize.between before rest.occupancy).toList.map .heapResized)
      return { summary with ahead := rest }.pushBack least.1
    else return summary

/-- Fold a node into its successor. A cursor on the node moves along. -/
def absorb (summary : Summary) (slot next : Slot) (width : Nat) : Except SlotFault Summary := do
  let samples ← summary.samples.setWidth next width
  let (samples, _) ← samples.remove slot
  let insertCursor :=
    if summary.insertCursor = some slot then some next else summary.insertCursor
  return { summary with samples := samples, insertCursor := insertCursor }

/-- Sweep back over a number of nodes, folding each into its successor where the policy
admits it. The sweep ends at the head, and nothing is folded into a node without a
successor. -/
def retreat (policy : Policy) : (steps : Nat) → Sweep → Summary → Except SlotFault Summary
  | 0, sweep, summary => return { summary with compressCursor := some sweep }
  | steps + 1, sweep, summary => do
    let node ← summary.samples.node sweep.slot
    match node.prev, node.next with
    | some prev, some next =>
      let successor ← summary.samples.node next
      let band := node.width + successor.width + successor.delta
      let summary ←
        if policy.admits summary.count (sweep.rankBefore + band) band then
          summary.absorb sweep.slot next (successor.width + node.width)
        else pure summary
      let before ← summary.samples.node prev
      retreat policy steps ⟨prev, sweep.rankBefore - before.width⟩ summary
    | _, _ => return { summary with compressCursor := none }

/-- Where a compress sweep stands, or where a new one starts: at the last sample but one,
which all values precede but those of the last two samples. -/
def sweepStart (summary : Summary) : Except SlotFault (Option Sweep) := do
  match summary.compressCursor, summary.samples.tail with
  | some sweep, _ => return some sweep
  | none, none => return none
  | none, some tail =>
    let last ← summary.samples.node tail
    match last.prev with
    | none => return none
    | some slot =>
      let node ← summary.samples.node slot
      return some ⟨slot, summary.count - last.width - node.width⟩

/-- One call of the compress sweep. Fewer than three samples leave nothing to fold. -/
def compressStep (policy : Policy) (summary : Summary) : Except SlotFault Summary := do
  if summary.samples.length < 3 then return summary
  match ← summary.sweepStart with
  | none => return summary
  | some sweep => retreat policy (policy.steps summary.samples.length) sweep summary

/-- One call of both sweeps. -/
def work (policy : Policy) (summary : Summary) : Traced SlotFault Summary := do
  let summary ← summary.insertStep policy
  summary.compressStep policy

/-- Whether a value has missed the pass under way. -/
def missed (summary : Summary) (value : Binary64) : Except SlotFault Bool := do
  match summary.insertCursor with
  | none => return false
  | some cursor => return value.compare (← summary.samples.node cursor).value == .lt

/-- Put a value into one of the heaps. -/
def stage (summary : Summary) (value : Binary64) : Traced SlotFault Summary := do
  if ← summary.missed value then
    let before := summary.behind.occupancy
    let heap := summary.behind.insert value ()
    Traced.report ((Resize.between before heap.occupancy).toList.map .heapResized)
    return { summary with behind := heap }
  else
    let before := summary.ahead.occupancy
    let heap := summary.ahead.insert value ()
    Traced.report ((Resize.between before heap.occupancy).toList.map .heapResized)
    return { summary with ahead := heap }

/-- Add a value. -/
def add (policy : Policy) (summary : Summary) (value : Binary64) : Traced SlotFault Summary := do
  let summary ← summary.stage value
  summary.work policy

/-- Work until nothing is staged, `rounds` times at most. A pass with nothing ahead ends
at once. -/
def settle (policy : Policy) : (rounds : Nat) → Summary → Traced SlotFault Summary
  | 0, summary => return summary
  | rounds + 1, summary => do
    if summary.ahead.isEmpty && summary.behind.isEmpty then return summary
    let summary ← if summary.ahead.isEmpty then summary.endPass else pure summary
    let summary ← summary.work policy
    settle policy rounds summary

/-- Rounds in which everything staged is merged: two passes, each of which meets a node
in every round, and the list never has more nodes than there are samples and values. -/
def enoughRounds (summary : Summary) : Nat :=
  2 * (summary.samples.length + summary.buffered) + 4

/-- Merge everything that is staged. -/
def flush (policy : Policy) (summary : Summary) : Traced SlotFault Summary :=
  settle policy summary.enoughRounds summary

end Summary

end Telemetry.Quantile
