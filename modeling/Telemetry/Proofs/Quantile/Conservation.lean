/-
# What a summary keeps

A value that was added is either staged or merged, and whoever counts both counts every
value once. The samples stand for all that was merged: a walk from the head meets each of
them, and their widths add up. What a sample is called by is a value that was merged, and
no two samples go by the same one of them.
-/

import Telemetry.Proofs.Quantile.Run

namespace Telemetry.Quantile

namespace SampleList

/-- Following `next` from a slot for as long as there is one meets these nodes. Nothing
bounds the walk, and every slot on it holds a node. -/
inductive Walk (list : SampleList) : Option Slot → List Node → Prop
  | done : list.Walk none []
  | visit {slot : Slot} {node : Node} {later : List Node} (held : list.node? slot = some node)
      (onward : list.Walk node.next later) : list.Walk (some slot) (node :: later)

variable {list : SampleList}

/-- A chain that ends with the list is walked to its end. -/
theorem Chain.walk {before? : Option Slot} {entries : List Entry}
    (chain : list.Chain before? entries none) :
    ∃ nodes, list.Walk (firstSlot none entries) nodes ∧ nodes.length = entries.length := by
  induction entries generalizing before? with
  | nil => exact ⟨[], .done, rfl⟩
  | cons entry later recursion =>
    obtain ⟨held, rest⟩ := chain
    obtain ⟨nodes, onward, length⟩ := recursion rest
    exact ⟨_ :: nodes, .visit held onward, congrArg Nat.succ length⟩

/-- A bound that is not below the number of nodes leaves the walk as it is. -/
theorem Walk.follow {start? : Option Slot} {nodes : List Node} (walk : list.Walk start? nodes)
    {bound : Nat} (enough : nodes.length ≤ bound) : list.follow bound start? = nodes := by
  induction walk generalizing bound with
  | done => cases bound <;> rfl
  | visit held onward recursion =>
    cases bound with
    | zero => exact absurd enough (Nat.not_succ_le_zero _)
    | succ bound =>
      simp only [SampleList.follow, held]
      rw [recursion (Nat.le_of_succ_le_succ enough)]

/-- The nodes of a list are all that a walk from its head meets. -/
theorem Represents.walk {entries : List Entry} (represents : list.Represents entries) :
    list.Walk list.head list.nodes ∧ list.nodes.length = list.length := by
  obtain ⟨nodes, walk, length⟩ := represents.chain.walk
  rw [← represents.head] at walk
  rw [← represents.length_eq] at length
  have met : list.nodes = nodes := walk.follow length.le
  exact ⟨met ▸ walk, met ▸ length⟩

end SampleList

namespace Summary

/-- Whatever is merged and however the cursors move, no value is lost and none is made up:
all that were added are counted once, by the samples or as staged, and the values that are
still held are among them. -/
theorem conservation_of_run (calls : List (Policy × Call)) :
    ∃ summary, (run calls).outcome = .ok summary ∧
      summary.count + summary.buffered = calls.countP (·.2.value?.isSome) ∧
      (∀ sample ∈ summary.samples.samples, 1 ≤ sample.width) ∧
      weight summary.samples.samples = summary.count ∧
      summary.samples.Walk summary.samples.head summary.samples.nodes ∧
      summary.samples.nodes.length = summary.samples.length ∧
      ↑(summary.samples.samples.map (·.value)) + summary.staged ≤ added calls := by
  obtain ⟨summary, merged, passed, coming, answered, consistent, values⟩ := consistent_run calls
  obtain ⟨walk, length⟩ := consistent.represents.walk
  have samples := consistent.represents.samples_eq
  refine ⟨summary, answered, ?_, ?_, ?_, walk, length, ?_⟩
  · rw [← card_added, ← values, Multiset.card_add, card_staged, consistent.count_eq_card]
  · rw [samples]
    exact consistent.grown.width_pos
  · rw [samples]
    exact consistent.count.symm
  · rw [samples, ← values]
    exact Multiset.add_le_add_right consistent.grown.values_le

end Summary

end Telemetry.Quantile
