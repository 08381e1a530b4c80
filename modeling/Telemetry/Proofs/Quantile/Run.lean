/-
# Runs of a summary

A run is a sequence of calls. Each call comes with a policy of its own, so that a run may
merge and move its cursors in any pattern at all: what holds of every run does not depend
on targets or on the arithmetic in which they are weighed.
-/

import Telemetry.Proofs.Quantile.Settling
import Telemetry.Quantile.Sketch

namespace Telemetry.Quantile

/-- What can be asked of a summary. -/
inductive Call where
  | add (value : Binary64)
  | flush

/-- The value that a call adds, if it adds one. -/
def Call.value? : Call → Option Binary64
  | add value => some value
  | flush => none

/-- All values that were added in a run, however often each. -/
def added (calls : List (Policy × Call)) : Multiset Binary64 :=
  ↑(calls.filterMap (·.2.value?))

theorem added_append (calls later : List (Policy × Call)) :
    added (calls ++ later) = added calls + added later := by
  rw [added, List.filterMap_append, ← Multiset.coe_add]
  rfl

/-- As many values were added as there are calls that add one. -/
theorem card_added (calls : List (Policy × Call)) :
    (added calls).card = calls.countP (·.2.value?.isSome) := by
  rw [added, Multiset.coe_card]
  exact List.length_filterMap_eq_countP

namespace Summary

/-- One call under a policy. -/
def call (summary : Summary) (step : Policy × Call) : Traced SlotFault Summary :=
  match step.2 with
  | .add value => summary.add step.1 value
  | .flush => summary.flush step.1

/-- Calls in order, from the summary of no values. -/
def run (calls : List (Policy × Call)) : Traced SlotFault Summary :=
  calls.foldlM call empty

variable {allowed : (count rank band : Nat) → Prop} {merged : Multiset Binary64}
  {passed coming : List Entry} {summary : Summary}

/-- The summary is consistent for some of the values that it accounts for. -/
def Accounts (allowed : (count rank band : Nat) → Prop) (values : Multiset Binary64)
    (summary : Summary) : Prop :=
  ∃ merged passed coming, summary.Consistent allowed merged passed coming ∧
    merged + summary.staged = values

/-- A call answers and accounts for the values that it adds. -/
theorem Accounts.call {values : Multiset Binary64} (accounts : summary.Accounts allowed values)
    (step : Policy × Call)
    (admits : ∀ count rank band, step.1.admits count rank band → allowed count rank band) :
    Answers (summary.call step).outcome (Accounts allowed (values + added [step])) := by
  obtain ⟨merged, passed, coming, consistent, rfl⟩ := accounts
  obtain ⟨policy, call⟩ := step
  cases call with
  | add value =>
    show Answers (summary.add policy value).outcome _
    rw [Summary.add, Traced.outcome_bind]
    apply (consistent.stage value).bind
    rintro held ⟨still, staged⟩
    have waiting : held.staged ≠ 0 := staged ▸ Multiset.cons_ne_zero
    apply (still.work admits waiting).mono
    rintro changed ⟨merged', passed', coming', further, kept, -⟩
    refine ⟨merged', passed', coming', further, ?_⟩
    rw [kept, staged, ← Multiset.singleton_add, ← Multiset.add_assoc,
      Multiset.add_comm merged, Multiset.add_assoc, Multiset.add_comm]
    rfl
  | flush =>
    apply (consistent.flush admits).mono
    rintro changed ⟨passed', coming', further, none⟩
    exact ⟨_, passed', coming', further, by rw [none]; rfl⟩

theorem run_append_singleton (calls : List (Policy × Call)) (step : Policy × Call) :
    run (calls ++ [step]) = run calls >>= (call · step) := by
  simp [run, List.foldlM_append]

/-- A run answers and accounts for all values that were added. -/
theorem accounts_run (calls : List (Policy × Call))
    (admits : ∀ step ∈ calls, ∀ count rank band,
      step.1.admits count rank band → allowed count rank band) :
    Answers (run calls).outcome (Accounts allowed (added calls)) := by
  induction calls using List.reverseRecOn with
  | nil => exact answers_ok ⟨0, [], [], consistent_empty, rfl⟩
  | append_singleton calls step recursion =>
    rw [List.forall_mem_append, List.forall_mem_singleton] at admits
    rw [run_append_singleton, Traced.outcome_bind, added_append]
    exact (recursion admits.1).bind fun summary accounts => accounts.call step admits.2

/-- Nothing is staged after a run that ends with a flush. -/
theorem staged_of_run_flush (calls : List (Policy × Call)) (policy : Policy) :
    Answers (run (calls ++ [(policy, .flush)])).outcome (·.staged = 0) := by
  rw [run_append_singleton, Traced.outcome_bind]
  have before : Answers (run calls).outcome (Accounts (fun _ _ _ => True) (added calls)) :=
    accounts_run calls fun _ _ _ _ _ _ => trivial
  apply before.bind
  rintro summary ⟨merged, passed, coming, consistent, -⟩
  apply (consistent.flush fun _ _ _ _ => trivial).mono
  rintro flushed ⟨passed', coming', -, none⟩
  exact none

/-- Under any policies, every run ends in a consistent summary. -/
theorem consistent_run (calls : List (Policy × Call)) :
    ∃ summary merged passed coming, (run calls).outcome = .ok summary ∧
      summary.Consistent (fun _ _ _ => True) merged passed coming ∧
      merged + summary.staged = added calls := by
  obtain ⟨summary, answered, merged, passed, coming, consistent, values⟩ :=
    accounts_run calls fun _ _ _ _ _ _ => trivial
  exact ⟨summary, merged, passed, coming, answered, consistent, values⟩

/-- Whatever is merged and however the cursors move, the ranks that the samples claim are
sound for the values merged: as many values as a sample's lower bound are at or below it,
and it is within its upper bound. The upper bounds ascend and stay within the count. -/
theorem rank_bounds_of_run (calls : List (Policy × Call)) :
    ∃ summary merged, (run calls).outcome = .ok summary ∧
      merged + summary.staged = added calls ∧
      (∀ ranked ∈ ranks 0 summary.samples.samples,
        ranked.value ∈ merged ∧ ranked.lower ≤ merged.countP (· ≤ ranked.value) ∧
          merged.countP (· < ranked.value) + 1 ≤ ranked.upper ∧
          ranked.upper ≤ summary.count) ∧
      (ranks 0 summary.samples.samples).Pairwise (·.upper ≤ ·.upper) := by
  obtain ⟨summary, merged, passed, coming, answered, consistent, values⟩ := consistent_run calls
  obtain ⟨sound, ascending⟩ := consistent.grown.rankSound
  rw [← consistent.represents.samples_eq] at sound ascending
  refine ⟨summary, merged, answered, values, ?_, ascending⟩
  intro ranked member
  have bounds := sound ranked member
  have total : summary.count = merged.card := consistent.count.trans consistent.grown.weight_eq
  exact ⟨bounds.mem, bounds.lower, bounds.upper, total ▸ bounds.bounded⟩

/-- Whatever is merged and however the cursors move, the samples are sorted, nothing ahead
is below the sample before the insert cursor, and nothing is behind between two passes. -/
theorem order_of_run (calls : List (Policy × Call)) :
    ∃ summary, (run calls).outcome = .ok summary ∧
      summary.samples.samples.Pairwise (·.value ≤ ·.value) ∧
      (∀ slot, summary.insertCursor = some slot →
        ∃ node, summary.samples.node slot = .ok node ∧
          ∀ before, node.prev = some before →
            ∃ previous, summary.samples.node before = .ok previous ∧
              ∀ waiting ∈ summary.ahead.keys, previous.value ≤ waiting) ∧
      (summary.insertCursor = none → summary.behind.keys = 0) := by
  obtain ⟨summary, merged, passed, coming, answered, consistent, -⟩ := consistent_run calls
  refine ⟨summary, answered, ?_, ?_, fun resting => (consistent.passing.resting resting).2⟩
  · rw [consistent.represents.samples_eq]
    exact consistent.sorted
  · intro slot underway
    have standing := consistent.passing.underway slot underway
    cases coming with
    | nil => cases standing
    | cons entry coming =>
      cases standing
      refine ⟨_, consistent.represents.node, ?_⟩
      intro before previous
      cases passed using List.reverseRecOn with
      | nil => cases previous
      | append_singleton passed last =>
        rw [lastSlot_append] at previous
        cases previous
        have represents := consistent.represents
        rw [List.append_assoc] at represents
        refine ⟨_, represents.node, ?_⟩
        intro waiting staged
        exact consistent.ordered waiting staged last.2 (by simp)

/-- Whatever is merged and however the cursors move, the rank that the compress sweep
keeps is the weight of the samples before it. -/
theorem sweep_rank_of_run (calls : List (Policy × Call)) :
    ∃ summary, (run calls).outcome = .ok summary ∧
      ∀ sweep, summary.compressCursor = some sweep →
        sweep.slot ∈ slotsOf summary.samples.entries ∧
          sweep.rankBefore =
            weight (samplesOf (summary.samples.entries.takeWhile (·.1 ≠ sweep.slot))) := by
  obtain ⟨summary, merged, passed, coming, answered, consistent, -⟩ := consistent_run calls
  refine ⟨summary, answered, ?_⟩
  intro sweep standing
  obtain ⟨earlier, sample, later, split, -, rank⟩ := consistent.sweeping sweep standing
  have nodup := consistent.represents.owns.nodup
  rw [consistent.represents.entries_eq, split]
  rw [split] at nodup
  refine ⟨by simp, ?_⟩
  rw [takeWhile_ne_slot nodup, rank]

/-- After any run the rounds of a flush come to an end, within a bound, whatever they fold
and whichever policy comes next. Everything staged is counted by then, and nothing else; a
flush does just these rounds, under the one policy it has. -/
theorem drains_of_run (calls : List (Policy × Call)) :
    ∃ summary, (run calls).outcome = .ok summary ∧
      (∀ policies : Nat → Policy, ∃ rounds ≤ summary.enoughRounds, ∃ final,
        Drains ((List.range rounds).map policies) summary final ∧ final.buffered = 0 ∧
          final.count = summary.count + summary.buffered) ∧
      ∀ policy, ∃ rounds final, Drains (List.replicate rounds policy) summary final ∧
        (summary.flush policy).outcome = .ok final ∧ final.buffered = 0 ∧
          final.count = summary.count + summary.buffered := by
  obtain ⟨summary, merged, passed, coming, answered, consistent, -⟩ := consistent_run calls
  have counted {final : Summary} {passed' coming' : List Entry}
      (drained : final.Consistent (fun _ _ _ => True) (merged + summary.staged) passed' coming') :
      final.count = summary.count + summary.buffered := by
    rw [drained.count_eq_card, consistent.count_eq_card, Multiset.card_add, card_staged]
  refine ⟨summary, answered, ?_, ?_⟩
  · intro policies
    obtain ⟨rounds, within, final, passed', coming', drains, drained, cleared⟩ :=
      consistent.drains policies (fun _ _ _ _ _ => trivial) summary.enoughRounds
        fun _ => consistent.roundsLeft_le
    exact ⟨rounds, within, final, drains, buffered_eq_zero_iff.mpr cleared, counted drained⟩
  · intro policy
    obtain ⟨final, flushed, ⟨rounds, drains⟩, passed', coming', drained, cleared⟩ :=
      consistent.flush_drains policy fun _ _ _ _ => trivial
    exact ⟨rounds, final, drains, flushed, buffered_eq_zero_iff.mpr cleared, counted drained⟩

end Summary

namespace Sketch

variable {R : Type} [Scale R] [LT R] [DecidableLT R] [LE R] [DecidableLE R]
  [Sub R] [Mul R] [Div R]

/-- One call of a sketch. -/
def call (sketch : Sketch R) : Call → Traced SlotFault (Sketch R)
  | .add value => sketch.add value
  | .flush => sketch.flush

/-- Calls in order, from the sketch of no values. -/
def run (targets : Targets R) (calls : List Call) : Traced SlotFault (Sketch R) :=
  calls.foldlM call (empty targets)

/-- A sketch leaves its targets as they are and calls its summary under their policy. -/
theorem outcome_call (sketch : Sketch R) (step : Call) :
    (sketch.call step).outcome =
      (sketch.summary.call (sketch.targets.policy, step)).outcome.map (⟨sketch.targets, ·⟩) := by
  cases step with
  | add value =>
    simp only [call, add, Summary.call, Traced.outcome_bind]
    cases (sketch.summary.add sketch.targets.policy value).outcome <;> rfl
  | flush =>
    simp only [call, flush, Summary.call, Traced.outcome_bind]
    cases (sketch.summary.flush sketch.targets.policy).outcome <;> rfl

/-- A sketch runs as its summary does, so whatever holds of every run of a summary holds
of every run of a sketch. -/
theorem outcome_run (targets : Targets R) (calls : List Call) :
    (run targets calls).outcome =
      (Summary.run (calls.map ((targets.policy, ·)))).outcome.map (⟨targets, ·⟩) := by
  induction calls using List.reverseRecOn with
  | nil => rfl
  | append_singleton calls step recursion =>
    have front : run targets (calls ++ [step]) = run targets calls >>= (call · step) := by
      simp [run, List.foldlM_append]
    rw [front, List.map_append, List.map_singleton, Summary.run_append_singleton,
      Traced.outcome_bind, Traced.outcome_bind, recursion]
    cases (Summary.run (calls.map ((targets.policy, ·)))).outcome with
    | error fault => rfl
    | ok summary => exact outcome_call ⟨targets, summary⟩ step

end Sketch

end Telemetry.Quantile
