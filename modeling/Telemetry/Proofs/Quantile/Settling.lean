/-
# Flushing a summary

Flushing works until nothing is staged, with a bound on the rounds. The bound is enough:
what is ahead is merged before the pass under way is over, what is behind in the pass
after it, and every round meets a node of the pass it is in.
-/

import Telemetry.Proofs.Quantile.Sweeps

namespace Telemetry.Quantile.Summary

variable {allowed : (count rank band : Nat) → Prop} {merged : Multiset Binary64}
  {passed coming coming' : List Entry} {summary changed : Summary} {policy : Policy}

/-- Rounds after which nothing is staged for certain: the nodes that the pass under way
has still to meet and, if anything waits for the next pass, all nodes there can be then. -/
def roundsLeft (summary : Summary) (coming : List Entry) : Nat :=
  toMeet coming +
    if summary.behind.size = 0 then 0 else summary.samples.length + summary.ahead.size + 1

theorem toMeet_pos (coming : List Entry) : 0 < toMeet coming := by
  cases coming with
  | nil => exact Nat.zero_lt_two
  | cons entry coming => exact Nat.succ_pos _

theorem toMeet_le_length (coming : List Entry) : toMeet coming ≤ coming.length + 2 := by
  rw [toMeet]
  split <;> omega

theorem staged_eq_zero_iff :
    summary.staged = 0 ↔ summary.ahead.isEmpty && summary.behind.isEmpty := by
  rw [Bool.and_eq_true, PagedHeap.isEmpty_iff_keys, PagedHeap.isEmpty_iff_keys, staged]
  simp only [← Multiset.card_eq_zero, Multiset.card_add, Nat.add_eq_zero_iff]

/-- As long as anything is left to merge, getting further leaves fewer rounds. -/
theorem Progress.roundsLeft_lt (progress : Progress 1 summary coming changed coming')
    (waiting : changed.staged ≠ 0) :
    changed.roundsLeft coming' < summary.roundsLeft coming := by
  have sizes {first second : Staging} (same : first.keys = second.keys) :
      first.size = second.size := by
    rw [← PagedHeap.card_keys, same, PagedHeap.card_keys]
  rw [roundsLeft, roundsLeft]
  cases progress with
  | underway behind nearer total =>
    rw [sizes behind]
    split <;> omega
  | ended ahead behind total =>
    rw [if_pos (PagedHeap.keys_eq_zero_iff.mp behind)]
    split
    · rename_i none
      rw [staged, ahead, behind, PagedHeap.keys_eq_zero_iff.mpr none] at waiting
      exact absurd rfl waiting
    · have positive := toMeet_pos coming
      omega

/-- With nothing ahead the next pass is started. -/
def startPass (summary : Summary) : Traced SlotFault Summary :=
  if summary.ahead.isEmpty then summary.endPass else pure summary

/-- One round of a flush. -/
def round (policy : Policy) (summary : Summary) : Traced SlotFault Summary := do
  let started ← summary.startPass
  started.work policy

/-- Starting the next pass costs no round. -/
theorem Consistent.startPass (consistent : summary.Consistent allowed merged passed coming)
    (waiting : summary.staged ≠ 0) :
    Answers summary.startPass.outcome fun started => ∃ passed' coming',
      started.Consistent allowed merged passed' coming' ∧ started.staged = summary.staged ∧
        started.roundsLeft coming' ≤ summary.roundsLeft coming := by
  rw [Summary.startPass]
  by_cases empty : summary.ahead.isEmpty
  · rw [if_pos empty]
    have cleared := PagedHeap.isEmpty_iff_keys.mp empty
    apply (consistent.toCore.endPass consistent.sweeping cleared).mono
    rintro started ⟨next, ahead, behind⟩
    have several : summary.behind.size ≠ 0 := by
      intro none
      rw [staged, cleared, PagedHeap.keys_eq_zero_iff.mpr none] at waiting
      exact waiting rfl
    refine ⟨[], passed ++ coming, next, ?_, ?_⟩
    · rw [staged, staged, ahead, behind, Multiset.add_comm]
    · have length := consistent.represents.length_eq
      have fewer := toMeet_le_length (passed ++ coming)
      have positive := toMeet_pos coming
      rw [roundsLeft, roundsLeft, behind, if_pos (PagedHeap.keys_eq_zero_iff.mp cleared),
        if_neg several]
      omega
  · rw [if_neg empty]
    exact answers_ok ⟨passed, coming, consistent, rfl, Nat.le_refl _⟩

/-- A round gains and loses nothing, and leaves fewer rounds to do. -/
theorem Consistent.round
    (admits : ∀ count rank band, policy.admits count rank band → allowed count rank band)
    (consistent : summary.Consistent allowed merged passed coming) (waiting : summary.staged ≠ 0) :
    Answers (summary.round policy).outcome fun next => ∃ merged' passed' coming',
      next.Consistent allowed merged' passed' coming' ∧
        merged' + next.staged = merged + summary.staged ∧
        (next.staged ≠ 0 → next.roundsLeft coming' < summary.roundsLeft coming) := by
  rw [Summary.round, Traced.outcome_bind]
  apply (consistent.startPass waiting).bind
  rintro started ⟨passed', coming', ready, same, fewer⟩
  apply (ready.work admits (same ▸ waiting)).mono
  rintro next ⟨merged', passed'', coming'', further, kept, progress⟩
  refine ⟨merged', passed'', coming'', further, kept.trans (by rw [same]), ?_⟩
  intro left
  exact (progress.roundsLeft_lt left).trans_le fewer

/-- A round of settling, told as one step after another. -/
theorem settle_succ (rounds : Nat) (waiting : summary.staged ≠ 0) :
    Summary.settle policy (rounds + 1) summary =
      summary.round policy >>= Summary.settle policy rounds := by
  rw [Summary.settle, if_neg (staged_eq_zero_iff.not.mp waiting), Summary.round, Summary.startPass,
    bind_assoc]
  cases summary.ahead.isEmpty <;> simp

/-- Rounds without a bound on their number, one after another for as long as anything is
staged. Each has a policy of its own, so nothing is said about what it folds. -/
inductive Drains : List Policy → Summary → Summary → Prop
  | done {summary : Summary} (drained : summary.buffered = 0) : Drains [] summary summary
  | round {policy : Policy} {policies : List Policy} {summary next final : Summary}
      (waiting : summary.buffered ≠ 0) (answered : (summary.round policy).outcome = .ok next)
      (rest : Drains policies next final) : Drains (policy :: policies) summary final

/-- With nothing staged there is no round to do. -/
theorem Consistent.drains_zero (policies : Nat → Policy)
    (consistent : summary.Consistent allowed merged passed coming) (none : summary.staged = 0) :
    Drains ((List.range 0).map policies) summary summary ∧
      summary.Consistent allowed (merged + summary.staged) passed coming := by
  rw [none, Multiset.add_zero]
  exact ⟨.done (buffered_eq_zero_iff.mpr none), consistent⟩

/-- Whichever policies come next, the rounds end within their bound, and everything that
was staged has been merged by then. -/
theorem Consistent.drains (policies : Nat → Policy)
    (admits : ∀ turn count rank band,
      (policies turn).admits count rank band → allowed count rank band)
    (consistent : summary.Consistent allowed merged passed coming) (bound : Nat)
    (enough : summary.staged ≠ 0 → summary.roundsLeft coming ≤ bound) :
    ∃ rounds ≤ bound, ∃ final passed' coming',
      Drains ((List.range rounds).map policies) summary final ∧
        final.Consistent allowed (merged + summary.staged) passed' coming' ∧
        final.staged = 0 := by
  -- On the bound: it covers the rounds left, of which each round leaves fewer.
  induction bound generalizing summary merged passed coming policies with
  | zero =>
    have none : summary.staged = 0 := by
      by_contra waiting
      have positive := toMeet_pos coming
      have bounded := enough waiting
      rw [roundsLeft] at bounded
      omega
    obtain ⟨drains, drained⟩ := consistent.drains_zero policies none
    exact ⟨0, Nat.le_refl 0, summary, passed, coming, drains, drained, none⟩
  | succ bound recursion =>
    by_cases none : summary.staged = 0
    · obtain ⟨drains, drained⟩ := consistent.drains_zero policies none
      exact ⟨0, Nat.zero_le _, summary, passed, coming, drains, drained, none⟩
    · obtain ⟨next, answered, merged', passed', coming', further, kept, less⟩ :=
        consistent.round (admits 0) none
      obtain ⟨rounds, within, final, passed'', coming'', rest, drained, cleared⟩ :=
        recursion (fun turn => policies (turn + 1)) (fun turn => admits (turn + 1)) further
          fun waiting => Nat.le_of_lt_succ ((less waiting).trans_le (enough none))
      refine ⟨rounds + 1, Nat.succ_le_succ within, final, passed'', coming'', ?_, kept ▸ drained,
        cleared⟩
      rw [List.range_succ_eq_map, List.map_cons, List.map_map]
      exact .round (buffered_eq_zero_iff.not.mpr none) answered rest

/-- Rounds that all have one policy are what settling does, unless its bound is too low. -/
theorem Drains.settle {policies : List Policy} {final : Summary}
    (drains : Drains policies summary final) (same : ∀ other ∈ policies, other = policy)
    {bound : Nat} (enough : policies.length ≤ bound) :
    (Summary.settle policy bound summary).outcome = .ok final := by
  induction drains generalizing bound with
  | done drained =>
    have none := staged_eq_zero_iff.mp (buffered_eq_zero_iff.mp drained)
    cases bound with
    | zero => rfl
    | succ bound =>
      rw [Summary.settle, if_pos none]
      rfl
  | @round first policies summary next final waiting answered rest recursion =>
    obtain ⟨rfl, later⟩ := List.forall_mem_cons.mp same
    cases bound with
    | zero => exact absurd enough (Nat.not_succ_le_zero _)
    | succ bound =>
      rw [settle_succ bound (buffered_eq_zero_iff.not.mp waiting), Traced.outcome_bind, answered]
      exact recursion later (Nat.le_of_succ_le_succ enough)

/-- The bound on the rounds of a flush is high enough. -/
theorem Consistent.roundsLeft_le (consistent : summary.Consistent allowed merged passed coming) :
    summary.roundsLeft coming ≤ summary.enoughRounds := by
  have nodes := consistent.represents.length_eq
  have fewer := toMeet_le_length coming
  rw [List.length_append] at nodes
  rw [roundsLeft, enoughRounds, buffered]
  split <;> omega

/-- Flushing merges everything that is staged, in rounds that no bound cuts short. -/
theorem Consistent.flush_drains (policy : Policy)
    (admits : ∀ count rank band, policy.admits count rank band → allowed count rank band)
    (consistent : summary.Consistent allowed merged passed coming) :
    Answers (summary.flush policy).outcome fun flushed =>
      (∃ rounds, Drains (List.replicate rounds policy) summary flushed) ∧
        ∃ passed' coming', flushed.Consistent allowed (merged + summary.staged) passed' coming' ∧
          flushed.staged = 0 := by
  obtain ⟨rounds, within, final, passed', coming', drains, drained, cleared⟩ :=
    consistent.drains (fun _ => policy) (fun _ => admits) summary.enoughRounds
      fun _ => consistent.roundsLeft_le
  rw [List.map_const', List.length_range] at drains
  have flushed := drains.settle (fun _ => List.eq_of_mem_replicate)
    (List.length_replicate.trans_le within)
  exact ⟨final, flushed, ⟨rounds, drains⟩, passed', coming', drained, cleared⟩

/-- Flushing merges everything that is staged. -/
theorem Consistent.flush
    (admits : ∀ count rank band, policy.admits count rank band → allowed count rank band)
    (consistent : summary.Consistent allowed merged passed coming) :
    Answers (summary.flush policy).outcome fun flushed =>
      ∃ passed' coming', flushed.Consistent allowed (merged + summary.staged) passed' coming' ∧
        flushed.staged = 0 :=
  (consistent.flush_drains policy admits).mono fun _ drained => drained.2

end Telemetry.Quantile.Summary
