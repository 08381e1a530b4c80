/-
# Runs are safe

Checked operations agree with those that run. For what is done to the list this follows from
its being in order; for the differences of counts it takes what holds of a summary: every
sample stands for a value, the count is the weight of all samples, and the rank of a compress
sweep is the weight of those before it.
-/

import Telemetry.Proofs.Quantile.Checked

namespace Telemetry.Quantile.Summary

open Sweep (StandsIn)

variable {allowed : (count rank band : Nat) → Prop} {merged : Multiset Binary64}
  {passed coming : List Entry} {entry : Entry} {summary changed : Summary} {value : Binary64}
  {policy : Policy}

/-- The nodes of a summary are in order, whatever their samples are. -/
def Linked (summary : Summary) : Prop :=
  ∃ entries, summary.samples.Represents entries

theorem Core.linked (core : summary.Core allowed merged passed coming) : summary.Linked :=
  ⟨_, core.represents⟩

namespace Linked

theorem pushBack (linked : summary.Linked) (value : Binary64) : (summary.pushBack value).Linked := by
  obtain ⟨entries, represents⟩ := linked
  obtain ⟨list, slot, appended, -, longer⟩ := represents.pushBack ⟨value, 1, 0⟩
  refine ⟨entries ++ [(slot, ⟨value, 1, 0⟩)], ?_⟩
  rw [Summary.pushBack, appended]
  exact longer

theorem checkedPushBack_eq (linked : summary.Linked) (value : Binary64) :
    summary.checkedPushBack value = some (summary.pushBack value) := by
  obtain ⟨entries, represents⟩ := linked
  rw [checkedPushBack, represents.checkedPushBack_eq]
  rfl

theorem insertBefore (linked : summary.Linked) {successor : Slot} {delta : Nat}
    (answered : summary.insertBefore successor delta value = .ok changed) : changed.Linked := by
  obtain ⟨entries, represents⟩ := linked
  rw [Summary.insertBefore] at answered
  obtain ⟨⟨list, slot⟩, inserted, rest⟩ := exists_of_bind_eq_ok answered
  have linked : ∃ entries, list.Represents entries := represents.exists_of_insertBefore inserted
  cases cursor : summary.compressCursor with
  | none =>
    simp only [cursor] at rest
    cases rest
    exact linked
  | some sweep =>
    simp only [cursor] at rest
    obtain ⟨behind, -, moved⟩ := exists_of_bind_eq_ok rest
    cases behind <;> cases moved <;> exact linked

theorem checkedInsertBefore_eq (linked : summary.Linked) (successor : Slot) (delta : Nat)
    (value : Binary64) :
    summary.checkedInsertBefore successor delta value =
      (summary.insertBefore successor delta value).toOption := by
  obtain ⟨entries, represents⟩ := linked
  rw [checkedInsertBefore, represents.checkedInsertBefore_eq, Summary.insertBefore]
  cases summary.samples.insertBefore successor ⟨value, 1, delta⟩ with
  | error fault => rfl
  | ok inserted =>
    obtain ⟨list, slot⟩ := inserted
    cases summary.compressCursor with
    | none =>
      simp only [bind, Except.bind]
      rfl
    | some sweep =>
      simp only [bind, Except.bind, Except.toOption, Option.map, Option.bind]
      cases atOrBefore list successor sweep.slot with
      | error fault => rfl
      | ok behind => cases behind <;> rfl

theorem checkedAbsorb_eq (linked : summary.Linked) (slot next : Slot) (width : Nat) :
    summary.checkedAbsorb slot next width = (summary.absorb slot next width).toOption := by
  obtain ⟨entries, represents⟩ := linked
  rw [checkedAbsorb, absorb]
  cases widened : summary.samples.setWidth next width with
  | error fault => rfl
  | ok list =>
    obtain ⟨entries', wider⟩ := represents.exists_of_setWidth widened
    show (list.checkedRemove slot >>= _) = _
    rw [wider.checkedRemove_eq]
    simp only [bind, Except.bind]
    cases list.remove slot <;> rfl

theorem checkedPushBack_foldlM (linked : summary.Linked) (values : List Binary64) :
    values.foldlM checkedPushBack summary = some (values.foldl Summary.pushBack summary) := by
  have folded : values.foldlM checkedPushBack summary =
      (values.foldlM (fun summary value =>
        (pure (summary.pushBack value) : Except SlotFault Summary)) summary).toOption := by
    apply foldlM_eq_toOption (fun state value (linked : state.Linked) =>
      linked.checkedPushBack_eq value) _ values linked
    rintro state value linked next ⟨⟩
    exact linked.pushBack value
  rw [folded, List.foldlM_pure]
  rfl

theorem checkedInsertBefore_foldlM (linked : summary.Linked) (successor : Slot) (delta : Nat)
    (values : List Binary64) :
    values.foldlM (fun summary value => summary.checkedInsertBefore successor delta value) summary =
      (values.foldlM (fun summary value =>
        (liftM (summary.insertBefore successor delta value) : Traced SlotFault Summary))
        summary).answer? := by
  rw [Traced.answer?, Traced.outcome_foldlM]
  exact foldlM_eq_toOption (fun state value (linked : state.Linked) =>
    linked.checkedInsertBefore_eq successor delta value)
    (fun state value linked next answered => linked.insertBefore answered) values linked

end Linked

/-- Taking out what is due always answers, and touches the heap ahead only. -/
theorem exists_takeDue (summary : Summary) (due : Binary64 → Bool) :
    ∃ values ahead, (summary.takeDue due).outcome = .ok (values, { summary with ahead := ahead }) :=
  ⟨_, _, rfl⟩

/-- Past the tail all values that are left go to the end of a list in order. -/
theorem Linked.checkedFinish_eq (linked : summary.Linked) :
    ((summary.takeDue fun _ => true).answer? >>= fun taken =>
        taken.1.foldlM checkedPushBack taken.2 >>= fun filled => filled.endPass.answer?) =
      (do
        let (values, summary) ← summary.takeDue fun _ => true
        (values.foldl Summary.pushBack summary).endPass : Traced SlotFault Summary).answer? := by
  obtain ⟨values, ahead, taken⟩ := summary.exists_takeDue fun _ => true
  have left : Linked { summary with ahead := ahead } := linked
  rw [Traced.answer?, Traced.answer?, Traced.outcome_bind, taken]
  show (values.foldlM checkedPushBack { summary with ahead := ahead } >>= _) = _
  rw [left.checkedPushBack_foldlM]
  rfl

/-- A sweep over some nodes looks at linked nodes only, each of which is worth a rank. -/
theorem Core.checkedAdvance_eq (core : summary.Core allowed merged passed (entry :: coming))
    (sweeping : summary.Sweeping (passed ++ entry :: coming)) (steps : Nat) :
    checkedAdvance steps entry.1 summary = (Summary.advance steps entry.1 summary).answer? := by
  induction steps generalizing summary merged passed entry coming with
  | zero => rfl
  | succ steps recursion =>
    -- The difference is worked out at every node that is met, due values or not.
    have positive : 1 ≤ entry.2.width + entry.2.delta :=
      Nat.le_add_right_of_le (core.grown.width_pos entry.2 (by simp))
    have held := core.represents.chain.node?
    obtain ⟨values, ahead, taken⟩ := summary.exists_takeDue fun value =>
      value.compare entry.2.value != .gt
    have left : Linked { summary with ahead := ahead } := core.linked
    have met := core.meet sweeping
    rw [taken, answers_ok_bind] at met
    rw [Traced.answer?, Summary.advance, checkedAdvance, held]
    simp only [Traced.outcome_bind, Traced.outcome_lift, core.represents.node, except_ok_bind,
      Option.bind_eq_bind, Option.bind_some, Nat.psub_eq_sub positive, Traced.answer?, taken,
      Except.toOption]
    rw [left.checkedInsertBefore_foldlM]
    apply met.toOption_bind
    rintro changed ⟨more, added, -, beyond, standing⟩
    cases coming with
    | nil => exact beyond.linked.checkedFinish_eq
    | cons next coming => exact recursion beyond standing

/-- A call of the insert sweep agrees with its checked form. -/
theorem Consistent.checkedInsertStep_eq
    (consistent : summary.Consistent allowed merged passed coming) (policy : Policy) :
    summary.checkedInsertStep policy = (summary.insertStep policy).answer? := by
  rw [checkedInsertStep, Summary.insertStep, consistent.cursor_eq]
  cases coming with
  | cons entry coming => exact consistent.toCore.checkedAdvance_eq consistent.sweeping _
  | nil =>
    simp only [firstSlot_nil]
    split
    · rename_i nonempty
      have left : Linked { summary with ahead := (summary.ahead.popMin nonempty).2 } :=
        consistent.toCore.linked
      exact left.checkedPushBack_eq _
    · rfl

/-- The checked form of folding one sample. -/
def checkedFoldOne (policy : Policy) (sweep : Sweep) (sample : Sample) (next : Entry)
    (summary : Summary) : Option Summary :=
  let band := sample.width + next.2.width + next.2.delta
  if policy.admits summary.count (sweep.rankBefore + band) band then
    summary.checkedAbsorb sweep.slot next.1 (next.2.width + sample.width)
  else some summary

theorem Linked.checkedFoldOne_eq (linked : summary.Linked) (policy : Policy) (sweep : Sweep)
    (sample : Sample) (next : Entry) :
    summary.checkedFoldOne policy sweep sample next =
      (summary.foldOne policy sweep sample next).toOption := by
  rw [checkedFoldOne, foldOne]
  split
  · exact linked.checkedAbsorb_eq ..
  · rfl

/-- Between the head and the tail a checked sweep does the same things one after another. -/
theorem checkedRetreat_succ {sweep : Sweep} {earlier later : List Entry} {before next : Entry}
    {sample : Sample} (steps : Nat)
    (represents : summary.samples.Represents
      (earlier ++ [before] ++ (sweep.slot, sample) :: next :: later)) :
    checkedRetreat policy (steps + 1) sweep summary =
      summary.checkedFoldOne policy sweep sample next >>= fun folded =>
        folded.samples.node? before.1 >>= fun node =>
          sweep.rankBefore.psub node.width >>= fun rankBefore =>
            checkedRetreat policy steps ⟨before.1, rankBefore⟩ folded := by
  have node := represents.chain.node?
  have previous : lastSlot none (earlier ++ [before]) = some before.1 := lastSlot_append ..
  rw [List.append_cons] at represents
  have successor := represents.chain.node?
  rw [checkedRetreat, checkedFoldOne]
  simp only [node, successor, previous, firstSlot_cons, Option.bind_eq_bind, Option.bind_some]
  split <;> rfl

/-- A backward sweep looks at linked nodes only, and the rank it keeps covers each of those
that it goes back over. -/
theorem Core.checkedRetreat_eq {sweep : Sweep}
    (admits : ∀ count rank band, policy.admits count rank band → allowed count rank band)
    (core : summary.Core allowed merged passed coming) (passing : summary.Passing passed coming)
    (stands : sweep.StandsIn (passed ++ coming)) (steps : Nat) :
    checkedRetreat policy steps sweep summary =
      (Summary.retreat policy steps sweep summary).toOption := by
  induction steps generalizing summary sweep passed coming with
  | zero => rfl
  | succ steps recursion =>
    obtain ⟨earlier, sample, later, split, nonempty, rank⟩ := stands
    obtain ⟨next, later, rfl⟩ := List.exists_cons_of_ne_nil nonempty
    have represents := core.represents
    rw [split] at represents
    cases earlier using List.reverseRecOn with
    | nil =>
      have held := represents.chain.node?
      rw [checkedRetreat, held, Summary.retreat, represents.node]
      rfl
    | append_singleton earlier before =>
      rw [retreat_succ steps represents, checkedRetreat_succ steps represents,
        core.linked.checkedFoldOne_eq]
      apply (core.foldOne admits passing split rank).toOption_bind
      rintro folded ⟨passed', coming', rest, nonempty, cut, core', passing', -⟩
      obtain ⟨covered, stands⟩ := StandsIn.back rank nonempty
      rw [← cut] at stands
      have represents' := core'.represents
      rw [cut] at represents'
      rw [represents'.node, represents'.chain.node?, except_ok_bind]
      simp only [Option.bind_eq_bind, Option.bind_some, Nat.psub_eq_sub covered]
      exact recursion core' passing' stands

/-- The count covers the last two samples, which a new backward sweep starts before. -/
theorem Consistent.checkedSweepStart_eq
    (consistent : summary.Consistent allowed merged passed coming) :
    summary.checkedSweepStart = summary.sweepStart.toOption := by
  have represents := consistent.represents
  have tail := represents.tail
  have count := consistent.count
  rw [checkedSweepStart, Summary.sweepStart]
  cases summary.compressCursor with
  | some sweep => rfl
  | none =>
    generalize passed ++ coming = entries at represents tail count
    cases entries using List.reverseRecOn with
    | nil =>
      rw [tail]
      rfl
    | append_singleton front last =>
      rw [lastSlot_append, lastSlot_cons, lastSlot_nil] at tail
      rw [tail]
      simp only [represents.node, represents.chain.node?, except_ok_bind, Option.bind_eq_bind,
        Option.bind_some]
      cases front using List.reverseRecOn with
      | nil => rfl
      | append_singleton front previous =>
        rw [List.append_assoc] at represents
        simp only [samplesOf_append, samplesOf_cons, samplesOf_nil, weight_append, weight_cons,
          weight_nil] at count
        have coversLast : last.2.width ≤ summary.count := by omega
        have coversBoth : previous.2.width ≤ summary.count - last.2.width := by omega
        simp only [lastSlot_append, lastSlot_cons, lastSlot_nil, represents.node,
          represents.chain.node?, except_ok_bind, Option.bind_some, Nat.psub_eq_sub coversLast,
          Nat.psub_eq_sub coversBoth]
        rfl

/-- A call of the compress sweep agrees with its checked form. -/
theorem Consistent.checkedCompressStep_eq
    (admits : ∀ count rank band, policy.admits count rank band → allowed count rank band)
    (consistent : summary.Consistent allowed merged passed coming) :
    summary.checkedCompressStep policy = (summary.compressStep policy).toOption := by
  rw [checkedCompressStep, Summary.compressStep]
  split
  · rfl
  · rw [consistent.checkedSweepStart_eq]
    apply consistent.sweepStart.toOption_bind
    intro start stands
    cases start with
    | none => rfl
    | some sweep =>
      exact consistent.toCore.checkedRetreat_eq admits consistent.passing (stands sweep rfl) _

/-- A call of both sweeps agrees with its checked form. -/
theorem Consistent.checkedWork_eq
    (admits : ∀ count rank band, policy.admits count rank band → allowed count rank band)
    (consistent : summary.Consistent allowed merged passed coming) (waiting : summary.staged ≠ 0) :
    summary.checkedWork policy = (summary.work policy).answer? := by
  rw [checkedWork, consistent.checkedInsertStep_eq, Traced.answer?, Traced.answer?, Summary.work,
    Traced.outcome_bind]
  apply (consistent.insertStep policy waiting).toOption_bind
  rintro inserted ⟨merged', passed', coming', further, -⟩
  exact further.checkedCompressStep_eq admits

/-- Settling agrees with its checked form. -/
theorem Consistent.checkedSettle_eq
    (admits : ∀ count rank band, policy.admits count rank band → allowed count rank band)
    (consistent : summary.Consistent allowed merged passed coming) (rounds : Nat) :
    checkedSettle policy rounds summary = (Summary.settle policy rounds summary).answer? := by
  induction rounds generalizing summary merged passed coming with
  | zero => rfl
  | succ rounds recursion =>
    by_cases none : summary.staged = 0
    · have drained := staged_eq_zero_iff.mp none
      rw [checkedSettle, Summary.settle, if_pos drained, if_pos drained]
      rfl
    · rw [checkedSettle, if_neg (staged_eq_zero_iff.not.mp none), settle_succ rounds none,
        Summary.round, bind_assoc, Traced.answer?, Traced.answer?, Traced.outcome_bind]
      apply (consistent.startPass none).toOption_bind
      rintro started ⟨passed', coming', ready, same, -⟩
      have waiting : started.staged ≠ 0 := same ▸ none
      rw [ready.checkedWork_eq admits waiting, Traced.answer?, Traced.outcome_bind]
      apply (ready.work admits waiting).toOption_bind
      rintro worked ⟨merged', passed'', coming'', further, -⟩
      exact recursion further

/-- A call agrees with its checked form. -/
theorem Accounts.checkedCall_eq {values : Multiset Binary64}
    (accounts : summary.Accounts allowed values) (step : Policy × Call)
    (admits : ∀ count rank band, step.1.admits count rank band → allowed count rank band) :
    summary.checkedCall step = (summary.call step).answer? := by
  obtain ⟨merged, passed, coming, consistent, -⟩ := accounts
  obtain ⟨policy, call⟩ := step
  cases call with
  | add value =>
    show ((summary.stage value).answer? >>= _) = (summary.add policy value).answer?
    rw [Summary.add, Traced.answer?, Traced.answer?, Traced.outcome_bind]
    apply (consistent.stage value).toOption_bind
    rintro held ⟨still, staged⟩
    exact still.checkedWork_eq admits (staged ▸ Multiset.cons_ne_zero)
  | flush => exact consistent.checkedSettle_eq admits _

/-- A run agrees with its checked form. -/
theorem checkedRun_eq (calls : List (Policy × Call)) : checkedRun calls = (run calls).answer? := by
  induction calls using List.reverseRecOn with
  | nil => rfl
  | append_singleton calls step recursion =>
    have accounts : Answers (run calls).outcome (Accounts (fun _ _ _ => True) (added calls)) :=
      accounts_run calls fun _ _ _ _ _ _ => trivial
    have split : checkedRun (calls ++ [step]) = checkedRun calls >>= (checkedCall · step) := by
      simp [checkedRun, List.foldlM_append]
    rw [split, recursion, run_append_singleton, Traced.answer?, Traced.answer?,
      Traced.outcome_bind]
    apply accounts.toOption_bind
    intro summary accounts
    exact accounts.checkedCall_eq step fun _ _ _ _ => trivial

/-- A compress sweep never stands at the tail. -/
theorem lastSlot_ne_of_standsIn {sweep : Sweep} {entries : List Entry}
    (stands : sweep.StandsIn entries) (nodup : (slotsOf entries).Nodup) :
    lastSlot none entries ≠ some sweep.slot := by
  obtain ⟨earlier, sample, later, rfl, nonempty, -⟩ := stands
  rw [lastSlot_append, lastSlot_cons, lastSlot_eq_of_ne_nil nonempty]
  intro last
  rw [slotsOf_append, slotsOf_cons, List.nodup_append, List.nodup_cons] at nodup
  exact nodup.2.1.1 (mem_slotsOf_of_lastSlot last)

/-- Whatever is merged and however the cursors move, a run answers what its checked form
answers: no slot without a node is looked at or written to, and no difference of counts or
ranks goes below zero. Between the calls both cursors are at linked nodes, and the compress
cursor is not at the last of them. -/
theorem safety_of_run (calls : List (Policy × Call)) :
    ∃ summary, (run calls).outcome = .ok summary ∧ checkedRun calls = some summary ∧
      (∀ slot, summary.insertCursor = some slot → slot ∈ slotsOf summary.samples.entries) ∧
      ∀ sweep, summary.compressCursor = some sweep →
        sweep.slot ∈ slotsOf summary.samples.entries ∧ summary.samples.tail ≠ some sweep.slot := by
  obtain ⟨summary, merged, passed, coming, answered, consistent, -⟩ := consistent_run calls
  have represents := consistent.represents
  have checked : checkedRun calls = some summary := by
    rw [checkedRun_eq, Traced.answer?, answered]
    rfl
  refine ⟨summary, answered, checked, ?_, ?_⟩
  · intro slot underway
    have first := mem_slotsOf_of_firstSlot (consistent.passing.underway slot underway)
    rw [represents.entries_eq, slotsOf_append]
    exact List.mem_append_right _ first
  · intro sweep standing
    have stands := consistent.sweeping sweep standing
    rw [represents.entries_eq, represents.tail]
    refine ⟨?_, lastSlot_ne_of_standsIn stands represents.owns.nodup⟩
    obtain ⟨earlier, sample, later, split, -⟩ := stands
    simp [split]

end Telemetry.Quantile.Summary
