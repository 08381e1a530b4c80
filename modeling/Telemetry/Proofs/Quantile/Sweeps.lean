/-
# Sweeps over a summary

A call of the insert sweep either moves on, leaving what is behind alone, or ends the
pass, which makes what was behind the next pass. A call of the compress sweep touches no
staged value. Both always answer, and neither gains nor loses a value.
-/

import Telemetry.Proofs.Quantile.Changes

namespace Telemetry.Quantile.Summary

open Sweep (StandsIn)

variable {allowed : (count rank band : Nat) → Prop} {merged : Multiset Binary64}
  {passed coming : List Entry} {entry : Entry} {summary : Summary} {value : Binary64}

/-- The nodes that a pass has still to meet. An empty list counts for more than the list
of one sample that the first value makes of it. -/
def toMeet (coming : List Entry) : Nat :=
  if coming = [] then 2 else coming.length

/-- What a call of the insert sweep does to the pass: it goes on, past a number of nodes
at least, or it ends. -/
inductive Progress (nodes : Nat) (summary : Summary) (coming : List Entry) (changed : Summary)
    (coming' : List Entry) : Prop
  | underway (behind : changed.behind.keys = summary.behind.keys)
      (nearer : toMeet coming' + nodes ≤ toMeet coming)
      (total : changed.samples.length + changed.ahead.size ≤
        summary.samples.length + summary.ahead.size)
  | ended (ahead : changed.ahead.keys = summary.behind.keys) (behind : changed.behind.keys = 0)
      (total : toMeet coming' ≤ summary.samples.length + summary.ahead.size)

/-- A call leads to a summary of the same values that is further in the pass. -/
def Proceeds (allowed : (count rank band : Nat) → Prop) (merged : Multiset Binary64)
    (nodes : Nat) (summary : Summary) (coming : List Entry) (changed : Summary) : Prop :=
  ∃ merged' passed' coming', changed.Consistent allowed merged' passed' coming' ∧
    merged' + changed.staged = merged + summary.staged ∧
    Progress nodes summary coming changed coming'

@[simp] theorem toMeet_cons (entry : Entry) (coming : List Entry) :
    toMeet (entry :: coming) = coming.length + 1 :=
  rfl

section Transport

variable {nodes : Nat} {coming' added : List Entry} {values : List Binary64}
  {met changed : Summary}

/-- What was merged before a call counts as the work of that call. -/
theorem Progress.of_merges (core : summary.Core allowed merged passed coming)
    (merges : Merges allowed merged passed coming summary values added met)
    {start : List Entry} (progress : Progress nodes met start changed coming') :
    Progress nodes summary start changed coming' := by
  have total := merges.total_eq core
  have behind := congrArg PagedHeap.keys merges.behind
  cases progress with
  | underway same nearer bounded => exact .underway (same.trans behind) nearer (total ▸ bounded)
  | ended ahead cleared bounded => exact .ended (ahead.trans behind) cleared (total ▸ bounded)

/-- One more entry that was passed is one more node. -/
theorem Progress.pass {next : Entry} (entry : Entry)
    (progress : Progress nodes summary (next :: coming) changed coming') :
    Progress (nodes + 1) summary (entry :: next :: coming) changed coming' := by
  cases progress with
  | underway same nearer bounded =>
    refine .underway same ?_ bounded
    rw [toMeet_cons] at nearer ⊢
    exact Nat.succ_le_succ nearer
  | ended ahead cleared bounded => exact .ended ahead cleared bounded

theorem Proceeds.of_merges (core : summary.Core allowed merged passed coming)
    (merges : Merges allowed merged passed coming summary values added met)
    {start : List Entry} (proceeds : Proceeds allowed (↑values + merged) nodes met start changed) :
    Proceeds allowed merged nodes summary start changed := by
  obtain ⟨merged', passed', coming', consistent, same, progress⟩ := proceeds
  exact ⟨merged', passed', coming', consistent, same.trans merges.staged_eq,
    progress.of_merges core merges⟩

theorem Proceeds.pass {next : Entry} (entry : Entry)
    (proceeds : Proceeds allowed merged nodes summary (next :: coming) changed) :
    Proceeds allowed merged (nodes + 1) summary (entry :: next :: coming) changed := by
  obtain ⟨merged', passed', coming', consistent, same, progress⟩ := proceeds
  exact ⟨merged', passed', coming', consistent, same, progress.pass entry⟩

end Transport

/-- Once nothing staged is below the entry at the cut, the entry has been passed. -/
theorem Core.pass (core : summary.Core allowed merged passed (entry :: coming))
    (notBelow : ∀ waiting ∈ summary.ahead.keys, entry.2.value ≤ waiting) :
    summary.Core allowed merged (passed ++ [entry]) coming := by
  have shape := List.append_cons passed entry coming
  refine ⟨shape ▸ core.represents, shape ▸ core.grown, shape ▸ core.count, core.aheadHeap,
    core.behindHeap, ?_⟩
  intro waiting staged
  rw [forall_mem_samplesOf_append_singleton]
  exact ⟨core.ordered waiting staged, notBelow waiting staged⟩

/-- The cut can always be put back to the front. -/
theorem Core.rewind (core : summary.Core allowed merged passed coming) :
    summary.Core allowed merged [] (passed ++ coming) :=
  { core with ordered := by simp }

theorem joins_insertBefore (coming : List Entry) (entry : Entry) :
    Joins allowed (entry :: coming) (· ≤ entry.2.value) fun summary value =>
      liftM (summary.insertBefore entry.1 (entry.2.width + entry.2.delta - 1) value) :=
  fun _ _ _ _ core sweeping above below least => core.insertBefore sweeping above below least

theorem joins_pushBack :
    Joins allowed [] (fun _ => True) fun summary value => pure (summary.pushBack value) :=
  fun _ _ _ _ core sweeping above _ least => answers_ok (core.pushBack sweeping above least)

/-- A pass ends once the heap ahead is merged: every value in it is a sample more. -/
theorem Merges.endPass {values : List Binary64} {added : List Entry} {changed : Summary}
    (merges : Merges allowed merged passed [] summary values added changed)
    (core : summary.Core allowed merged passed []) (cleared : changed.ahead.keys = 0)
    (nonempty : passed ≠ []) (nodes : Nat) (start : List Entry) :
    Answers changed.endPass.outcome (Proceeds allowed merged nodes summary start) := by
  apply (merges.core.endPass merges.sweeping cleared).mono
  rintro final ⟨consistent, ahead, behind⟩
  refine ⟨_, [], (passed ++ added) ++ [], consistent, ?_, .ended ?_ ?_ ?_⟩
  · rw [← merges.staged_eq, staged, staged, ahead, behind, Multiset.add_comm changed.behind.keys]
  · rw [ahead, merges.behind]
  · rw [behind, cleared]
  · have total := merges.total_eq core
    have length := merges.core.represents.length_eq
    have empty := PagedHeap.keys_eq_zero_iff.mp cleared
    have several : (passed ++ added) ++ [] ≠ [] := by simp [nonempty]
    rw [toMeet, if_neg several]
    omega

/-- Past the tail everything left of the heap ahead is merged, and the pass ends. -/
theorem Core.finish (core : summary.Core allowed merged passed [])
    (sweeping : summary.Sweeping (passed ++ [])) (nonempty : passed ≠ []) (nodes : Nat)
    (start : List Entry) :
    Answers (do
        let (values, summary) ← summary.takeDue fun _ => true
        (values.foldl Summary.pushBack summary).endPass : Traced SlotFault Summary).outcome
      (Proceeds allowed merged nodes summary start) := by
  have joined := core.joinDue joins_pushBack sweeping (fun _ => true) (fun _ _ _ _ => rfl)
    (fun _ _ => trivial)
  have whole := joined.bind fun changed drained => by
    obtain ⟨values, added, merges, noneDue⟩ := drained
    have cleared : changed.ahead.keys = 0 :=
      Multiset.eq_zero_of_forall_notMem fun waiting left => noneDue waiting left rfl
    exact merges.endPass core cleared nonempty nodes start
  simp only [List.foldlM_pure, Traced.outcome_pure, bind_assoc] at whole
  rw [Traced.outcome_bind]
  exact whole

/-- Everything that is due at an entry goes before it, and the entry has then been passed. -/
theorem Core.meet (core : summary.Core allowed merged passed (entry :: coming))
    (sweeping : summary.Sweeping (passed ++ entry :: coming)) :
    Answers ((summary.takeDue fun value => value.compare entry.2.value != .gt).outcome >>=
        fun taken => (taken.1.foldlM (fun summary value =>
          (liftM (summary.insertBefore entry.1 (entry.2.width + entry.2.delta - 1) value) :
            Traced SlotFault Summary)) taken.2).outcome)
      fun changed => ∃ values added,
        Merges allowed merged passed (entry :: coming) summary values added changed ∧
          changed.Core allowed (↑values + merged) (passed ++ added ++ [entry]) coming ∧
          changed.Sweeping ((passed ++ added ++ [entry]) ++ coming) := by
  have due (value : Binary64) : (value.compare entry.2.value != .gt) = true ↔
      value ≤ entry.2.value := by
    rw [bne_iff_ne, ne_eq, Binary64.compare_eq_gt_iff, not_not]
  apply (core.joinDue (joins_insertBefore coming entry) sweeping
    (fun value => value.compare entry.2.value != .gt)
    (fun first second atMost isDue => (due first).mpr (atMost.trans ((due second).mp isDue)))
    (fun value isDue => (due value).mp isDue)).mono
  rintro changed ⟨values, added, merges, notDue⟩
  have standing := merges.sweeping
  rw [List.append_cons] at standing
  refine ⟨values, added, merges, merges.core.pass ?_, standing⟩
  intro waiting left
  exact le_of_not_ge fun atMost => notDue waiting left ((due waiting).mpr atMost)

/-- A sweep over some nodes merges what is due on the way, and at the tail all the rest. -/
theorem Core.advance (core : summary.Core allowed merged passed (entry :: coming))
    (sweeping : summary.Sweeping (passed ++ entry :: coming)) (steps : Nat) :
    Answers (Summary.advance steps entry.1 summary).outcome
      (Proceeds allowed merged steps summary (entry :: coming)) := by
  induction steps generalizing summary merged passed entry coming with
  | zero =>
    refine answers_ok ⟨merged, passed, entry :: coming, ?_, rfl,
      .underway rfl (Nat.le_refl _) (Nat.le_refl _)⟩
    constructor
    · exact { core with }
    · exact sweeping
    · exact ⟨fun slot underway => underway, fun resting => absurd resting (by simp)⟩
  | succ steps recursion =>
    rw [Summary.advance]
    simp only [Traced.outcome_bind, Traced.outcome_lift]
    rw [core.represents.node, answers_ok_bind, ← bind_assoc]
    apply (core.meet sweeping).bind
    rintro changed ⟨values, added, merges, beyond, standing⟩
    cases coming with
    | nil =>
      apply (beyond.finish standing (by simp) (steps + 1) [entry]).mono
      intro final proceeds
      exact proceeds.of_merges core merges
    | cons next coming =>
      apply (recursion beyond standing).mono
      intro final proceeds
      exact (proceeds.of_merges core merges).pass entry

theorem Proceeds.of_le {nodes fewer : Nat} {changed : Summary} (atMost : fewer ≤ nodes)
    (proceeds : Proceeds allowed merged nodes summary coming changed) :
    Proceeds allowed merged fewer summary coming changed := by
  obtain ⟨merged', passed', coming', consistent, same, progress⟩ := proceeds
  refine ⟨merged', passed', coming', consistent, same, ?_⟩
  cases progress with
  | underway same nearer bounded =>
    exact .underway same (Nat.le_trans (Nat.add_le_add_left atMost _) nearer) bounded
  | ended ahead cleared bounded => exact .ended ahead cleared bounded

/-- Where the insert sweep goes on is the first entry that is still to come. -/
theorem Consistent.cursor_eq (consistent : summary.Consistent allowed merged passed coming) :
    summary.insertCursor.or summary.samples.head = firstSlot none coming := by
  cases cursor : summary.insertCursor with
  | some slot =>
    rw [Option.some_or]
    exact (consistent.passing.underway slot cursor).symm
  | none =>
    obtain ⟨rfl, -⟩ := consistent.passing.resting cursor
    rw [Option.none_or]
    exact consistent.represents.head

/-- The least staged value of all makes a list where there was none. -/
theorem Consistent.start (consistent : summary.Consistent allowed merged [] [])
    (resting : summary.insertCursor = none) {rest : Staging} (isHeap : rest.IsHeap)
    (split : value ::ₘ rest.keys = summary.ahead.keys)
    (least : ∀ waiting ∈ rest.keys, value ≤ waiting) :
    Proceeds allowed merged 1 summary [] (Summary.pushBack { summary with ahead := rest } value) := by
  have cleared := (consistent.passing.resting resting).2
  have core : Core allowed merged [] [] { summary with ahead := rest } :=
    { consistent.toCore with aheadHeap := isHeap, ordered := by simp }
  obtain ⟨added, -, first, standing, ahead, behind⟩ :=
    core.pushBack consistent.sweeping (by simp) least
  refine ⟨value ::ₘ merged, [], [added], ?_, ?_, .underway ?_ ?_ ?_⟩
  · constructor
    · exact first.rewind
    · exact standing
    · exact ⟨fun slot underway => absurd (resting.symm.trans underway) (by simp),
        fun _ => ⟨rfl, behind ▸ cleared⟩⟩
  · rw [staged, staged, ahead, behind, ← split, Multiset.cons_add, Multiset.cons_add,
      Multiset.add_cons]
  · rw [behind]
  · exact Nat.le_refl 2
  · have length := first.represents.length_eq
    have size := congrArg Multiset.card split
    rw [Multiset.card_cons, PagedHeap.card_keys, PagedHeap.card_keys] at size
    rw [ahead, length, ← size]
    simp only [List.nil_append, List.append_nil, List.length_singleton]
    omega

/-- As long as anything is staged, a call of the insert sweep gets further. -/
theorem Consistent.insertStep (consistent : summary.Consistent allowed merged passed coming)
    (policy : Policy) (waiting : summary.staged ≠ 0) :
    Answers (summary.insertStep policy).outcome (Proceeds allowed merged 1 summary coming) := by
  rw [Summary.insertStep, consistent.cursor_eq]
  cases coming with
  | cons entry coming =>
    have advanced := consistent.toCore.advance consistent.sweeping
      (policy.steps summary.samples.length)
    exact advanced.mono fun changed proceeds => proceeds.of_le (Nat.le_max_right _ _)
  | nil =>
    have resting : summary.insertCursor = none := by
      cases cursor : summary.insertCursor with
      | none => rfl
      | some slot => exact absurd (consistent.passing.underway slot cursor) (by simp)
    obtain ⟨rfl, cleared⟩ := consistent.passing.resting resting
    have nonempty : 0 < summary.ahead.size := by
      refine Nat.pos_of_ne_zero fun none => waiting ?_
      rw [staged, cleared, PagedHeap.keys_eq_zero_iff.mpr none]
      rfl
    have popped := PagedHeap.cons_keys_popMin summary.ahead nonempty
    have least : ∀ left ∈ (summary.ahead.popMin nonempty).2.keys,
        (summary.ahead.popMin nonempty).1.1 ≤ left := by
      intro left member
      have held : left ∈ summary.ahead.keys := popped ▸ Multiset.mem_cons_of_mem member
      obtain ⟨entry, entryHeld, rfl⟩ := PagedHeap.mem_keys.mp held
      exact consistent.aheadHeap.popMin_isLE nonempty entryHeld
    rw [firstSlot_nil]
    simp only [dif_pos nonempty]
    exact ⟨_, rfl, consistent.start resting (consistent.aheadHeap.popMin nonempty) popped least⟩

/-- What a call of the compress sweep leads to: no more samples than before, for the same
values, and nothing staged has moved. -/
def Folds (allowed : (count rank band : Nat) → Prop) (merged : Multiset Binary64)
    (summary : Summary) (coming : List Entry) (changed : Summary) : Prop :=
  ∃ passed' coming', changed.Consistent allowed merged passed' coming' ∧
    toMeet coming' ≤ toMeet coming ∧ changed.samples.length ≤ summary.samples.length ∧
    changed.ahead = summary.ahead ∧ changed.behind = summary.behind

theorem toMeet_le {coming' : List Entry} (fewer : coming'.length ≤ coming.length)
    (nonempty : coming' = [] → coming = []) : toMeet coming' ≤ toMeet coming := by
  rw [toMeet, toMeet]
  by_cases empty : coming' = []
  · rw [if_pos empty, if_pos (nonempty empty)]
  · rw [if_neg empty]
    split
    · simp_all
    · exact fewer

/-- What was folded before a call counts as the work of that call. -/
theorem Folds.of_fold {middle changed : Summary} {coming' : List Entry}
    (nearer : toMeet coming' ≤ toMeet coming)
    (fewer : middle.samples.length ≤ summary.samples.length)
    (ahead : middle.ahead = summary.ahead) (behind : middle.behind = summary.behind)
    (folds : Folds allowed merged middle coming' changed) :
    Folds allowed merged summary coming changed := by
  obtain ⟨passed'', coming'', consistent, closer, less, sameAhead, sameBehind⟩ := folds
  exact ⟨passed'', coming'', consistent, closer.trans nearer, less.trans fewer,
    sameAhead.trans ahead, sameBehind.trans behind⟩

/-- Only the compress cursor changes when a backward sweep stops. -/
theorem Core.stop (core : summary.Core allowed merged passed coming)
    (passing : summary.Passing passed coming) (cursor : Option Sweep)
    (stands : ∀ sweep, cursor = some sweep → sweep.StandsIn (passed ++ coming)) :
    Folds allowed merged summary coming { summary with compressCursor := cursor } := by
  refine ⟨passed, coming, ?_, Nat.le_refl _, Nat.le_refl _, rfl, rfl⟩
  constructor
  · exact { core with }
  · exact stands
  · exact ⟨passing.underway, passing.resting⟩

/-- Fold the sample that a sweep stands at into the next entry, where a policy admits it. -/
def foldOne (policy : Policy) (sweep : Sweep) (sample : Sample) (next : Entry)
    (summary : Summary) : Except SlotFault Summary :=
  let band := sample.width + next.2.width + next.2.delta
  if policy.admits summary.count (sweep.rankBefore + band) band then
    summary.absorb sweep.slot next.1 (next.2.width + sample.width)
  else pure summary

/-- Between the head and the tail a backward sweep does one thing after another: it folds
the sample where that is admitted, and goes on from the sample before. -/
theorem retreat_succ {policy : Policy} {sweep : Sweep} {earlier later : List Entry}
    {before next : Entry} {sample : Sample} (steps : Nat)
    (represents : summary.samples.Represents
      (earlier ++ [before] ++ (sweep.slot, sample) :: next :: later)) :
    Summary.retreat policy (steps + 1) sweep summary =
      summary.foldOne policy sweep sample next >>= fun folded =>
        folded.samples.node before.1 >>= fun node =>
          Summary.retreat policy steps ⟨before.1, sweep.rankBefore - node.width⟩ folded := by
  have node := represents.node
  have previous : lastSlot none (earlier ++ [before]) = some before.1 := lastSlot_append ..
  rw [List.append_cons] at represents
  have successor := represents.node
  rw [Summary.retreat, foldOne]
  simp only [bind, Except.bind, node, successor, previous, firstSlot_cons]
  split <;> rfl

/-- One step of a backward sweep folds only what is allowed, and leaves the sample before
where it was. -/
theorem Core.foldOne {policy : Policy} {sweep : Sweep} {earlier later : List Entry}
    {before next : Entry} {sample : Sample}
    (admits : ∀ count rank band, policy.admits count rank band → allowed count rank band)
    (core : summary.Core allowed merged passed coming) (passing : summary.Passing passed coming)
    (split : passed ++ coming = earlier ++ [before] ++ (sweep.slot, sample) :: next :: later)
    (rank : sweep.rankBefore = weight (samplesOf (earlier ++ [before]))) :
    Answers (summary.foldOne policy sweep sample next) fun folded =>
      ∃ passed' coming' rest, rest ≠ [] ∧
        passed' ++ coming' = earlier ++ before :: rest ∧
        folded.Core allowed merged passed' coming' ∧ folded.Passing passed' coming' ∧
        toMeet coming' ≤ toMeet coming ∧ folded.samples.length ≤ summary.samples.length ∧
        folded.ahead = summary.ahead ∧ folded.behind = summary.behind := by
  have shape := List.append_cons earlier before
  rw [Summary.foldOne]
  by_cases admitted : policy.admits summary.count
      (sweep.rankBefore + (sample.width + next.2.width + next.2.delta))
      (sample.width + next.2.width + next.2.delta)
  · rw [if_pos admitted]
    have allowing := admits _ _ _ admitted
    rw [core.count, rank, split] at allowing
    apply (core.absorb passing split (by simp) allowing).mono
    rintro folded ⟨passed', coming', cut, fewer, nonempty, core', passing', ahead, behind⟩
    have shorter : folded.samples.length ≤ summary.samples.length := by
      rw [core'.represents.length_eq, core.represents.length_eq, cut, split]
      simp
    exact ⟨passed', coming', _, by simp, cut.trans (shape _).symm, core', passing',
      toMeet_le fewer nonempty, shorter, ahead, behind⟩
  · rw [if_neg admitted]
    exact answers_ok ⟨passed, coming, _, by simp, split.trans (shape _).symm, core, passing,
      Nat.le_refl _, Nat.le_refl _, rfl, rfl⟩

/-- A backward sweep over some nodes folds only what is allowed, and ends at the head or
stands again at a sample that is not the last. -/
theorem Core.retreat {policy : Policy} {sweep : Sweep}
    (admits : ∀ count rank band, policy.admits count rank band → allowed count rank band)
    (core : summary.Core allowed merged passed coming) (passing : summary.Passing passed coming)
    (stands : sweep.StandsIn (passed ++ coming)) (steps : Nat) :
    Answers (Summary.retreat policy steps sweep summary) (Folds allowed merged summary coming) := by
  induction steps generalizing summary sweep passed coming with
  | zero =>
    apply answers_ok
    apply core.stop passing (some sweep)
    rintro _ ⟨⟩
    exact stands
  | succ steps recursion =>
    obtain ⟨earlier, sample, later, split, nonempty, rank⟩ := stands
    obtain ⟨next, later, rfl⟩ := List.exists_cons_of_ne_nil nonempty
    have represents := core.represents
    rw [split] at represents
    cases earlier using List.reverseRecOn with
    | nil =>
      have ended : Summary.retreat policy (steps + 1) sweep summary =
          .ok { summary with compressCursor := none } := by
        simp only [Summary.retreat, represents.node, bind, Except.bind]
        rfl
      rw [ended]
      exact answers_ok (core.stop passing none (by simp))
    | append_singleton earlier before =>
      rw [retreat_succ steps represents]
      apply (core.foldOne admits passing split rank).bind
      rintro folded ⟨passed', coming', rest, nonempty, cut, core', passing', nearer, fewer,
        ahead, behind⟩
      have stands := (StandsIn.back rank nonempty).2
      rw [← cut] at stands
      have represents' := core'.represents
      rw [cut] at represents'
      rw [represents'.node, answers_ok_bind]
      apply (recursion core' passing' stands).mono
      intro changed folds
      exact folds.of_fold nearer fewer ahead behind

/-- A new backward sweep starts where it says. -/
theorem Consistent.sweepStart (consistent : summary.Consistent allowed merged passed coming) :
    Answers summary.sweepStart fun start =>
      ∀ sweep, start = some sweep → sweep.StandsIn (passed ++ coming) := by
  have represents := consistent.represents
  have tail := represents.tail
  have count := consistent.count
  rw [Summary.sweepStart]
  cases cursor : summary.compressCursor with
  | some sweep =>
    apply answers_ok
    rintro _ ⟨⟩
    exact consistent.sweeping sweep cursor
  | none =>
    generalize passed ++ coming = entries at represents tail count
    cases entries using List.reverseRecOn with
    | nil =>
      rw [tail]
      exact answers_ok (by simp)
    | append_singleton front last =>
      rw [lastSlot_append, lastSlot_cons, lastSlot_nil] at tail
      rw [tail]
      simp only [represents.node, bind, Except.bind]
      cases front using List.reverseRecOn with
      | nil => exact answers_ok (by simp)
      | append_singleton front previous =>
        rw [List.append_assoc] at represents
        simp only [lastSlot_append, lastSlot_cons, lastSlot_nil, represents.node]
        apply answers_ok
        rintro _ ⟨⟩
        refine ⟨front, previous.2, [last], by simp, by simp, ?_⟩
        rw [count]
        simp only [samplesOf_append, samplesOf_cons, samplesOf_nil, weight_append, weight_cons,
          weight_nil]
        omega

/-- A call of the compress sweep folds only what its policy admits. -/
theorem Consistent.compressStep {policy : Policy}
    (admits : ∀ count rank band, policy.admits count rank band → allowed count rank band)
    (consistent : summary.Consistent allowed merged passed coming) :
    Answers (summary.compressStep policy) (Folds allowed merged summary coming) := by
  have unchanged : Folds allowed merged summary coming summary :=
    ⟨passed, coming, consistent, Nat.le_refl _, Nat.le_refl _, rfl, rfl⟩
  rw [Summary.compressStep]
  split
  · exact answers_ok unchanged
  · apply consistent.sweepStart.bind
    intro start stands
    cases start with
    | none => exact answers_ok unchanged
    | some sweep =>
      exact consistent.toCore.retreat admits consistent.passing (stands sweep rfl) _

/-- As long as anything is staged, a call of both sweeps gets further in the pass. -/
theorem Consistent.work {policy : Policy}
    (admits : ∀ count rank band, policy.admits count rank band → allowed count rank band)
    (consistent : summary.Consistent allowed merged passed coming) (waiting : summary.staged ≠ 0) :
    Answers (summary.work policy).outcome (Proceeds allowed merged 1 summary coming) := by
  rw [Summary.work, Traced.outcome_bind]
  apply (consistent.insertStep policy waiting).bind
  rintro inserted ⟨merged', passed', coming', further, same, progress⟩
  apply (further.compressStep admits).mono
  rintro changed ⟨passed'', coming'', final, nearer, fewer, ahead, behind⟩
  refine ⟨merged', passed'', coming'', final, ?_, ?_⟩
  · rw [staged, ahead, behind]
    exact same
  · cases progress with
    | underway sameBehind closer bounded =>
      refine .underway (behind ▸ sameBehind) ((Nat.add_le_add_right nearer 1).trans closer) ?_
      rw [ahead]
      exact (Nat.add_le_add_right fewer _).trans bounded
    | ended newAhead cleared bounded =>
      exact .ended (ahead ▸ newAhead) (behind ▸ cleared) (nearer.trans bounded)

end Telemetry.Quantile.Summary
