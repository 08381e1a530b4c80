/-
# Elementary changes of a summary

Each change that a sweep makes answers and keeps what holds of the entries: taking staged
values out, adding a sample at the cut or at the end, ending a pass, folding a sample into
its successor, and staging a value.
-/

import Telemetry.Proofs.Answers
import Telemetry.Proofs.Quantile.Invariant

namespace Telemetry.Quantile.Summary

variable {allowed : (count rank band : Nat) → Prop} {merged : Multiset Binary64}
  {passed coming : List Entry} {entry : Entry} {summary : Summary} {value : Binary64}

section Order

variable {list : SampleList} {earlier later : List Entry} {target : Slot} {sample : Sample}

/-- In a sorted list, walking from an entry reaches the target exactly if it is that entry
or a later one. Only equal values leave the walk undecided. -/
theorem reaches_eq (represents : list.Represents (earlier ++ later))
    (sorted : (samplesOf (earlier ++ later)).Pairwise (·.value ≤ ·.value))
    (member : (target, sample) ∈ earlier ++ later) {bound : Nat}
    (enough : later.length ≤ bound) :
    reaches list target sample.value bound (firstSlot none later) =
      .ok (decide (target ∈ slotsOf later)) := by
  induction later generalizing earlier bound with
  | nil => cases bound <;> rfl
  | cons entry later recursion =>
    obtain ⟨bound, rfl⟩ := Nat.exists_eq_add_of_le' (Nat.le_trans (Nat.le_add_left 1 _) enough)
    by_cases same : entry.1 = target
    · simp [reaches, same, pure, Except.pure]
    have ordered := sorted
    rw [samplesOf_append, List.pairwise_append, samplesOf_cons, List.pairwise_cons] at ordered
    obtain ⟨-, ⟨onward, -⟩, across⟩ := ordered
    have node : list.node entry.1 = _ := represents.node
    rw [firstSlot_cons, reaches, if_neg same, node]
    cases comparison : entry.2.value.compare sample.value with
    | lt =>
      have less : entry.2.value < sample.value := comparison
      have absent : (target, sample) ∉ earlier := by
        intro before
        have atMost := across sample (List.mem_map_of_mem before) entry.2 List.mem_cons_self
        exact absurd less (not_lt_of_ge atMost)
      have present : (target, sample) ∈ entry :: later :=
        (List.mem_append.mp member).resolve_left absent
      have reached : target ∈ slotsOf (entry :: later) := List.mem_map_of_mem present
      rw [decide_eq_true reached]
      simp only [bind, Except.bind, comparison]
      rfl
    | gt =>
      have greater : ¬ entry.2.value ≤ sample.value := Binary64.compare_eq_gt_iff.mp comparison
      have unreached : target ∉ slotsOf (entry :: later) := by
        intro reached
        have nodup := represents.owns.nodup
        rw [slotsOf_append, List.nodup_append] at nodup
        have present : (target, sample) ∈ entry :: later := by
          apply (List.mem_append.mp member).resolve_left
          intro before
          exact nodup.2.2 target (List.mem_map_of_mem before) target reached rfl
        rcases List.mem_cons.mp present with rfl | after
        · exact same rfl
        · exact greater (onward sample (List.mem_map_of_mem after))
      rw [decide_eq_false unreached]
      simp only [bind, Except.bind, comparison]
      rfl
    | eq =>
      rw [List.append_cons] at represents sorted member
      have rest := recursion represents sorted member (Nat.le_of_succ_le_succ enough)
      have skipped : (target ∈ slotsOf (entry :: later)) = (target ∈ slotsOf later) := by
        simp [Ne.symm same]
      simp only [bind, Except.bind, comparison, rest, skipped]

/-- Whether an entry stands at or before another is decided rightly. -/
theorem atOrBefore_eq (represents : list.Represents (earlier ++ entry :: later))
    (sorted : (samplesOf (earlier ++ entry :: later)).Pairwise (·.value ≤ ·.value))
    (member : (target, sample) ∈ earlier ++ entry :: later) :
    atOrBefore list entry.1 target = .ok (decide (target ∈ slotsOf (entry :: later))) := by
  obtain ⟨front, back, split⟩ := List.append_of_mem member
  have node := (split ▸ represents).node
  have enough : (entry :: later).length ≤ list.length + 1 := by
    rw [represents.length_eq, List.length_append]
    omega
  simp only [atOrBefore, node, bind, Except.bind]
  exact reaches_eq represents sorted member enough

end Order

/-- Taking out what is due leaves a summary that only lacks the values taken. -/
theorem Core.takeDue (core : summary.Core allowed merged passed coming) (due : Binary64 → Bool)
    (closed : ∀ first second : Binary64, first ≤ second → due second → due first) :
    ∃ values ahead, (summary.takeDue due).outcome = .ok (values, { summary with ahead := ahead }) ∧
      Core allowed merged passed coming { summary with ahead := ahead } ∧
      ↑values + ahead.keys = summary.ahead.keys ∧ values.Pairwise (· ≤ ·) ∧
      (∀ value ∈ values, due value) ∧ (∀ waiting ∈ ahead.keys, ¬ due waiting) ∧
      ∀ value ∈ values, ∀ waiting ∈ ahead.keys, value ≤ waiting := by
  have split := PagedHeap.add_keys_popWhile due summary.ahead
  obtain ⟨sorted, separated⟩ := core.aheadHeap.popWhile_pairwise due
  refine ⟨(summary.ahead.popWhile due).entries.map (·.1), (summary.ahead.popWhile due).rest,
    rfl, ?_, split, List.pairwise_map.mpr sorted, ?_, ?_, ?_⟩
  · refine { core with aheadHeap := core.aheadHeap.popWhile due, ordered := ?_ }
    intro waiting left
    exact core.ordered waiting (split ▸ Multiset.mem_add.mpr (Or.inr left))
  · intro value yielded
    obtain ⟨entry, member, rfl⟩ := List.mem_map.mp yielded
    exact PagedHeap.due_of_mem_popWhile due summary.ahead member
  · intro waiting left
    obtain ⟨entry, member, rfl⟩ := PagedHeap.mem_keys.mp left
    exact core.aheadHeap.not_due_of_mem_rest due closed member
  · intro value yielded waiting left
    obtain ⟨first, firstMember, rfl⟩ := List.mem_map.mp yielded
    obtain ⟨second, secondMember, rfl⟩ := PagedHeap.mem_keys.mp left
    exact separated first firstMember second secondMember

/-- What merging a value at the cut leads to: it is the last sample passed, and the heaps
are as they were. -/
def Joined (allowed : (count rank band : Nat) → Prop) (merged : Multiset Binary64)
    (passed coming : List Entry) (summary : Summary) (value : Binary64) (changed : Summary) :
    Prop :=
  ∃ added : Entry, added.2.value = value ∧
    changed.Core allowed (value ::ₘ merged) (passed ++ [added]) coming ∧
    changed.Sweeping ((passed ++ [added]) ++ coming) ∧
    changed.ahead = summary.ahead ∧ changed.behind = summary.behind

/-- A list with one more sample at the cut, whose value was merged, keeps what holds of
the entries. -/
theorem Core.joined {list : SampleList} {slot : Slot} {sample : Sample}
    (core : summary.Core allowed merged passed coming)
    (represents : list.Represents (passed ++ (slot, sample) :: coming))
    (grown : Grown allowed (sample.value ::ₘ merged)
      (samplesOf (passed ++ (slot, sample) :: coming)))
    (least : ∀ waiting ∈ summary.ahead.keys, sample.value ≤ waiting) (cursor : Option Sweep) :
    Core allowed (sample.value ::ₘ merged) (passed ++ [(slot, sample)]) coming
      { summary with samples := list, count := summary.count + 1, compressCursor := cursor } := by
  have count : summary.count + 1 = weight (samplesOf (passed ++ (slot, sample) :: coming)) := by
    rw [core.count, core.grown.weight_eq, grown.weight_eq, Multiset.card_cons]
  rw [List.append_cons] at represents grown count
  refine ⟨represents, grown, count, core.aheadHeap, core.behindHeap, ?_⟩
  intro waiting staged
  rw [forall_mem_samplesOf_append_singleton]
  exact ⟨core.ordered waiting staged, least waiting staged⟩

/-- A value that fits at the cut becomes the last sample passed, exactly as wide as itself
and with the room of the sample that it goes before. -/
theorem Core.insertBefore (core : summary.Core allowed merged passed (entry :: coming))
    (sweeping : summary.Sweeping (passed ++ entry :: coming))
    (above : ∀ other ∈ samplesOf passed, other.value ≤ value) (below : value ≤ entry.2.value)
    (least : ∀ waiting ∈ summary.ahead.keys, value ≤ waiting) :
    Answers (summary.insertBefore entry.1 (entry.2.width + entry.2.delta - 1) value)
      (Joined allowed merged passed (entry :: coming) summary value) := by
  obtain ⟨list, slot, inserted, fresh, represents⟩ :=
    core.represents.insertBefore ⟨value, 1, entry.2.width + entry.2.delta - 1⟩
  have nodup := core.represents.owns.nodup
  have grown := core.grown
  rw [samplesOf_append, samplesOf_cons] at grown
  have kept := core.joined represents (by simpa using grown.insert value above below) least
  unfold Summary.insertBefore
  rw [inserted]
  cases cursor : summary.compressCursor with
  | none =>
    have core := kept none
    refine ⟨_, by simp only [bind, Except.bind]; rfl, (slot, _), rfl, core, ?_, rfl, rfl⟩
    intro sweep standing
    cases standing
  | some sweep =>
    have stands := sweeping sweep cursor
    obtain ⟨earlier, held, later, split, -⟩ := id stands
    have member : (sweep.slot, held) ∈ passed ++ entry :: coming := by simp [split]
    have shape := List.append_cons passed
      (slot, (⟨value, 1, entry.2.width + entry.2.delta - 1⟩ : Sample)) (entry :: coming)
    have stillMember : (sweep.slot, held) ∈ (passed ++
        [(slot, ⟨value, 1, entry.2.width + entry.2.delta - 1⟩)]) ++ entry :: coming := by
      rw [List.mem_append] at member
      rw [List.mem_append, List.mem_append]
      exact member.imp_left Or.inl
    have decided := atOrBefore_eq (shape ▸ represents) (kept none).sorted stillMember
    by_cases behind : sweep.slot ∈ slotsOf (entry :: coming)
    · rw [decide_eq_true behind] at decided
      have core := kept (some { sweep with rankBefore := sweep.rankBefore + 1 })
      refine ⟨_, by simp only [bind, Except.bind, decided]; rfl, (slot, _), rfl, core, ?_, rfl, rfl⟩
      intro moved standing
      cases standing
      rw [← shape]
      exact stands.insert_before nodup behind _
    · rw [decide_eq_false behind] at decided
      have core := kept (some sweep)
      refine ⟨_, by simp only [bind, Except.bind, decided]; rfl, (slot, _), rfl, core, ?_, rfl, rfl⟩
      intro moved standing
      cases standing
      rw [← shape]
      exact stands.insert_after behind _

/-- A value at or above all samples becomes the last of them. -/
theorem Core.pushBack (core : summary.Core allowed merged passed [])
    (sweeping : summary.Sweeping (passed ++ []))
    (above : ∀ other ∈ samplesOf passed, other.value ≤ value)
    (least : ∀ waiting ∈ summary.ahead.keys, value ≤ waiting) :
    Joined allowed merged passed [] summary value (summary.pushBack value) := by
  have before := core.represents
  rw [List.append_nil] at before sweeping
  obtain ⟨list, slot, appended, fresh, represents⟩ := before.pushBack ⟨value, 1, 0⟩
  have grown := core.grown
  rw [List.append_nil] at grown
  have joined := core.joined represents (by simpa using grown.append value above) least
    summary.compressCursor
  have changed : summary.pushBack value =
      { summary with samples := list, count := summary.count + 1 } := by
    rw [Summary.pushBack, appended]
  rw [changed]
  refine ⟨(slot, ⟨value, 1, 0⟩), rfl, joined, fun sweep standing => ?_, rfl, rfl⟩
  rw [List.append_nil]
  exact (sweeping sweep standing).append _

/-- What merging values at the cut leads to: as many samples more before it, and only what
is left of the heap ahead. -/
structure Merges (allowed : (count rank band : Nat) → Prop) (merged : Multiset Binary64)
    (passed coming : List Entry) (summary : Summary) (values : List Binary64)
    (added : List Entry) (changed : Summary) : Prop where
  core : changed.Core allowed (↑values + merged) (passed ++ added) coming
  sweeping : changed.Sweeping ((passed ++ added) ++ coming)
  length : added.length = values.length
  ahead : ↑values + changed.ahead.keys = summary.ahead.keys
  behind : changed.behind = summary.behind

namespace Merges

variable {values : List Binary64} {added : List Entry} {changed : Summary}

/-- Merging gains and loses nothing. -/
theorem staged_eq (merges : Merges allowed merged passed coming summary values added changed) :
    ↑values + merged + changed.staged = merged + summary.staged := by
  rw [staged, staged, ← merges.ahead, merges.behind, Multiset.add_comm (↑values) merged,
    Multiset.add_assoc, Multiset.add_assoc]

/-- Every value that leaves the heap is one sample more. -/
theorem total_eq (merges : Merges allowed merged passed coming summary values added changed)
    (core : summary.Core allowed merged passed coming) :
    changed.samples.length + changed.ahead.size = summary.samples.length + summary.ahead.size := by
  have nodes := merges.core.represents.length_eq
  have nodesBefore := core.represents.length_eq
  have keys := congrArg Multiset.card merges.ahead
  simp only [List.length_append, merges.length] at nodes nodesBefore
  simp only [Multiset.card_add, Multiset.coe_card, PagedHeap.card_keys] at keys
  omega

end Merges

/-- What the steps of `joinAll` and of `joinDue` have to do: merge a value that is fit for
the cut. -/
def Joins (allowed : (count rank band : Nat) → Prop) (coming : List Entry)
    (fits : Binary64 → Prop) (join : Summary → Binary64 → Traced SlotFault Summary) : Prop :=
  ∀ (summary : Summary) (merged : Multiset Binary64) (passed : List Entry) (value : Binary64),
    summary.Core allowed merged passed coming → summary.Sweeping (passed ++ coming) →
    (∀ other ∈ samplesOf passed, other.value ≤ value) → fits value →
    (∀ waiting ∈ summary.ahead.keys, value ≤ waiting) →
    Answers (join summary value).outcome (Joined allowed merged passed coming summary value)

section Joining

variable {fits : Binary64 → Prop} {join : Summary → Binary64 → Traced SlotFault Summary}

/-- Values in order, none of them below a sample passed, can be merged one after another
at the cut. -/
theorem Core.joinAll (joins : Joins allowed coming fits join) {values : List Binary64}
    (core : summary.Core allowed merged passed coming)
    (sweeping : summary.Sweeping (passed ++ coming)) (sorted : values.Pairwise (· ≤ ·))
    (above : ∀ value ∈ values, ∀ other ∈ samplesOf passed, other.value ≤ value)
    (fit : ∀ value ∈ values, fits value)
    (least : ∀ value ∈ values, ∀ waiting ∈ summary.ahead.keys, value ≤ waiting) :
    Answers (values.foldlM join summary).outcome fun changed =>
      ∃ added : List Entry, added.length = values.length ∧
        changed.Core allowed (↑values + merged) (passed ++ added) coming ∧
        changed.Sweeping ((passed ++ added) ++ coming) ∧
        changed.ahead = summary.ahead ∧ changed.behind = summary.behind := by
  induction values generalizing summary merged passed with
  | nil => exact answers_ok ⟨[], rfl, by simpa using core, by simpa using sweeping, rfl, rfl⟩
  | cons value later recursion =>
    rw [List.pairwise_cons] at sorted
    rw [List.forall_mem_cons] at above fit least
    rw [List.foldlM_cons, Traced.outcome_bind]
    apply (joins _ _ _ _ core sweeping above.1 fit.1 least.1).bind
    rintro joined ⟨added, rfl, grown, moved, ahead, behind⟩
    have onward : ∀ value ∈ later, ∀ other ∈ samplesOf (passed ++ [added]), other.value ≤ value := by
      intro value member
      rw [forall_mem_samplesOf_append_singleton]
      exact ⟨above.2 value member, sorted.1 value member⟩
    apply (recursion grown moved sorted.2 onward fit.2 (ahead ▸ least.2)).mono
    rintro changed ⟨more, length, final, standing, sameAhead, sameBehind⟩
    have regrouped : (↑later + added.2.value ::ₘ merged : Multiset Binary64) =
        ↑(added.2.value :: later) + merged := by
      rw [← Multiset.cons_coe, Multiset.cons_add, Multiset.add_cons]
    refine ⟨added :: more, by simp [length], ?_, by simpa using standing, sameAhead.trans ahead,
      sameBehind.trans behind⟩
    rw [regrouped] at final
    simpa using final

/-- Everything staged that is due and fit for the cut can be merged there at once. -/
theorem Core.joinDue (joins : Joins allowed coming fits join)
    (core : summary.Core allowed merged passed coming)
    (sweeping : summary.Sweeping (passed ++ coming)) (due : Binary64 → Bool)
    (closed : ∀ first second : Binary64, first ≤ second → due second → due first)
    (fit : ∀ value, due value → fits value) :
    Answers ((summary.takeDue due).outcome >>= fun taken =>
        (taken.1.foldlM join taken.2).outcome)
      fun changed => ∃ values added,
        Merges allowed merged passed coming summary values added changed ∧
          ∀ waiting ∈ changed.ahead.keys, ¬ due waiting := by
  obtain ⟨values, ahead, taken, left, split, sorted, areDue, notDue, least⟩ :=
    core.takeDue due closed
  rw [taken]
  have above : ∀ value ∈ values, ∀ other ∈ samplesOf passed, other.value ≤ value := by
    intro value member
    exact core.ordered value (split ▸ Multiset.mem_add.mpr (Or.inl member))
  have fits : ∀ value ∈ values, fits value := fun value member => fit value (areDue value member)
  apply (left.joinAll joins sweeping sorted above fits least).mono
  rintro changed ⟨added, length, final, standing, sameAhead, sameBehind⟩
  exact ⟨values, added, ⟨final, standing, length, sameAhead ▸ split, sameBehind⟩, sameAhead ▸ notDue⟩

end Joining

/-- When a pass ends, all entries are still to come and nothing is behind. -/
theorem Core.endPass (core : summary.Core allowed merged passed coming)
    (sweeping : summary.Sweeping (passed ++ coming)) (empty : summary.ahead.keys = 0) :
    Answers summary.endPass.outcome fun changed =>
      changed.Consistent allowed merged [] (passed ++ coming) ∧ changed.ahead = summary.behind ∧
        changed.behind = summary.ahead := by
  refine answers_ok ⟨?_, rfl, rfl⟩
  constructor
  · exact ⟨core.represents, core.grown, core.count, core.behindHeap, core.aheadHeap, by simp⟩
  · exact sweeping
  · exact ⟨fun slot underway => absurd underway (by simp), fun _ => ⟨rfl, empty⟩⟩

/-- Where the cut goes when an entry is taken out and the next one changes: it stays, or
moves from the entry that went to the next. -/
theorem exists_cut_fold {earlier later : List Entry} {gone next : Entry} (changed : Sample)
    (same : changed.value = next.2.value)
    (split : passed ++ coming = earlier ++ gone :: next :: later)
    (nodup : (slotsOf (passed ++ coming)).Nodup) :
    ∃ passed' coming', passed' ++ coming' = earlier ++ (next.1, changed) :: later ∧
      coming'.length ≤ coming.length ∧ (passed = [] → passed' = []) ∧
      (∀ other ∈ samplesOf passed', ∃ held ∈ samplesOf passed, held.value = other.value) ∧
      firstSlot none coming' =
        if firstSlot none coming = some gone.1 then some next.1 else firstSlot none coming := by
  have apart := split ▸ nodup
  simp only [slotsOf_append, slotsOf_cons, List.nodup_append, List.nodup_cons] at apart
  rcases List.append_eq_append_iff.mp split with ⟨between, rfl, rfl⟩ | ⟨between, rfl, shape⟩
  · refine ⟨passed, between ++ (next.1, changed) :: later, by simp, by simp, id,
      fun other member => ⟨other, member, rfl⟩, ?_⟩
    cases between with
    | nil => simp
    | cons first between =>
      have different : first.1 ≠ gone.1 := apart.2.2 first.1 (by simp) gone.1 (by simp)
      simp [different]
  · cases between with
    | nil =>
      obtain rfl : coming = gone :: next :: later := shape.symm
      refine ⟨earlier, (next.1, changed) :: later, rfl, by simp, by simp, ?_, by simp⟩
      exact fun other member => ⟨other, by simp [member], rfl⟩
    | cons first between =>
      obtain ⟨here, rest⟩ := List.cons.inj shape
      subst here
      cases between with
      | nil =>
        obtain rfl : coming = next :: later := rest.symm
        have different : next.1 ≠ gone.1 := fun equal => apart.2.1.1 (by simp [equal])
        refine ⟨earlier, (next.1, changed) :: later, rfl, by simp, by simp, ?_, by simp [different]⟩
        exact fun other member => ⟨other, by simp [member], rfl⟩
      | cons second between =>
        obtain ⟨there, after⟩ := List.cons.inj rest
        subst there after
        have different : firstSlot none coming ≠ some gone.1 := fun first =>
          apart.2.1.1 (by simp [mem_slotsOf_of_firstSlot first])
        refine ⟨earlier ++ (next.1, changed) :: between, coming, by simp, Nat.le_refl _, by simp,
          ?_, by rw [if_neg different]⟩
        intro other member
        rw [samplesOf_append, samplesOf_cons, List.mem_append, List.mem_cons] at member
        rcases member with before | rfl | after
        · exact ⟨other, by simp [before], rfl⟩
        · exact ⟨next.2, by simp, same.symm⟩
        · exact ⟨other, by simp [after], rfl⟩

/-- Folding an entry into the next one is a change of the samples that growing allows, and
no cursor is left at a slot without a node. -/
theorem Core.absorb {earlier later : List Entry} {gone next : Entry}
    (core : summary.Core allowed merged passed coming) (passing : summary.Passing passed coming)
    (split : passed ++ coming = earlier ++ gone :: next :: later) (interior : earlier ≠ [])
    (admitted : allowed (weight (samplesOf (earlier ++ gone :: next :: later)))
      (weight (samplesOf earlier) + (gone.2.width + next.2.width + next.2.delta))
      (gone.2.width + next.2.width + next.2.delta)) :
    Answers (summary.absorb gone.1 next.1 (next.2.width + gone.2.width)) fun changed =>
      ∃ passed' coming', passed' ++ coming' =
          earlier ++ (next.1, { next.2 with width := next.2.width + gone.2.width }) :: later ∧
        coming'.length ≤ coming.length ∧ (coming' = [] → coming = []) ∧
        changed.Core allowed merged passed' coming' ∧
        changed.Passing passed' coming' ∧ changed.ahead = summary.ahead ∧
        changed.behind = summary.behind := by
  let widened : Sample := { next.2 with width := next.2.width + gone.2.width }
  have represents := core.represents
  rw [split, List.append_cons] at represents
  obtain ⟨wide, widening, wider⟩ := represents.setWidth (next.2.width + gone.2.width)
  rw [← List.append_cons] at wider
  obtain ⟨list, node, removal, -, shorter⟩ := wider.remove
  obtain ⟨passed', coming', cut, fewer, atFront, values, first⟩ :=
    exists_cut_fold widened rfl split core.represents.owns.nodup
  have grown : Grown allowed merged (samplesOf (earlier ++ (next.1, widened) :: later)) := by
    have before := core.grown
    rw [split, samplesOf_append, samplesOf_cons, samplesOf_cons] at before
    rw [samplesOf_append, samplesOf_cons, samplesOf_cons] at admitted
    rw [samplesOf_append, samplesOf_cons]
    exact before.fold (by simpa [samplesOf] using interior) admitted
  have count : summary.count = weight (samplesOf (passed' ++ coming')) := by
    rw [cut, core.count, core.grown.weight_eq, grown.weight_eq]
  have absorbed : summary.absorb gone.1 next.1 (next.2.width + gone.2.width) =
      .ok { summary with
        samples := list
        insertCursor :=
          if summary.insertCursor = some gone.1 then some next.1 else summary.insertCursor } := by
    simp only [Summary.absorb, widening, removal, bind, Except.bind]
    rfl
  refine ⟨_, absorbed, passed', coming', cut, fewer, ?_, ?_, ?_, rfl, rfl⟩
  · rintro rfl
    rw [firstSlot_nil] at first
    split at first
    · cases first
    · exact firstSlot_eq_none_iff.mp first.symm
  · refine ⟨cut ▸ shorter, cut ▸ grown, count, core.aheadHeap, core.behindHeap, ?_⟩
    intro waiting staged other member
    obtain ⟨held, heldMember, equal⟩ := values other member
    exact equal ▸ core.ordered waiting staged held heldMember
  · constructor
    · intro slot underway
      rw [first]
      split at underway
      · rename_i onGone
        rw [if_pos (passing.underway _ onGone)]
        exact underway
      · rename_i elsewhere
        rw [passing.underway slot underway, if_neg (underway ▸ elsewhere)]
    · intro resting
      split at resting
      · cases resting
      · exact ⟨atFront (passing.resting resting).1, (passing.resting resting).2⟩

/-- A value misses the pass only if one is under way, and otherwise is not below anything
that was passed. -/
theorem Consistent.missed (consistent : summary.Consistent allowed merged passed coming)
    (value : Binary64) :
    Answers (summary.missed value) fun isMissed =>
      (isMissed → summary.insertCursor ≠ none) ∧
        (isMissed = false → ∀ other ∈ samplesOf passed, other.value ≤ value) := by
  unfold Summary.missed
  cases cursor : summary.insertCursor with
  | none =>
    refine answers_ok ⟨by simp, fun _ other member => ?_⟩
    rw [(consistent.passing.resting cursor).1] at member
    exact absurd member List.not_mem_nil
  | some slot =>
    have standing := consistent.passing.underway slot cursor
    cases coming with
    | nil => cases standing
    | cons entry coming =>
      cases standing
      refine ⟨value.compare entry.2.value == .lt,
        by simp only [consistent.represents.node, bind, Except.bind]; rfl, by simp, ?_⟩
      intro notMissed other member
      have notBelow : ¬ value < entry.2.value := by
        rw [Binary64.lt_iff_compare_eq_lt]
        simpa using notMissed
      exact (consistent.passed_le other member).trans (le_of_not_gt notBelow)

/-- Staging a value changes what is staged and nothing else. -/
theorem Consistent.stage (consistent : summary.Consistent allowed merged passed coming)
    (value : Binary64) :
    Answers (summary.stage value).outcome fun changed =>
      changed.Consistent allowed merged passed coming ∧
        changed.staged = value ::ₘ summary.staged := by
  obtain ⟨isMissed, decided, missing, fitting⟩ := consistent.missed value
  unfold Summary.stage
  simp only [Traced.outcome_bind, Traced.outcome_lift, decided]
  cases isMissed with
  | true =>
    refine ⟨{ summary with behind := summary.behind.insert value () }, rfl, ?_, ?_⟩
    · constructor
      · exact { consistent.toCore with behindHeap := consistent.behindHeap.insert value () }
      · exact consistent.sweeping
      · exact ⟨consistent.passing.underway, fun resting => absurd resting (missing rfl)⟩
    · simp [staged]
  | false =>
    refine ⟨{ summary with ahead := summary.ahead.insert value () }, rfl, ?_, ?_⟩
    · constructor
      · refine { consistent.toCore with
          aheadHeap := consistent.aheadHeap.insert value ()
          ordered := ?_ }
        intro waiting held other member
        rw [PagedHeap.keys_insert, Multiset.mem_cons] at held
        rcases held with rfl | held
        · exact fitting rfl other member
        · exact consistent.ordered waiting held other member
      · exact consistent.sweeping
      · exact ⟨consistent.passing.underway, consistent.passing.resting⟩
    · simp [staged]

end Telemetry.Quantile.Summary
