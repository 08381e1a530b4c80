/-
# Accuracy of quantile queries

A query walks over the samples whose highest rank is within a window of the rank sought.
The sample it stops at cannot be far above that rank, by the bounds of its own ranks. It
cannot be far below either: the next sample reaches past the window, and it takes up no
more ranks than its targets leave it.
-/

import Telemetry.Proofs.Quantile.Run
import Telemetry.Proofs.Quantile.Thresholds
import Telemetry.Quantile.Sketch

namespace Telemetry.Quantile

namespace Sketch

/-- From a sample within the window the walk goes to a later one, or stays, and stops where
the next sample is past the window or past the rank. -/
theorem answer_spec (rank window : Rat) (earlier later : List Sample) (held : Sample)
    (within : (Ranked.upper ⟨held, weight earlier⟩ : Rat) ≤ window) :
    ∃ accepted chosen rest, earlier ++ held :: later = accepted ++ chosen :: rest ∧
      answer rank window (weight earlier + held.width) held.value later = chosen.value ∧
      (Ranked.upper ⟨chosen, weight accepted⟩ : Rat) ≤ window ∧
      ∀ next ∈ rest.head?,
        window < (Ranked.upper ⟨next, weight accepted + chosen.width⟩ : Rat) ∨
          rank < (weight accepted + chosen.width : Nat) + 1 := by
  induction later generalizing earlier held with
  | nil => exact ⟨earlier, held, [], rfl, rfl, within, by simp⟩
  | cons sample later recursion =>
    rw [answer]
    split
    · rename_i stops
      refine ⟨earlier, held, sample :: later, rfl, rfl, within, ?_⟩
      rintro next ⟨⟩
      rcases stops with past | past
      · apply Or.inl
        rw [Ranked.upper, Nat.add_assoc, Nat.cast_add]
        exact past
      · apply Or.inr
        simpa [Scale.ofCount] using past
    · rename_i goesOn
      rw [not_or, not_lt, not_lt] at goesOn
      have reached : (Ranked.upper ⟨sample, weight (earlier ++ [held])⟩ : Rat) ≤ window := by
        rw [Ranked.upper, Nat.add_assoc, Nat.cast_add]
        simpa [Scale.ofCount] using goesOn.1
      have rest := recursion (earlier ++ [held]) sample reached
      simpa using rest

end Sketch

/-- What the policy of some targets admits, over the rationals. -/
def Targets.Allows (targets : Targets Rat) (count rank band : Nat) : Prop :=
  (band : Rat) ≤ targets.threshold count rank

theorem Targets.admits_iff_allows {targets : Targets Rat} {count rank band : Nat} :
    targets.policy.admits count rank band ↔ targets.Allows count rank band :=
  decide_eq_true_iff

variable {targets : Targets Rat} {merged : Multiset Binary64} {samples : List Sample}

/-- However far a list has grown, every sample of several values keeps within the
threshold at its highest rank. -/
theorem Targets.Proper.within_threshold (proper : targets.Proper)
    (grown : Grown targets.Allows merged samples) :
    ∀ ranked ∈ ranks 0 samples, ranked.width + ranked.delta ≤ 1 ∨
      targets.Allows merged.card ranked.upper (ranked.width + ranked.delta) := by
  apply grown.within_allowed
  · intro count rank band allowed
    exact allowed.trans proper.threshold_le_succ
  · intro count rank band allowed
    refine allowed.trans (proper.threshold_le_succ_succ.trans_eq ?_)
    rw [Nat.cast_succ]

/-- The walk of a query ends at a sample that no more merged values are below than the
window leaves, and that as many are at or below as the threshold wants. -/
theorem Targets.Proper.answer_bounds (proper : targets.Proper) {first : Sample}
    {later : List Sample} (grown : Grown targets.Allows merged (first :: later)) {rank : Nat}
    (positive : 1 ≤ rank) (inside : rank ≤ merged.card) {window : Rat}
    (wide : (rank : Rat) ≤ window) :
    ∃ value ∈ merged,
      Sketch.answer (rank : Rat) window 0 first.value (first :: later) = value ∧
      (merged.countP (· < value) : Rat) + 1 ≤ window ∧
      (rank : Rat) - targets.threshold merged.card rank ≤ merged.countP (· ≤ value) := by
  obtain ⟨width, delta⟩ := grown.head_exact first rfl
  have allowed := proper.within_threshold grown
  have sound := grown.rankSound.sound
  have total := grown.weight_eq
  have atLeastOne : (1 : Rat) ≤ rank := by exact_mod_cast positive
  have nonneg : 0 ≤ targets.threshold merged.card (rank : Rat) :=
    proper.threshold_nonneg (Nat.cast_nonneg rank)
  -- The first sample is a single value, so the walk never stops before it.
  have accepts : Sketch.answer (rank : Rat) window 0 first.value (first :: later) =
      Sketch.answer (rank : Rat) window (weight [] + first.width) first.value later := by
    rw [Sketch.answer, if_neg]
    · rfl
    · simp only [width, delta, Scale.ofCount, Nat.cast_zero, zero_add, not_or, not_lt,
        Nat.cast_one, Nat.add_zero]
      exact ⟨atLeastOne.trans wide, atLeastOne⟩
  have firstWithin : (Ranked.upper ⟨first, weight []⟩ : Rat) ≤ window := by
    rw [Ranked.upper, width, delta]
    simpa using atLeastOne.trans wide
  obtain ⟨accepted, chosen, rest, split, answered, within, stops⟩ :=
    Sketch.answer_spec (rank : Rat) window [] later first firstWithin
  rw [List.nil_append] at split
  rw [split] at sound allowed total
  have bounds : Ranked.Sound merged ⟨chosen, weight accepted⟩ := sound _ (by simp)
  have below : (merged.countP (· < chosen.value) : Rat) + 1 ≤ window := by
    refine le_trans ?_ within
    exact_mod_cast bounds.upper
  have reached : ((weight accepted + chosen.width : Nat) : Rat) ≤
      merged.countP (· ≤ chosen.value) := by
    exact_mod_cast bounds.lower
  refine ⟨chosen.value, bounds.mem, accepts.trans answered, below, le_trans ?_ reached⟩
  cases rest with
  | nil =>
    have all : weight accepted + chosen.width = merged.card := by simpa using total
    have atMost : (rank : Rat) ≤ (weight accepted + chosen.width : Nat) := by
      exact_mod_cast all ▸ inside
    linarith
  | cons next rest =>
    have enough (atMost : rank < weight accepted + chosen.width + 1) :
        (rank : Rat) - targets.threshold merged.card rank ≤
          (weight accepted + chosen.width : Nat) := by
      have atMost : (rank : Rat) ≤ (weight accepted + chosen.width : Nat) := by
        exact_mod_cast Nat.le_of_lt_succ atMost
      linarith
    rcases stops next rfl with past | past
    · have higher : rank < Ranked.upper ⟨next, weight accepted + chosen.width⟩ := by
        exact_mod_cast wide.trans_lt past
      rcases allowed ⟨next, weight accepted + chosen.width⟩ (by simp) with single | room
      · apply enough
        simp only [Ranked.upper] at higher single
        omega
      · have upper : Ranked.upper ⟨next, weight accepted + chosen.width⟩ =
            weight accepted + chosen.width + (next.width + next.delta) := Nat.add_assoc ..
        rw [upper] at room higher
        have room := proper.sub_le_threshold room (Nat.cast_le.mpr (Nat.le_add_left _ _))
          (Nat.cast_nonneg rank) (Nat.cast_le.mpr higher.le)
        rw [Nat.cast_add, add_sub_cancel_right] at room
        linarith
    · exact enough (by exact_mod_cast past)

/-- What is granted on top of a rank leaves the rank itself within the window. -/
theorem le_add_ceil_half {rank room : Rat} (nonneg : 0 ≤ room) :
    rank ≤ rank + (room / 2).ceil := by
  have above : room / 2 ≤ (room / 2).ceil := Rat.le_ceil
  linarith

/-- Among any values the rank of a quantile is that of one of them. -/
theorem exists_rank {quantile : Rat} (positive : 0 < quantile) (atMostOne : quantile ≤ 1)
    {count : Nat} (nonempty : 1 ≤ count) :
    ∃ rank : Nat, (quantile * count).ceil = rank ∧ 1 ≤ rank ∧ rank ≤ count := by
  have several : (0 : Rat) < count := Nat.cast_pos.mpr nonempty
  have rankPos : 0 < (quantile * count).ceil :=
    Rat.lt_ceil_iff.mpr (mul_pos positive several)
  have rankLe : (quantile * count).ceil ≤ count :=
    Rat.ceil_le_iff.mpr (mul_le_of_le_one_left several.le atMostOne)
  obtain ⟨rank, isRank⟩ := Int.eq_ofNat_of_zero_le rankPos.le
  rw [isRank] at rankPos rankLe
  exact ⟨rank, isRank, Int.natCast_pos.mp rankPos, Int.ofNat_le.mp rankLe⟩

/-- A query for a quantile of what was merged answers a merged value, with a rank between
that of the quantile less the threshold there and that of the quantile plus half of it. -/
theorem Targets.Proper.query_bounds (proper : targets.Proper) {summary : Summary}
    (grown : Grown targets.Allows merged summary.samples.samples)
    (count : summary.count = merged.card) (nonempty : 1 ≤ summary.count) {quantile : Rat}
    (positive : 0 < quantile) (atMostOne : quantile ≤ 1) :
    let rank : Rat := (quantile * summary.count).ceil
    ∃ value, Sketch.query ⟨targets, summary⟩ quantile = some value ∧ value ∈ merged ∧
      (merged.countP (· < value) : Rat) + 1 ≤
        rank + (targets.threshold summary.count rank / 2).ceil ∧
      rank - targets.threshold summary.count rank ≤ merged.countP (· ≤ value) := by
  intro rank
  obtain ⟨whole, isWhole, rankPos, rankLe⟩ := exists_rank positive atMostOne nonempty
  have rankEq : rank = whole := by
    show ((quantile * summary.count).ceil : Rat) = whole
    rw [isWhole, Int.cast_natCast]
  have wide : rank ≤ rank + (targets.threshold summary.count rank / 2).ceil :=
    le_add_ceil_half (proper.threshold_nonneg (rankEq ▸ Nat.cast_nonneg whole))
  have sampled : summary.samples.samples ≠ [] := by
    intro none
    have total := grown.weight_eq
    rw [none, weight_nil, ← count] at total
    omega
  obtain ⟨first, later, shape⟩ := List.exists_cons_of_ne_nil sampled
  rw [shape] at grown
  rw [rankEq] at wide
  obtain ⟨value, member, answered, above, below⟩ :=
    proper.answer_bounds grown rankPos (count ▸ rankLe) wide
  rw [← rankEq] at answered above below
  refine ⟨value, ?_, member, above, count ▸ below⟩
  simp only [Sketch.query, Sketch.samples, shape]
  exact congrArg some answered

/-- Calls that merge under one policy, while the cursors keep a pace of their own in each. -/
def paced (policy : Policy) (calls : List ((Nat → Nat) × Call)) : List (Policy × Call) :=
  calls.map fun (stride, call) => ({ policy with stride := stride }, call)

/-- For all accepted targets and however fast the cursors move, a query answers within the
threshold of the rank sought, among the values merged. After a flush these are all values
ever added. -/
theorem accuracy_of_run {bound : Rat} {quantiles : List Rat} {targets : Targets Rat}
    (accepted : Targets.create bound quantiles = .ok targets)
    (calls : List ((Nat → Nat) × Call)) :
    ∃ summary merged, (Summary.run (paced targets.policy calls)).outcome = .ok summary ∧
      merged + summary.staged = added (paced targets.policy calls) ∧
      merged.card = summary.count ∧
      (∀ earlier stride, calls = earlier ++ [(stride, .flush)] →
        merged = added (paced targets.policy calls)) ∧
      (1 ≤ summary.count → ∀ quantile : Rat, 0 < quantile → quantile ≤ 1 →
        let rank : Rat := (quantile * summary.count).ceil
        ∃ value, Sketch.query ⟨targets, summary⟩ quantile = some value ∧ value ∈ merged ∧
          (merged.countP (· < value) : Rat) + 1 ≤
            rank + (targets.threshold summary.count rank / 2).ceil ∧
          rank - targets.threshold summary.count rank ≤ merged.countP (· ≤ value)) := by
  have proper := Targets.proper_of_create accepted
  have admits : ∀ step ∈ paced targets.policy calls, ∀ count rank band,
      step.1.admits count rank band → targets.Allows count rank band := by
    intro step member count rank band admitted
    obtain ⟨paced, -, rfl⟩ := List.mem_map.mp member
    exact Targets.admits_iff_allows.mp admitted
  obtain ⟨summary, answered, merged, passed, coming, consistent, values⟩ :=
    Summary.accounts_run _ admits
  have grown := consistent.grown
  rw [← consistent.represents.samples_eq] at grown
  have count : summary.count = merged.card := consistent.count.trans consistent.grown.weight_eq
  refine ⟨summary, merged, answered, values, count.symm, ?_, ?_⟩
  · rintro earlier stride rfl
    have flushed := Summary.staged_of_run_flush (paced targets.policy earlier)
      { targets.policy with stride := stride }
    obtain ⟨final, same, none⟩ := flushed
    have ended : paced targets.policy (earlier ++ [(stride, .flush)]) =
        paced targets.policy earlier ++ [({ targets.policy with stride := stride }, .flush)] :=
      List.map_append
    rw [← ended, answered] at same
    cases same
    rw [← values, none, Multiset.add_zero]
  · intro nonempty quantile positive atMostOne
    exact proper.query_bounds grown count nonempty positive atMostOne

/-- Under a wide bound one of four values is folded into another. The answer for the median is
within the threshold of the second rank among all four. -/
theorem accuracy_of_four_values :
    let targets : Targets Rat := ⟨2 / 5, [1 / 2], List.cons_ne_nil _ _⟩
    let calls : List ((Nat → Nat) × Call) := [.add ⟨1⟩, .add ⟨4⟩, .add ⟨2⟩, .add ⟨3⟩, .flush].map
      (fun _ => 1, ·)
    let merged : Multiset Binary64 := {⟨1⟩, ⟨4⟩, ⟨2⟩, ⟨3⟩}
    Targets.create (2 / 5) [1 / 2] = .ok targets ∧
      ∃ summary value, (Summary.run (paced targets.policy calls)).outcome = .ok summary ∧
        summary.count = 4 ∧ summary.samples.length = 3 ∧
        Sketch.query ⟨targets, summary⟩ (1 / 2) = some value ∧ value ∈ merged ∧
        (merged.countP (· < value) : Rat) + 1 ≤ 2 + (targets.threshold 4 2 / 2).ceil ∧
        2 - targets.threshold 4 2 ≤ merged.countP (· ≤ value) := by
  intro targets calls merged
  have accepted : Targets.create (2 / 5) [1 / 2] = .ok targets := by
    norm_num [Targets.create, isErrorBound, isQuantile, Scale.ofCount]
    rfl
  obtain ⟨summary, all, answered, -, -, flushed, bounds⟩ := accuracy_of_run accepted calls
  have same : all = merged :=
    flushed ([.add ⟨1⟩, .add ⟨4⟩, .add ⟨2⟩, .add ⟨3⟩].map (fun _ => 1, ·)) (fun _ => 1) rfl
  have seen : (Summary.run (paced targets.policy calls)).outcome.map
      (fun summary => (summary.count, summary.samples.length)) = .ok (4, 3) := by decide +kernel
  rw [answered] at seen
  obtain ⟨count, length⟩ := Prod.mk.inj (Except.ok.inj seen)
  have second : ((1 / 2 : Rat) * summary.count).ceil = 2 := by
    rw [count, show (1 / 2 : Rat) * (4 : Nat) = (2 : Int) by norm_num, Rat.ceil_intCast]
  obtain ⟨value, found, member, above, below⟩ :=
    bounds (by omega) (1 / 2) (by norm_num) (by norm_num)
  rw [second, count, same] at above below
  exact ⟨accepted, summary, value, answered, count, length, found, same ▸ member, above, below⟩

end Telemetry.Quantile
