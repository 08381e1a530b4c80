/-
# How lists of samples grow

Whatever the cursors do, the samples of a summary change in three ways only: a value is
put before a sample and takes over the room its ranks leave, a value is put after the last
sample, or a sample is folded into its successor. Everything that holds of the samples of
every summary is proved here once, by induction on these changes: they are sorted, they
stand for exactly the merged values, and the ranks they claim are sound.
-/

import Mathlib.Data.List.Induction
import Mathlib.Data.Multiset.Filter
import Telemetry.Proofs.Binary64.Order
import Telemetry.Quantile.SampleList

namespace Telemetry.Quantile

/-- The number of values for which some samples stand. -/
def weight : List Sample → Nat
  | [] => 0
  | sample :: later => sample.width + weight later

@[simp] theorem weight_nil : weight [] = 0 :=
  rfl

@[simp] theorem weight_cons (sample : Sample) (later : List Sample) :
    weight (sample :: later) = sample.width + weight later :=
  rfl

@[simp] theorem weight_append (earlier later : List Sample) :
    weight (earlier ++ later) = weight earlier + weight later := by
  induction earlier with
  | nil => simp
  | cons sample earlier recursion =>
    rw [List.cons_append, weight_cons, weight_cons, recursion, Nat.add_assoc]

/-- A sample among others, with the number of values for which those before it stand. -/
structure Ranked extends Sample where
  before : Nat

/-- The values that are at or below a sample for certain. -/
def Ranked.lower (ranked : Ranked) : Nat :=
  ranked.before + ranked.width

/-- The highest rank a sample may have. -/
def Ranked.upper (ranked : Ranked) : Nat :=
  ranked.before + ranked.width + ranked.delta

/-- The same sample behind one more value. -/
def Ranked.shift (ranked : Ranked) : Ranked :=
  { ranked with before := ranked.before + 1 }

@[simp] theorem Ranked.lower_shift (ranked : Ranked) : ranked.shift.lower = ranked.lower + 1 := by
  simp only [lower, shift]
  omega

@[simp] theorem Ranked.upper_shift (ranked : Ranked) : ranked.shift.upper = ranked.upper + 1 := by
  simp only [upper, shift]
  omega

/-- The samples with what stands before them, the first of them behind `before` values. -/
def ranks : (before : Nat) → List Sample → List Ranked
  | _, [] => []
  | before, sample :: later => ⟨sample, before⟩ :: ranks (before + sample.width) later

@[simp] theorem ranks_nil (before : Nat) : ranks before [] = [] :=
  rfl

@[simp] theorem ranks_cons (before : Nat) (sample : Sample) (later : List Sample) :
    ranks before (sample :: later) = ⟨sample, before⟩ :: ranks (before + sample.width) later :=
  rfl

@[simp] theorem ranks_append (before : Nat) (earlier later : List Sample) :
    ranks before (earlier ++ later) =
      ranks before earlier ++ ranks (before + weight earlier) later := by
  induction earlier generalizing before with
  | nil => rfl
  | cons sample earlier recursion => simp [recursion, Nat.add_assoc]

/-- One more value in front shifts every sample. -/
theorem ranks_succ (before : Nat) (samples : List Sample) :
    ranks (before + 1) samples = (ranks before samples).map Ranked.shift := by
  induction samples generalizing before with
  | nil => rfl
  | cons sample later recursion =>
    rw [ranks_cons, ranks_cons, List.map_cons, ← recursion, Nat.add_right_comm]
    rfl

theorem mem_of_mem_ranks {before : Nat} {samples : List Sample} {ranked : Ranked}
    (member : ranked ∈ ranks before samples) : ranked.toSample ∈ samples := by
  induction samples generalizing before with
  | nil => exact absurd member List.not_mem_nil
  | cons sample later recursion =>
    rcases List.mem_cons.mp member with rfl | member
    · exact List.mem_cons_self
    · exact List.mem_cons_of_mem _ (recursion member)

/-- A value put before a sample shifts the sample and all later ones. -/
theorem ranks_insert (earlier later : List Sample) (value : Binary64) (delta : Nat) :
    ranks 0 (earlier ++ ⟨value, 1, delta⟩ :: later) =
      ranks 0 earlier ++ ⟨⟨value, 1, delta⟩, weight earlier⟩ ::
        (ranks (weight earlier) later).map Ranked.shift := by
  rw [ranks_append, ranks_cons, Nat.zero_add, ← ranks_succ]

/-- A sample folded into the next leaves all others where they are. -/
theorem ranks_fold (earlier later : List Sample) (sample next : Sample) :
    ranks 0 (earlier ++ { next with width := next.width + sample.width } :: later) =
      ranks 0 earlier ++ ⟨{ next with width := next.width + sample.width }, weight earlier⟩ ::
        ranks (weight earlier + sample.width + next.width) later := by
  rw [ranks_append, ranks_cons, Nat.zero_add, Nat.add_assoc, Nat.add_comm sample.width]

/-- A sample that gains the width before it keeps its lower bound. -/
theorem Ranked.lower_fold (before : Nat) (sample next : Sample) :
    lower ⟨{ next with width := next.width + sample.width }, before⟩ =
      lower ⟨next, before + sample.width⟩ := by
  simp only [lower]
  omega

/-- A sample that gains the width before it keeps its upper bound. -/
theorem Ranked.upper_fold (before : Nat) (sample next : Sample) :
    upper ⟨{ next with width := next.width + sample.width }, before⟩ =
      upper ⟨next, before + sample.width⟩ := by
  simp only [upper]
  omega

/-- A value put before a sample has the highest rank that the sample had. -/
theorem Ranked.upper_insert (before : Nat) (value : Binary64) {sample : Sample}
    (positive : 1 ≤ sample.width) :
    upper ⟨⟨value, 1, sample.width + sample.delta - 1⟩, before⟩ = upper ⟨sample, before⟩ := by
  simp only [upper]
  omega

/-- The samples that merging values can lead to. A fold needs a sample before the one
that goes, so the first sample stays, and has to be allowed for the values merged so far,
the highest rank of the two samples and the ranks they take up together. -/
inductive Grown (allowed : (count rank band : Nat) → Prop) :
    Multiset Binary64 → List Sample → Prop
  | empty : Grown allowed 0 []
  | insert {merged : Multiset Binary64} {earlier later : List Sample} {sample : Sample}
      (value : Binary64) (grown : Grown allowed merged (earlier ++ sample :: later))
      (above : ∀ other ∈ earlier, other.value ≤ value) (below : value ≤ sample.value) :
      Grown allowed (value ::ₘ merged)
        (earlier ++ ⟨value, 1, sample.width + sample.delta - 1⟩ :: sample :: later)
  | append {merged : Multiset Binary64} {samples : List Sample} (value : Binary64)
      (grown : Grown allowed merged samples) (above : ∀ other ∈ samples, other.value ≤ value) :
      Grown allowed (value ::ₘ merged) (samples ++ [⟨value, 1, 0⟩])
  | fold {merged : Multiset Binary64} {earlier later : List Sample} {sample next : Sample}
      (grown : Grown allowed merged (earlier ++ sample :: next :: later))
      (interior : earlier ≠ [])
      (admitted : allowed (weight (earlier ++ sample :: next :: later))
        (weight earlier + (sample.width + next.width + next.delta))
        (sample.width + next.width + next.delta)) :
      Grown allowed merged (earlier ++ { next with width := next.width + sample.width } :: later)

namespace Grown

variable {allowed : (count rank band : Nat) → Prop} {merged : Multiset Binary64}
  {samples : List Sample}

/-- Allowing more leads to at least the same lists. -/
theorem mono {permitted : (count rank band : Nat) → Prop}
    (weaker : ∀ count rank band, allowed count rank band → permitted count rank band)
    (grown : Grown allowed merged samples) : Grown permitted merged samples := by
  induction grown with
  | empty => exact .empty
  | insert value _ above below recursion => exact recursion.insert value above below
  | append value _ above recursion => exact recursion.append value above
  | fold _ interior admitted recursion => exact recursion.fold interior (weaker _ _ _ admitted)

theorem width_pos (grown : Grown allowed merged samples) :
    ∀ sample ∈ samples, 1 ≤ sample.width := by
  induction grown with
  | empty => simp
  | insert value _ above below recursion =>
    simp only [List.forall_mem_append, List.forall_mem_cons] at recursion ⊢
    exact ⟨recursion.1, Nat.le_refl 1, recursion.2⟩
  | append value _ above recursion =>
    simp only [List.forall_mem_append, List.forall_mem_singleton]
    exact ⟨recursion, Nat.le_refl 1⟩
  | fold _ interior admitted recursion =>
    simp only [List.forall_mem_append, List.forall_mem_cons] at recursion ⊢
    exact ⟨recursion.1, Nat.le_add_right_of_le recursion.2.2.1, recursion.2.2.2⟩

/-- The samples stand for as many values as were merged. -/
theorem weight_eq (grown : Grown allowed merged samples) : weight samples = merged.card := by
  induction grown with
  | empty => rfl
  | insert value _ above below recursion =>
    simp only [weight_append, weight_cons, Multiset.card_cons] at recursion ⊢
    omega
  | append value _ above recursion => simp [recursion]
  | fold _ interior admitted recursion =>
    simp only [weight_append, weight_cons] at recursion ⊢
    omega

/-- Every sample has a value of its own among those merged. Folding forgets values and
makes none up. -/
theorem values_le (grown : Grown allowed merged samples) :
    (↑(samples.map (·.value)) : Multiset Binary64) ≤ merged := by
  induction grown with
  | empty => exact le_rfl
  | @insert merged earlier later sample value _ above below recursion =>
    rw [List.map_append, List.map_cons, Multiset.coe_eq_coe.mpr List.perm_middle,
      ← Multiset.cons_coe, ← List.map_append]
    exact Multiset.cons_le_cons value recursion
  | append value _ above recursion =>
    rw [List.map_append, List.map_singleton,
      Multiset.coe_eq_coe.mpr (List.perm_append_singleton _ _), ← Multiset.cons_coe]
    exact Multiset.cons_le_cons value recursion
  | fold _ interior admitted recursion =>
    refine le_trans ?_ recursion
    simp only [List.map_append, List.map_cons]
    exact Multiset.coe_le.mpr ((List.sublist_cons_self _ _).append_left _).subperm

theorem sorted (grown : Grown allowed merged samples) :
    samples.Pairwise (·.value ≤ ·.value) := by
  induction grown with
  | empty => exact .nil
  | insert value _ above below recursion =>
    simp only [List.pairwise_append, List.pairwise_cons, List.forall_mem_cons] at recursion ⊢
    obtain ⟨front, ⟨sampleBelow, back⟩, across⟩ := recursion
    refine ⟨front, ⟨⟨below, fun other later => below.trans (sampleBelow other later)⟩,
      sampleBelow, back⟩, fun other earlier => ⟨above other earlier, across other earlier⟩⟩
  | append value _ above recursion =>
    simpa [List.pairwise_append] using ⟨recursion, above⟩
  | fold _ interior admitted recursion =>
    simp only [List.pairwise_append, List.pairwise_cons, List.forall_mem_cons] at recursion ⊢
    obtain ⟨front, ⟨-, nextBelow, back⟩, across⟩ := recursion
    exact ⟨front, ⟨nextBelow, back⟩, fun other earlier => (across other earlier).2⟩

/-- The first sample is exact. -/
theorem head_exact (grown : Grown allowed merged samples) :
    ∀ first ∈ samples.head?, first.width = 1 ∧ first.delta = 0 := by
  induction grown with
  | empty => simp
  | @insert merged earlier later sample value _ above below recursion =>
    cases earlier with
    | nil => simp_all
    | cons => simpa using recursion
  | @append merged samples value _ above recursion =>
    cases samples with
    | nil => simp
    | cons => simpa using recursion
  | @fold merged earlier later sample next _ interior admitted recursion =>
    cases earlier with
    | nil => exact absurd rfl interior
    | cons => simpa using recursion

/-- The last sample leaves no room: values go behind it one at a time, and a fold into it
widens it only. -/
theorem last_delta (grown : Grown allowed merged samples) :
    ∀ last ∈ samples.getLast?, last.delta = 0 := by
  induction grown with
  | empty => simp
  | insert value _ above below recursion => simpa [List.getLast?_append] using recursion
  | append value _ above recursion => simp
  | @fold merged earlier later sample next _ interior admitted recursion =>
    cases later using List.reverseRecOn with
    | nil => simpa [List.getLast?_append] using recursion
    | append_singleton later last => simpa [List.getLast?_cons] using recursion

end Grown

/-- A sample's value was merged, and its bounds hold among the merged values. -/
structure Ranked.Sound (merged : Multiset Binary64) (ranked : Ranked) : Prop where
  mem : ranked.value ∈ merged
  lower : ranked.lower ≤ merged.countP (· ≤ ranked.value)
  upper : merged.countP (· < ranked.value) + 1 ≤ ranked.upper
  bounded : ranked.upper ≤ merged.card

namespace Ranked.Sound

variable {merged : Multiset Binary64} {ranked : Ranked} {value : Binary64}

/-- A value that goes behind a sample changes nothing for it. -/
theorem cons_of_le (sound : ranked.Sound merged) (le : ranked.value ≤ value) :
    ranked.Sound (value ::ₘ merged) where
  mem := Multiset.mem_cons_of_mem sound.mem
  lower := sound.lower.trans (Multiset.countP_le_of_le _ (Multiset.le_cons_self merged value))
  upper := by
    rw [Multiset.countP_cons, if_neg (not_lt_of_ge le)]
    exact sound.upper
  bounded := by
    rw [Multiset.card_cons]
    exact Nat.le_succ_of_le sound.bounded

/-- A value that goes before a sample moves its bounds up by one. -/
theorem shift_of_le (sound : ranked.Sound merged) (le : value ≤ ranked.value) :
    ranked.shift.Sound (value ::ₘ merged) where
  mem := Multiset.mem_cons_of_mem sound.mem
  lower := by
    show ranked.shift.lower ≤ (value ::ₘ merged).countP (· ≤ ranked.value)
    rw [Multiset.countP_cons, if_pos le, lower_shift]
    exact Nat.succ_le_succ sound.lower
  upper := by
    show (value ::ₘ merged).countP (· < ranked.value) + 1 ≤ ranked.shift.upper
    have upper := sound.upper
    rw [Multiset.countP_cons, upper_shift]
    split <;> omega
  bounded := by
    rw [Multiset.card_cons, upper_shift]
    exact Nat.succ_le_succ sound.bounded

end Ranked.Sound

/-- The bounds of all samples are sound, and no sample may have a higher rank than the
next one. -/
structure RankSound (merged : Multiset Binary64) (samples : List Sample) : Prop where
  sound : ∀ ranked ∈ ranks 0 samples, ranked.Sound merged
  ascending : (ranks 0 samples).Pairwise (·.upper ≤ ·.upper)

/-- The values at or below one that all the samples are at or below. -/
theorem weight_le_countP {merged : Multiset Binary64} {samples : List Sample} {value : Binary64}
    (sound : ∀ ranked ∈ ranks 0 samples, ranked.Sound merged)
    (above : ∀ other ∈ samples, other.value ≤ value) :
    weight samples ≤ merged.countP (· ≤ value) := by
  cases samples using List.reverseRecOn with
  | nil => exact Nat.zero_le _
  | append_singleton init last =>
    have lower := (sound ⟨last, weight init⟩ (by simp)).lower
    have below : last.value ≤ value := above last (by simp)
    calc weight (init ++ [last]) = Ranked.lower ⟨last, weight init⟩ := by simp [Ranked.lower]
      _ ≤ merged.countP (· ≤ last.value) := lower
      _ ≤ merged.countP (· ≤ value) := by
        simp only [Multiset.countP_eq_card_filter]
        exact Multiset.card_le_card (Multiset.monotone_filter_right _ fun _ le => le.trans below)

namespace Grown

variable {allowed : (count rank band : Nat) → Prop} {merged : Multiset Binary64}
  {samples : List Sample}

/-- The value put before a sample takes over the highest rank that the sample had. -/
theorem sound_inserted {earlier later : List Sample} {sample : Sample} {value : Binary64}
    (grown : Grown allowed merged (earlier ++ sample :: later))
    (sound : ∀ ranked ∈ ranks 0 (earlier ++ sample :: later), ranked.Sound merged)
    (above : ∀ other ∈ earlier, other.value ≤ value) (below : value ≤ sample.value) :
    Ranked.Sound (value ::ₘ merged)
      ⟨⟨value, 1, sample.width + sample.delta - 1⟩, weight earlier⟩ := by
  have positive := grown.width_pos sample (by simp)
  have before := weight_le_countP (fun ranked member => sound ranked (by simp [member])) above
  have successor : Ranked.Sound merged ⟨sample, weight earlier⟩ := sound _ (by simp)
  have upper := successor.upper
  have bounded := successor.bounded
  have fewer : merged.countP (· < value) ≤ merged.countP (· < sample.value) := by
    simp only [Multiset.countP_eq_card_filter]
    exact Multiset.card_le_card
      (Multiset.monotone_filter_right _ fun _ less => lt_of_lt_of_le less below)
  constructor
  · exact Multiset.mem_cons_self value merged
  · simp only [Ranked.lower, Multiset.countP_cons, le_refl, if_true]
    omega
  · simp only [Ranked.upper, Multiset.countP_cons, lt_irrefl, if_false] at upper ⊢
    omega
  · simp only [Ranked.upper, Multiset.card_cons] at bounded ⊢
    omega

/-- A value put behind all others has the last rank. -/
theorem sound_appended {value : Binary64} (grown : Grown allowed merged samples)
    (sound : ∀ ranked ∈ ranks 0 samples, ranked.Sound merged)
    (above : ∀ other ∈ samples, other.value ≤ value) :
    Ranked.Sound (value ::ₘ merged) ⟨⟨value, 1, 0⟩, weight samples⟩ := by
  have before := weight_le_countP sound above
  have total := grown.weight_eq
  have fewer := Multiset.countP_le_card (· < value) merged
  constructor
  · exact Multiset.mem_cons_self value merged
  · simp only [Ranked.lower, Multiset.countP_cons, le_refl, if_true]
    omega
  · simp only [Ranked.upper, Multiset.countP_cons, lt_irrefl, if_false]
    omega
  · simp only [Ranked.upper, Multiset.card_cons]
    omega

/-- A value put before a sample keeps all bounds sound: earlier samples do not change, and
later ones have one more value before them. -/
theorem rankSound_insert {earlier later : List Sample} {sample : Sample} {value : Binary64}
    (grown : Grown allowed merged (earlier ++ sample :: later))
    (ranked : RankSound merged (earlier ++ sample :: later))
    (above : ∀ other ∈ earlier, other.value ≤ value) (below : value ≤ sample.value) :
    RankSound (value ::ₘ merged)
      (earlier ++ ⟨value, 1, sample.width + sample.delta - 1⟩ :: sample :: later) := by
  have inserted := grown.sound_inserted ranked.sound above below
  have same := Ranked.upper_insert (weight earlier) value (grown.width_pos sample (by simp))
  have sorted := grown.sorted
  obtain ⟨sound, ascending⟩ := ranked
  simp only [List.pairwise_append, List.pairwise_cons] at sorted
  simp only [ranks_append, ranks_cons, List.forall_mem_append, List.forall_mem_cons,
    Nat.zero_add, List.pairwise_append, List.pairwise_cons] at sound ascending
  constructor
  · simp only [ranks_insert, ranks_cons, List.forall_mem_append, List.forall_mem_cons,
      List.forall_mem_map]
    refine ⟨?_, inserted, sound.2.1.shift_of_le below, ?_⟩
    · intro ranked member
      exact (sound.1 ranked member).cons_of_le (above _ (mem_of_mem_ranks member))
    · intro ranked member
      apply (sound.2.2 ranked member).shift_of_le
      exact below.trans (sorted.2.1.1 _ (mem_of_mem_ranks member))
  · simp only [ranks_insert, ranks_cons, List.map_cons, List.pairwise_append,
      List.pairwise_cons, List.pairwise_map, List.forall_mem_cons, List.forall_mem_map,
      Ranked.upper_shift, same, Nat.add_le_add_iff_right]
    obtain ⟨front, ⟨next, back⟩, across⟩ := ascending
    refine ⟨front, ⟨⟨Nat.le_succ _, ?_⟩, next, back⟩, ?_⟩
    · intro ranked member
      exact Nat.le_succ_of_le (next ranked member)
    · intro ranked member
      obtain ⟨atMost, later⟩ := across ranked member
      exact ⟨atMost, Nat.le_succ_of_le atMost,
        fun other after => Nat.le_succ_of_le (later other after)⟩

/-- A value put behind all samples keeps their bounds sound. -/
theorem rankSound_append {value : Binary64} (grown : Grown allowed merged samples)
    (ranked : RankSound merged samples) (above : ∀ other ∈ samples, other.value ≤ value) :
    RankSound (value ::ₘ merged) (samples ++ [⟨value, 1, 0⟩]) := by
  have appended := grown.sound_appended ranked.sound above
  obtain ⟨sound, ascending⟩ := ranked
  constructor
  · simp only [ranks_append, ranks_cons, ranks_nil, List.forall_mem_append,
      List.forall_mem_singleton, Nat.zero_add]
    refine ⟨?_, appended⟩
    intro ranked member
    exact (sound ranked member).cons_of_le (above _ (mem_of_mem_ranks member))
  · simp only [ranks_append, ranks_cons, ranks_nil, List.pairwise_append,
      List.forall_mem_singleton, List.pairwise_singleton, Nat.zero_add]
    refine ⟨ascending, trivial, ?_⟩
    intro ranked member
    have bounded := (sound ranked member).bounded
    have total := grown.weight_eq
    simp only [Ranked.upper] at bounded ⊢
    omega

/-- A fold keeps all bounds sound: the next sample keeps both its own. -/
theorem rankSound_fold {earlier later : List Sample} {sample next : Sample}
    (ranked : RankSound merged (earlier ++ sample :: next :: later)) :
    RankSound merged
      (earlier ++ { next with width := next.width + sample.width } :: later) := by
  have lower := Ranked.lower_fold (weight earlier) sample next
  have upper := Ranked.upper_fold (weight earlier) sample next
  obtain ⟨sound, ascending⟩ := ranked
  simp only [ranks_append, ranks_cons, List.forall_mem_append, List.forall_mem_cons,
    Nat.zero_add, List.pairwise_append, List.pairwise_cons] at sound ascending
  obtain ⟨front, -, successor, back⟩ := sound
  obtain ⟨frontAscending, ⟨-, above, backAscending⟩, across⟩ := ascending
  constructor
  · simp only [ranks_fold, List.forall_mem_append, List.forall_mem_cons]
    refine ⟨front, ?_, back⟩
    exact ⟨successor.mem, lower ▸ successor.lower, upper ▸ successor.upper,
      upper ▸ successor.bounded⟩
  · simp only [ranks_fold, List.pairwise_append, List.pairwise_cons, List.forall_mem_cons, upper]
    refine ⟨frontAscending, ⟨above, backAscending⟩, ?_⟩
    intro ranked member
    exact (across ranked member).2

/-- However values were merged and samples folded, the ranks claimed are sound. -/
theorem rankSound (grown : Grown allowed merged samples) : RankSound merged samples := by
  induction grown with
  | empty => exact ⟨by simp, .nil⟩
  | insert value grown above below recursion => exact grown.rankSound_insert recursion above below
  | append value grown above recursion => exact grown.rankSound_append recursion above
  | fold _ interior admitted recursion => exact rankSound_fold recursion

/-- Every sample is a single value, or was allowed to take up its ranks. This needs a
limit that loosens when a value is merged, whether or not the value goes before the
sample. -/
theorem within_allowed (grown : Grown allowed merged samples)
    (behind : ∀ count rank band, allowed count rank band → allowed (count + 1) rank band)
    (before : ∀ count rank band, allowed count rank band → allowed (count + 1) (rank + 1) band) :
    ∀ ranked ∈ ranks 0 samples, ranked.width + ranked.delta ≤ 1 ∨
      allowed merged.card ranked.upper (ranked.width + ranked.delta) := by
  induction grown with
  | empty => simp
  | @insert merged earlier later sample value grown above below recursion =>
    have positive := grown.width_pos sample (by simp)
    have band : 1 + (sample.width + sample.delta - 1) = sample.width + sample.delta := by omega
    simp only [ranks_append, ranks_cons, List.forall_mem_append, List.forall_mem_cons,
      Nat.zero_add] at recursion
    simp only [ranks_insert, ranks_cons, List.forall_mem_append, List.forall_mem_cons,
      List.forall_mem_map, Ranked.upper_shift, Multiset.card_cons,
      Ranked.upper_insert _ value positive, band]
    obtain ⟨front, successor, back⟩ := recursion
    refine ⟨?_, successor.imp_right (behind _ _ _), successor.imp_right (before _ _ _), ?_⟩
    · intro ranked member
      exact (front ranked member).imp_right (behind _ _ _)
    · intro ranked member
      exact (back ranked member).imp_right (before _ _ _)
  | @append merged samples value grown above recursion =>
    simp only [ranks_append, ranks_cons, ranks_nil, List.forall_mem_append,
      List.forall_mem_singleton, Multiset.card_cons]
    refine ⟨?_, Or.inl (Nat.le_refl 1)⟩
    intro ranked member
    exact (recursion ranked member).imp_right (behind _ _ _)
  | @fold merged earlier later sample next grown interior admitted recursion =>
    have band : next.width + sample.width + next.delta =
        sample.width + next.width + next.delta := by omega
    have upper : Ranked.upper ⟨next, weight earlier + sample.width⟩ =
        weight earlier + (sample.width + next.width + next.delta) := by
      simp only [Ranked.upper]
      omega
    rw [grown.weight_eq] at admitted
    simp only [ranks_append, ranks_cons, List.forall_mem_append, List.forall_mem_cons,
      Nat.zero_add] at recursion
    simp only [ranks_fold, List.forall_mem_append, List.forall_mem_cons, Ranked.upper_fold,
      upper, band]
    obtain ⟨front, -, -, back⟩ := recursion
    exact ⟨front, Or.inr admitted, back⟩

end Grown

end Telemetry.Quantile
