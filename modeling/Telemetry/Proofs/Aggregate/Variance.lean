/-
# The variance of running moments

The sample variance is defined by how far the samples are from their mean, so whoever computes it
by the definition has to keep all samples until the last one has come. Running moments give it
without going back to any of them. As long as nothing is rounded the two agree: what the moments
give is never negative, and it is zero for equal samples only. So the step from a negative
variance to zero, which the deviation takes, undoes an error of rounding and nothing else.
-/

import Telemetry.Proofs.Aggregate.Agreement

namespace Telemetry.Moments

section

variable {R : Type} [Scale R] [Add R] [Mul R]

/-- The moments of some samples, taken in one after another. -/
def ofSamples (samples : List R) : Moments R :=
  samples.foldl add .empty

theorem ofSamples_append_singleton (samples : List R) (sample : R) :
    ofSamples (samples ++ [sample]) = (ofSamples samples).add sample :=
  List.foldl_append

theorem count_ofSamples (samples : List R) : (ofSamples samples).count = samples.length :=
  (Timer.count_foldl_add ..).trans (Nat.zero_add _)

end

variable {samples : List Rat} {center : Rat}

/-- The squared distances of some samples from a number, summed up. -/
def squaredDistances (samples : List Rat) (center : Rat) : Rat :=
  (samples.map fun sample => (sample - center) ^ 2).sum

theorem squaredDistances_append_singleton (samples : List Rat) (sample center : Rat) :
    squaredDistances (samples ++ [sample]) center =
      squaredDistances samples center + (sample - center) ^ 2 := by
  rw [squaredDistances, List.map_append, List.sum_append, List.map_singleton, List.sum_singleton]
  rfl

theorem squaredDistances_nonneg (samples : List Rat) (center : Rat) :
    0 ≤ squaredDistances samples center := by
  apply List.sum_nonneg
  intro square listed
  obtain ⟨sample, -, rfl⟩ := List.mem_map.mp listed
  exact sq_nonneg _

/-- Only samples that are all in one place have no distance from it. -/
theorem squaredDistances_eq_zero_iff :
    squaredDistances samples center = 0 ↔ ∀ sample ∈ samples, sample = center := by
  induction samples using List.reverseRecOn with
  | nil => exact iff_of_true rfl fun _ listed => absurd listed List.not_mem_nil
  | append_singleton samples sample recursion =>
    rw [squaredDistances_append_singleton, List.forall_mem_append, List.forall_mem_singleton,
      ← recursion, add_eq_zero_iff_of_nonneg (squaredDistances_nonneg ..) (sq_nonneg _),
      sq_eq_zero_iff, sub_eq_zero]

/-- The moments know the squared distances of the samples from any number, whether or not that
number was known while the samples came. -/
theorem squaredDistances_eq (samples : List Rat) (center : Rat) :
    squaredDistances samples center = (ofSamples samples).squaredSum -
      2 * center * (ofSamples samples).sum + (ofSamples samples).count * center ^ 2 := by
  induction samples using List.reverseRecOn with
  | nil => simp [squaredDistances, ofSamples, empty, Scale.ofCount]
  | append_singleton samples sample recursion =>
    rw [squaredDistances_append_singleton, recursion, ofSamples_append_singleton, add]
    push_cast
    ring

theorem count_mul_mean (nonempty : samples ≠ []) :
    (ofSamples samples).count * (ofSamples samples).mean = (ofSamples samples).sum := by
  have counted : (ofSamples samples).count ≠ 0 := by
    rwa [count_ofSamples, ne_eq, List.length_eq_zero_iff]
  rw [mean, if_neg counted]
  exact mul_div_cancel₀ _ (Nat.cast_ne_zero.mpr counted)

/-- Away from the mean, the distance of the number itself comes in once for each sample. -/
theorem squaredDistances_eq_add (nonempty : samples ≠ []) (center : Rat) :
    squaredDistances samples center = squaredDistances samples (ofSamples samples).mean +
      (ofSamples samples).count * ((ofSamples samples).mean - center) ^ 2 := by
  rw [squaredDistances_eq, squaredDistances_eq samples (ofSamples samples).mean]
  linear_combination 2 * (center - (ofSamples samples).mean) * count_mul_mean nonempty

/-- The numerator of the variance is the squared distances from the mean, once for each sample. -/
theorem numerator_eq (nonempty : samples ≠ []) :
    (ofSamples samples).count * (ofSamples samples).squaredSum -
        (ofSamples samples).sum * (ofSamples samples).sum =
      (ofSamples samples).count * squaredDistances samples (ofSamples samples).mean := by
  rw [squaredDistances_eq, ← count_mul_mean nonempty]
  ring

theorem variance_ofSamples (several : 2 ≤ samples.length) :
    (ofSamples samples).variance =
      squaredDistances samples (ofSamples samples).mean / (samples.length - 1) := by
  have nonempty : samples ≠ [] := List.ne_nil_of_length_pos (Nat.zero_lt_two.trans_le several)
  have counted : (samples.length : Rat) ≠ 0 := by
    exact_mod_cast (Nat.zero_lt_two.trans_le several).ne'
  have numerator := numerator_eq nonempty
  rw [count_ofSamples] at numerator
  rw [variance, count_ofSamples]
  simp only [Scale.ofCount, Nat.cast_one]
  rw [numerator, mul_div_mul_left _ _ counted]

theorem divisor_pos (several : 2 ≤ samples.length) : (0 : Rat) < samples.length - 1 := by
  have more : (1 : Rat) < samples.length := by
    exact_mod_cast several
  exact sub_pos.mpr more

theorem variance_nonneg (several : 2 ≤ samples.length) : 0 ≤ (ofSamples samples).variance := by
  rw [variance_ofSamples several]
  exact div_nonneg (squaredDistances_nonneg ..) (divisor_pos several).le

/-- Equal samples are where their mean is: any of them has no distance from the others, and the
distances from the mean are no larger. -/
theorem variance_eq_zero_iff (several : 2 ≤ samples.length) :
    (ofSamples samples).variance = 0 ↔
      ∀ first ∈ samples, ∀ second ∈ samples, first = second := by
  have nonempty : samples ≠ [] := List.ne_nil_of_length_pos (Nat.zero_lt_two.trans_le several)
  rw [variance_ofSamples several, div_eq_zero_iff, or_iff_left (divisor_pos several).ne']
  constructor
  · intro none first listed second also
    have together := squaredDistances_eq_zero_iff.mp none
    rw [together first listed, together second also]
  · intro equal
    obtain ⟨sample, listed⟩ := List.exists_mem_of_ne_nil samples nonempty
    have none : squaredDistances samples sample = 0 :=
      squaredDistances_eq_zero_iff.mpr fun other also => equal other also sample listed
    have fewer : 0 ≤ (ofSamples samples).count * ((ofSamples samples).mean - sample) ^ 2 :=
      mul_nonneg (Nat.cast_nonneg _) (sq_nonneg _)
    rw [squaredDistances_eq_add nonempty] at none
    exact ((add_eq_zero_iff_of_nonneg (squaredDistances_nonneg ..) fewer).mp none).1

/-- The counter and the timer of a run have the moments of what they were given, in doubles, and
the deviation is drawn from their variance. The same moments without rounding give the sample
variance of any two samples or more as it is defined, from their distances to the mean: it is
never negative, and it is zero exactly for samples that are all equal. -/
theorem variance_of_run {bound : Float} {quantiles : List Float} {fresh : Timer}
    (created : Timer.create bound quantiles = .ok fresh) (requests : List Timer.Request) :
    let doubles := (Timer.taken requests).map Binary64.toFloat
    (Counter.ofValues (Timer.taken requests)).moments = ofSamples doubles ∧
    (∃ timer, (fresh.serveAll requests).outcome = .ok timer ∧
      timer.moments = ofSamples doubles) ∧
    (2 ≤ doubles.length → (ofSamples doubles).deviation =
      (nonnegative (ofSamples doubles).variance).sqrt) ∧
    ∀ samples : List Rat, 2 ≤ samples.length →
      let moments := ofSamples samples
      moments.variance =
          (samples.map fun sample => (sample - moments.mean) ^ 2).sum / (samples.length - 1) ∧
        0 ≤ moments.variance ∧
        (moments.variance = 0 ↔ ∀ first ∈ samples, ∀ second ∈ samples, first = second) := by
  intro doubles
  obtain ⟨targets, rfl⟩ := Timer.eq_empty_of_create created
  obtain ⟨timer, served, -⟩ := (Timer.holds_empty targets).serveAll requests
  refine ⟨Counter.moments_ofValues _, ⟨timer, served, Timer.moments_serveAll served⟩, ?_, ?_⟩
  · intro several
    rw [deviation, count_ofSamples, if_neg (Nat.not_lt.mpr several)]
  · intro samples several
    exact ⟨variance_ofSamples several, variance_nonneg several, variance_eq_zero_iff several⟩

/-- The samples 2, 4 and 9 are 3, 1 and 4 away from their mean, so their variance is half of 26. None
of it is rounded in doubles. -/
theorem variance_of_three_samples :
    let requests : List Timer.Request := [.add ⟨0x4000000000000000⟩, .ask .least,
      .add ⟨0x4010000000000000⟩, .add ⟨0x4022000000000000⟩]
    let samples : List Rat := [2, 4, 9]
    ∃ fresh timer, Timer.create 0.01 [0.5, 0.95] = .ok fresh ∧
      (fresh.serveAll requests).outcome = .ok timer ∧ timer.moments.sum = 15 ∧
      timer.moments.squaredSum = 101 ∧ timer.moments.deviation = Float.sqrt 13 ∧
      2 ≤ samples.length ∧ (ofSamples samples).variance = 13 := by
  intro requests samples
  obtain ⟨fresh, created⟩ : ∃ fresh, Timer.create 0.01 [0.5, 0.95] = .ok fresh := ⟨_, rfl⟩
  obtain ⟨-, ⟨timer, served, moments⟩, deviation, exact⟩ := variance_of_run created requests
  have several : 2 ≤ samples.length := by decide
  have variance : nonnegative
      (ofSamples ((Timer.taken requests).map Binary64.toFloat)).variance = 13 := by
    decide +kernel
  rw [← moments] at deviation variance
  refine ⟨fresh, timer, created, served, ?_, ?_, ?_, several, ?_⟩
  · rw [moments]
    decide +kernel
  · rw [moments]
    decide +kernel
  · rw [deviation (by decide), variance]
  · rw [(exact samples several).1]
    decide +kernel

end Telemetry.Moments
