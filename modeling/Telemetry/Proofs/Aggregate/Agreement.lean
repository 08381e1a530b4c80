/-
# Timers and counters of the same samples

A timer and a counter keep the moments of their samples in the same way, and questions to the
timer leave these alone. They find the extremes in different ways: the timer takes them from a
sketch that orders all bit patterns, the counter compares numbers as they come. As long as every
sample is a number, they lie in the same place, although they may be different zeros.
-/

import Telemetry.Aggregate.Counter
import Telemetry.Proofs.Aggregate.Visibility
import Telemetry.Proofs.Binary64.Numeric

namespace Telemetry

open Doubles (place? exists_place isNaN_eq_false lt_iff beq_iff)

/-- Where some samples lie that are numbers. -/
def places (values : List Binary64) : Set Rat :=
  {place | ∃ value ∈ values, place? value.toFloat = some place}

variable {values : List Binary64} {value : Binary64} {place : Rat}

@[simp] theorem places_nil : places [] = ∅ :=
  Set.eq_empty_of_forall_notMem fun _ ⟨_, member, _⟩ => List.not_mem_nil member

theorem places_append (placed : place? value.toFloat = some place) :
    places (values ++ [value]) = insert place (places values) := by
  ext other
  constructor
  · rintro ⟨sample, member, lies⟩
    rcases List.mem_append.mp member with earlier | last
    · exact .inr ⟨sample, earlier, lies⟩
    · rw [List.mem_singleton.mp last, placed] at lies
      exact .inl (Option.some.inj lies).symm
  · rintro (rfl | ⟨sample, member, lies⟩)
    · exact ⟨value, List.mem_append_right _ (List.mem_singleton_self value), placed⟩
    · exact ⟨sample, List.mem_append_left _ member, lies⟩

namespace Counter

/-- The counter of some samples, taken in one after another. -/
def ofValues (values : List Binary64) : Counter :=
  values.foldl (fun counter value => counter.add value.toFloat) .empty

theorem ofValues_append (values : List Binary64) (value : Binary64) :
    ofValues (values ++ [value]) = (ofValues values).add value.toFloat :=
  List.foldl_append

@[simp] theorem moments_add (counter : Counter) (sample : Float) :
    (counter.add sample).moments = counter.moments.add sample := by
  rw [add]
  split <;> rfl

/-- A counter keeps the moments of its samples. -/
theorem moments_ofValues (values : List Binary64) :
    (ofValues values).moments = (values.map Binary64.toFloat).foldl Moments.add .empty := by
  induction values using List.reverseRecOn with
  | nil => rfl
  | append_singleton values value recursion =>
    rw [ofValues_append, moments_add, recursion, List.map_append, List.foldl_append]
    rfl

theorem count_ofValues (values : List Binary64) :
    (ofValues values).moments.count = values.length := by
  rw [moments_ofValues, Timer.count_foldl_add, List.length_map]
  exact Nat.zero_add _

section Extremes

variable {first second : Float} {near far : Rat} {counter : Counter}

theorem place_lesser (placed : place? first = some near) (other : place? second = some far) :
    place? (lesser first second) = some (min far near) := by
  rw [lesser, isNaN_eq_false placed, Bool.or_false]
  simp only [decide_eq_true_eq, lt_iff other placed]
  split
  · rename_i less
    rw [other, min_eq_left less.le]
  · rename_i atLeast
    rw [placed, min_eq_right (not_lt.mp atLeast)]

theorem place_greater (placed : place? first = some near) (other : place? second = some far) :
    place? (greater first second) = some (max far near) := by
  rw [greater, isNaN_eq_false placed, Bool.or_false]
  simp only [decide_eq_true_eq, lt_iff placed other]
  split
  · rename_i more
    rw [other, max_eq_left more.le]
  · rename_i atMost
    rw [placed, max_eq_right (not_lt.mp atMost)]

/-- The extremes of a counter are numbers, and lie where those of some samples do. -/
structure Spans (counter : Counter) (values : List Binary64) : Prop where
  least : ∃ place, place? counter.least = some place ∧ IsLeast (places values) place
  greatest : ∃ place, place? counter.greatest = some place ∧ IsGreatest (places values) place

/-- The first sample is both extremes. -/
theorem spans_add (counter : Counter) (fresh : counter.moments.count = 0)
    (placed : place? value.toFloat = some place) : (counter.add value.toFloat).Spans [value] := by
  have only : places [value] = {place} := by
    rw [← List.nil_append [value], places_append placed, places_nil, insert_empty_eq]
  rw [add, if_pos fresh]
  exact ⟨⟨place, placed, only ▸ isLeast_singleton⟩, ⟨place, placed, only ▸ isGreatest_singleton⟩⟩

/-- A later sample may take the place of an extreme. -/
theorem Spans.add (spans : counter.Spans values) (counted : counter.moments.count ≠ 0)
    (placed : place? value.toFloat = some place) :
    (counter.add value.toFloat).Spans (values ++ [value]) := by
  obtain ⟨⟨low, lowest, least⟩, ⟨high, highest, greatest⟩⟩ := spans
  rw [Counter.add, if_neg counted]
  constructor
  · exact ⟨_, place_lesser lowest placed, places_append placed ▸ least.insert place⟩
  · exact ⟨_, place_greater highest placed, places_append placed ▸ greatest.insert place⟩

/-- The extremes of a counter are those of its samples, as long as all of them are numbers. -/
theorem spans_ofValues (numbers : ∀ value ∈ values, value.toFloat.isNaN = false)
    (some : values ≠ []) : (ofValues values).Spans values := by
  induction values using List.reverseRecOn with
  | nil => exact absurd rfl some
  | append_singleton values value recursion =>
    rw [List.forall_mem_append, List.forall_mem_singleton] at numbers
    obtain ⟨place, placed⟩ := exists_place numbers.2
    rw [ofValues_append]
    by_cases first : values = []
    · subst first
      exact spans_add _ rfl placed
    · refine (recursion numbers.1 first).add ?_ placed
      rwa [count_ofValues, ne_eq, List.length_eq_zero_iff]

end Extremes

end Counter

namespace Timer

variable {timer final : Timer}

theorem moments_settle (settled : timer.settle.outcome = .ok final) :
    final.moments = timer.moments := by
  rw [settle] at settled
  split at settled
  · obtain rfl := Except.ok.inj settled
    rfl
  · rw [Traced.outcome_bind] at settled
    obtain ⟨sketch, -, rest⟩ := exists_of_bind_eq_ok settled
    obtain rfl := Except.ok.inj rest
    rfl

/-- Only the samples that a request brings change the moments. -/
theorem moments_serve {request : Request} (served : (timer.serve request).outcome = .ok final) :
    final.moments =
      ((taken [request]).map Binary64.toFloat).foldl Moments.add timer.moments := by
  cases request with
  | add value =>
    rw [serve, add, Traced.outcome_bind] at served
    obtain ⟨sketch, -, rest⟩ := exists_of_bind_eq_ok served
    obtain rfl := Except.ok.inj rest
    rfl
  | ask question =>
    simp only [serve, ask_eq, bind_assoc, pure_bind, bind_pure] at served
    exact moments_settle served

theorem moments_serveAll {requests : List Request}
    (served : (timer.serveAll requests).outcome = .ok final) :
    final.moments =
      ((taken requests).map Binary64.toFloat).foldl Moments.add timer.moments := by
  induction requests generalizing timer with
  | nil =>
    obtain rfl := Except.ok.inj served
    rfl
  | cons request later recursion =>
    rw [serveAll, List.foldlM_cons, Traced.outcome_bind] at served
    obtain ⟨next, first, rest⟩ := exists_of_bind_eq_ok served
    rw [recursion rest, moments_serve first, taken_cons request later, List.map_append, List.foldl_append]

/-- The least sample in the order of all bit patterns lies lowest. -/
theorem isLeast_places (numbers : ∀ value ∈ values, value.toFloat.isNaN = false)
    (least : IsLeast {other | other ∈ values} value) :
    ∃ place, place? value.toFloat = some place ∧ IsLeast (places values) place := by
  obtain ⟨place, placed⟩ := exists_place (numbers value least.1)
  refine ⟨place, placed, ⟨value, least.1, placed⟩, ?_⟩
  rintro other ⟨sample, member, lies⟩
  exact Binary64.place_le_place (least.2 member) placed lies

/-- The greatest sample in the order of all bit patterns lies highest. -/
theorem isGreatest_places (numbers : ∀ value ∈ values, value.toFloat.isNaN = false)
    (greatest : IsGreatest {other | other ∈ values} value) :
    ∃ place, place? value.toFloat = some place ∧ IsGreatest (places values) place := by
  obtain ⟨place, placed⟩ := exists_place (numbers value greatest.1)
  refine ⟨place, placed, ⟨value, greatest.1, placed⟩, ?_⟩
  rintro other ⟨sample, member, lies⟩
  exact Binary64.place_le_place (greatest.2 member) lies placed

section Answers

variable {sketch : Quantile.Sketch Float} {answer : Binary64}

/-- What a timer answers for its least sample is what a counter of the same samples keeps. -/
theorem beq_least (numbers : ∀ value ∈ values, value.toFloat.isNaN = false)
    (answered : Question.least.Answered values sketch answer) :
    answer.toFloat == (Counter.ofValues values).least := by
  cases answered with
  | nothing empty =>
    subst empty
    rfl
  | least least =>
    obtain ⟨place, placed, lowest⟩ := isLeast_places numbers least
    obtain ⟨other, kept, low⟩ :=
      (Counter.spans_ofValues numbers (List.ne_nil_of_mem least.1)).least
    exact (beq_iff placed kept).mpr (lowest.unique low)

/-- What a timer answers for its greatest sample is what a counter of the same samples keeps. -/
theorem beq_greatest (numbers : ∀ value ∈ values, value.toFloat.isNaN = false)
    (answered : Question.greatest.Answered values sketch answer) :
    answer.toFloat == (Counter.ofValues values).greatest := by
  cases answered with
  | nothing empty =>
    subst empty
    rfl
  | greatest greatest =>
    obtain ⟨place, placed, highest⟩ := isGreatest_places numbers greatest
    obtain ⟨other, kept, high⟩ :=
      (Counter.spans_ofValues numbers (List.ne_nil_of_mem greatest.1)).greatest
    exact (beq_iff placed kept).mpr (highest.unique high)

end Answers

/-- For all accepted targets, after any samples and questions, a timer has the moments of a counter
of the same samples, and so the same mean and deviation. If all the samples are numbers, then it
answers for the least and the greatest of them what equals those that the counter keeps. -/
theorem agrees_with_counter_of_run {bound : Float} {quantiles : List Float} {fresh : Timer}
    (created : create bound quantiles = .ok fresh) (requests : List Request) :
    let counter := Counter.ofValues (taken requests)
    ∃ timer, (fresh.serveAll requests).outcome = .ok timer ∧ timer.moments = counter.moments ∧
      timer.moments.mean = counter.moments.mean ∧
      timer.moments.deviation = counter.moments.deviation ∧
      ((∀ value ∈ taken requests, value.toFloat.isNaN = false) →
        (∃ answer final, (timer.ask .least).outcome = .ok (answer, final) ∧
          answer.toFloat == counter.least) ∧
        ∃ answer final, (timer.ask .greatest).outcome = .ok (answer, final) ∧
          answer.toFloat == counter.greatest) := by
  intro counter
  obtain ⟨targets, rfl⟩ := eq_empty_of_create created
  obtain ⟨timer, served, holds⟩ := (holds_empty targets).serveAll requests
  rw [List.nil_append] at holds
  have moments : timer.moments = counter.moments :=
    (moments_serveAll served).trans (Counter.moments_ofValues _).symm
  refine ⟨timer, served, moments, congrArg Moments.mean moments,
    congrArg Moments.deviation moments, fun numbers => ⟨?_, ?_⟩⟩
  · obtain ⟨⟨answer, final⟩, asked, -, -, -, answered⟩ := holds.ask .least
    exact ⟨answer, final, asked, beq_least numbers answered⟩
  · obtain ⟨⟨answer, final⟩, asked, -, -, -, answered⟩ := holds.ask .greatest
    exact ⟨answer, final, asked, beq_greatest numbers answered⟩

/-- Of one and both zeros, a counter keeps as the least the zero that came first. The answer of a
timer equals it, whichever zero it is. -/
theorem agrees_with_counter_of_zeros :
    let requests : List Request := [.add ⟨0x3ff0000000000000⟩, .add ⟨0⟩, .ask .greatest,
      .add ⟨0x8000000000000000⟩]
    ∃ fresh timer, create 0.01 [0.5, 0.95] = .ok fresh ∧
      (fresh.serveAll requests).outcome = .ok timer ∧ timer.moments = ⟨3, 1, 1⟩ ∧
      timer.moments.mean = 1 / 3 ∧
      timer.moments.deviation = (Moments.deviation ⟨3, 1, 1⟩) ∧
      (∃ answer final, (timer.ask .least).outcome = .ok (answer, final) ∧ answer.toFloat == 0) ∧
      ∃ answer final, (timer.ask .greatest).outcome = .ok (answer, final) ∧
        answer.toFloat == 1 := by
  intro requests
  obtain ⟨fresh, created⟩ : ∃ fresh, create 0.01 [0.5, 0.95] = .ok fresh := ⟨_, rfl⟩
  obtain ⟨timer, served, moments, mean, deviation, extremes⟩ :=
    agrees_with_counter_of_run created requests
  have numbers : ∀ value ∈ taken requests, value.toFloat.isNaN = false := by decide
  have kept : Counter.ofValues (taken requests) = ⟨⟨3, 1, 1⟩, 0, 1⟩ := by rfl
  rw [kept] at moments mean deviation extremes
  exact ⟨fresh, timer, created, served, moments, mean.trans (by rfl), deviation,
    extremes numbers⟩

end Timer

end Telemetry
