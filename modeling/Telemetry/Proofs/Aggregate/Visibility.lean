/-
# What the answers of a timer are drawn from

A timer merges its staged samples only when it is asked, and then remembers that it has until
the next sample comes. So an answer is never short of a sample: either the timer had merged
all of them before, and none has come since, or it does so first. Asking leaves the moments
alone.
-/

import Telemetry.Proofs.Aggregate.Durations
import Telemetry.Proofs.Quantile.Query

namespace Telemetry.Timer

open Quantile (Sketch SlotFault Summary Targets)

/-- What a timer can be asked. -/
inductive Question where
  | quantile (share : Float)
  | least
  | greatest

/-- What a timer can be called for. -/
inductive Request where
  | add (value : Binary64)
  | ask (question : Question)

/-- The sample that a request brings, if it brings one. -/
def Request.value? : Request → Option Binary64
  | add value => some value
  | ask _ => none

/-- The samples that requests bring, in order. -/
def taken (requests : List Request) : List Binary64 :=
  requests.filterMap Request.value?

theorem taken_cons (request : Request) (later : List Request) :
    taken (request :: later) = taken [request] ++ taken later := by
  rw [taken, taken, taken, ← List.filterMap_append, List.singleton_append]

/-- Answer a question. -/
def ask (timer : Timer) : Question → Traced SlotFault (Binary64 × Timer)
  | .quantile share => timer.query share
  | .least => timer.least
  | .greatest => timer.greatest

/-- Serve a request, whatever it answers. -/
def serve (timer : Timer) : Request → Traced SlotFault Timer
  | .add value => timer.add value
  | .ask question => do return (← timer.ask question).2

/-- Serve requests in order. -/
def serveAll (timer : Timer) (requests : List Request) : Traced SlotFault Timer :=
  requests.foldlM serve timer

/-- What a sketch has to say to a question, if it has any values. -/
def Question.read? (sketch : Sketch Float) : Question → Option Binary64
  | .quantile share => sketch.query share
  | .least => sketch.min?
  | .greatest => sketch.max?

/-- What a question about some samples is answered with, from a sketch of them. -/
inductive Question.Answered (values : List Binary64) (sketch : Sketch Float) :
    Question → Binary64 → Prop
  | nothing {question : Question} (empty : values = []) : Answered values sketch question 0
  | quantile {share : Float} {value : Binary64} (member : value ∈ values)
      (found : sketch.query share = some value) : Answered values sketch (.quantile share) value
  | least {value : Binary64} (least : IsLeast {other | other ∈ values} value) :
      Answered values sketch .least value
  | greatest {value : Binary64} (greatest : IsGreatest {other | other ∈ values} value) :
      Answered values sketch .greatest value

/-- A timer that has taken some samples in: its sketch accounts for each of them, and has nothing
staged if the timer says so. -/
structure Holds (values : List Binary64) (timer : Timer) : Prop where
  accounts : timer.sketch.summary.Accounts (fun _ _ _ => True) ↑values
  count : timer.moments.count = values.length
  settled : timer.settled = true → timer.sketch.summary.staged = 0

variable {values : List Binary64} {timer : Timer}

theorem holds_empty (targets : Targets Float) : Holds [] (empty targets) where
  accounts := ⟨0, [], [], Summary.consistent_empty, rfl⟩
  count := rfl
  settled _ := rfl

/-- All samples are merged or staged. -/
theorem Holds.count_add_buffered (holds : Holds values timer) :
    timer.sketch.count + timer.sketch.buffered = values.length := by
  obtain ⟨merged, passed, coming, consistent, all⟩ := holds.accounts
  have sizes := congrArg Multiset.card all
  rw [Multiset.card_add, Summary.card_staged, Multiset.coe_card] at sizes
  rw [Sketch.count, Sketch.buffered, consistent.count_eq_card, sizes]

/-- A sample that comes is accounted for, and unsettles the timer. -/
theorem Holds.add (holds : Holds values timer) (value : Binary64) :
    Answers (timer.add value).outcome (Holds (values ++ [value])) := by
  obtain ⟨summary, called, accounts⟩ :=
    holds.accounts.call (timer.sketch.targets.policy, .add value) fun _ _ _ _ => trivial
  have added : (timer.sketch.add value).outcome = .ok ⟨timer.sketch.targets, summary⟩ := by
    have outcome := Sketch.outcome_call timer.sketch (.add value)
    rw [called] at outcome
    exact outcome
  rw [outcome_add, added]
  refine ⟨_, rfl, accounts, ?_, Bool.noConfusion⟩
  rw [List.length_append, ← holds.count]
  rfl

/-- A settled timer has merged all samples, and settling changes nothing else. -/
theorem Holds.settle (holds : Holds values timer) :
    Answers timer.settle.outcome fun final =>
      Holds values final ∧ final.sketch.summary.staged = 0 ∧ final.moments = timer.moments := by
  rw [Timer.settle]
  split
  case isTrue settled => exact answers_ok ⟨holds, holds.settled settled, rfl⟩
  case isFalse =>
    obtain ⟨merged, passed, coming, consistent, all⟩ := holds.accounts
    obtain ⟨summary, succeeded, -, passed', coming', further, none⟩ :=
      consistent.flush_drains timer.sketch.targets.policy fun _ _ _ _ => trivial
    have flushed : timer.sketch.flush.outcome = .ok ⟨timer.sketch.targets, summary⟩ :=
      (Sketch.outcome_call timer.sketch .flush).trans (congrArg (Except.map _) succeeded)
    rw [Traced.outcome_bind, flushed]
    refine answers_ok ⟨⟨?_, holds.count, fun _ => none⟩, none, rfl⟩
    exact ⟨_, passed', coming', further, by rw [none, add_zero, all]⟩

/-- A question settles the timer, and is answered from the sketch that there is then. -/
theorem ask_eq (timer : Timer) (question : Question) :
    timer.ask question = do
      let timer ← timer.settle
      return ((question.read? timer.sketch).getD 0, timer) := by
  cases question <;> rfl

/-- A sketch that has merged all samples has the answers to the questions about them. -/
theorem Holds.answered (holds : Holds values timer) (merges : timer.sketch.summary.staged = 0)
    (question : Question) :
    question.Answered values timer.sketch ((question.read? timer.sketch).getD 0) := by
  obtain ⟨merged, passed, coming, consistent, all⟩ := holds.accounts
  rw [merges, add_zero] at all
  subst all
  have core := consistent.toCore
  cases found : question.read? timer.sketch with
  | none =>
    refine .nothing (Multiset.coe_eq_zero _ |>.mp ?_)
    cases question with
    | quantile share => exact core.query_eq_none_iff.mp found
    | least => exact core.min?_eq_none_iff.mp found
    | greatest => exact core.max?_eq_none_iff.mp found
  | some value =>
    cases question with
    | quantile share => exact .quantile (core.mem_of_query found) found
    | least => exact .least (core.isLeast_of_min? found)
    | greatest => exact .greatest (core.isGreatest_of_max? found)

/-- A question is answered from a sketch that has merged all samples, and it changes neither
these nor the moments. -/
theorem Holds.ask (holds : Holds values timer) (question : Question) :
    Answers (timer.ask question).outcome fun (answer, final) =>
      Holds values final ∧ final.sketch.summary.staged = 0 ∧ final.moments = timer.moments ∧
        question.Answered values final.sketch answer := by
  rw [ask_eq, Traced.outcome_bind]
  apply holds.settle.bind
  rintro final ⟨still, merges, moments⟩
  exact answers_ok ⟨still, merges, moments, still.answered merges question⟩

/-- A request leaves a timer that holds one more sample if the request brings one. -/
theorem Holds.serve (holds : Holds values timer) (request : Request) :
    Answers (timer.serve request).outcome (Holds (values ++ taken [request])) := by
  cases request with
  | add value => exact holds.add value
  | ask question =>
    rw [Timer.serve, Traced.outcome_bind]
    apply (holds.ask question).bind
    rintro ⟨answer, final⟩ ⟨still, -⟩
    exact answers_ok (by rwa [taken, List.filterMap_cons_none rfl, List.filterMap_nil,
      List.append_nil])

/-- A run leaves a timer that holds the samples brought, whatever was asked in between. -/
theorem Holds.serveAll (holds : Holds values timer) (requests : List Request) :
    Answers (timer.serveAll requests).outcome (Holds (values ++ taken requests)) := by
  induction requests generalizing timer values with
  | nil => exact answers_ok (by rwa [taken, List.filterMap_nil, List.append_nil])
  | cons request later recursion =>
    rw [Timer.serveAll, List.foldlM_cons, Traced.outcome_bind, taken_cons, ← List.append_assoc]
    exact (holds.serve request).bind fun next still => recursion still

/-- For all accepted targets, after any samples and questions: a timer that says it is settled
has nothing staged, and it has counted every sample, merged or staged. Each question is then
answered from a sketch that has merged all of them, and leaves the moments as they were. -/
theorem sees_all_of_run {bound : Float} {quantiles : List Float} {fresh : Timer}
    (created : create bound quantiles = .ok fresh) (requests : List Request) :
    ∃ timer, (fresh.serveAll requests).outcome = .ok timer ∧
      (timer.settled = true → timer.sketch.buffered = 0) ∧
      timer.moments.count = timer.sketch.count + timer.sketch.buffered ∧
      timer.moments.count = (taken requests).length ∧
      ∀ question, ∃ answer final, (timer.ask question).outcome = .ok (answer, final) ∧
        question.Answered (taken requests) final.sketch answer ∧ final.sketch.buffered = 0 ∧
        final.sketch.count = timer.moments.count ∧ final.moments = timer.moments := by
  obtain ⟨targets, rfl⟩ := eq_empty_of_create created
  obtain ⟨timer, answered, holds⟩ := (holds_empty targets).serveAll requests
  rw [List.nil_append] at holds
  refine ⟨timer, answered, ?_, ?_, holds.count, ?_⟩
  · intro settled
    exact Summary.buffered_eq_zero_iff.mpr (holds.settled settled)
  · rw [holds.count, holds.count_add_buffered]
  · intro question
    obtain ⟨⟨answer, final⟩, succeeded, still, merges, moments, answers⟩ := holds.ask question
    have none : final.sketch.buffered = 0 := Summary.buffered_eq_zero_iff.mpr merges
    have all := still.count_add_buffered
    rw [none, add_zero] at all
    exact ⟨answer, final, succeeded, answers, none, all.trans holds.count.symm, moments⟩

/-- Samples that come after a question are seen by the next one: of 10, 20, 30, and later 5 and
50, the extremes are 5 and 50, and the sample at a quantile is looked for among all five. -/
theorem sees_all_of_late_samples :
    let requests : List Request := [.add ⟨0x4024000000000000⟩, .add ⟨0x4034000000000000⟩,
      .add ⟨0x403e000000000000⟩, .ask .greatest, .add ⟨0x4014000000000000⟩,
      .add ⟨0x4049000000000000⟩]
    ∃ fresh timer, create 0.01 [0.5, 0.95] = .ok fresh ∧
      (fresh.serveAll requests).outcome = .ok timer ∧ timer.moments.count = 5 ∧
      (∃ answer final, (timer.ask (.quantile 0.95)).outcome = .ok (answer, final) ∧
        final.sketch.query 0.95 = some answer ∧ answer ∈ taken requests ∧
        final.sketch.count = 5 ∧ final.moments = timer.moments) ∧
      (∃ final, (timer.ask .least).outcome = .ok (⟨0x4014000000000000⟩, final)) ∧
      ∃ final, (timer.ask .greatest).outcome = .ok (⟨0x4049000000000000⟩, final) := by
  intro requests
  obtain ⟨fresh, created⟩ : ∃ fresh, create 0.01 [0.5, 0.95] = .ok fresh := ⟨_, rfl⟩
  obtain ⟨timer, served, -, -, count, answers⟩ := sees_all_of_run created requests
  refine ⟨fresh, timer, created, served, count, ?_, ?_, ?_⟩
  · obtain ⟨answer, final, succeeded, found, -, merged, moments⟩ := answers (.quantile 0.95)
    cases found with
    | nothing empty => cases empty
    | quantile member found =>
      exact ⟨answer, final, succeeded, found, member, merged.trans count, moments⟩
  · obtain ⟨answer, final, succeeded, found, -⟩ := answers .least
    have member : ⟨0x4014000000000000⟩ ∈ taken requests := by decide
    have below : ∀ other ∈ taken requests, ⟨0x4014000000000000⟩ ≤ other := by decide
    cases found with
    | nothing empty => cases empty
    | least least => exact ⟨final, least.unique ⟨member, below⟩ ▸ succeeded⟩
  · obtain ⟨answer, final, succeeded, found, -⟩ := answers .greatest
    have member : ⟨0x4049000000000000⟩ ∈ taken requests := by decide
    have above : ∀ other ∈ taken requests, other ≤ ⟨0x4049000000000000⟩ := by decide
    cases found with
    | nothing empty => cases empty
    | greatest greatest => exact ⟨final, greatest.unique ⟨member, above⟩ ▸ succeeded⟩

end Telemetry.Timer
