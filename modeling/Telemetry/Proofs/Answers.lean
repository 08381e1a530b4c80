/-
# Operations that answer

Most operations refuse a slot without a node, so each of them may fail. That an operation
answers, and what its answer satisfies, is proved in one statement: whoever relies on the
answer then never has to assume that there is one.
-/

import Telemetry.Traced

namespace Telemetry

variable {ε α β : Type}

/-- The outcome is an answer with a given property. -/
def Answers (outcome : Except ε α) (holds : α → Prop) : Prop :=
  ∃ answer, outcome = .ok answer ∧ holds answer

variable {outcome : Except ε α} {holds : α → Prop}

theorem answers_ok {answer : α} (satisfied : holds answer) :
    Answers (.ok answer : Except ε α) holds :=
  ⟨answer, rfl, satisfied⟩

theorem Answers.mono {weaker : α → Prop} (answers : Answers outcome holds)
    (implies : ∀ answer, holds answer → weaker answer) : Answers outcome weaker := by
  obtain ⟨answer, succeeded, satisfied⟩ := answers
  exact ⟨answer, succeeded, implies answer satisfied⟩

/-- An operation answers when its first part does, and the rest does on every answer that
the first part may give. -/
theorem Answers.bind {next : α → Except ε β} {eventual : β → Prop}
    (answers : Answers outcome holds)
    (rest : ∀ answer, holds answer → Answers (next answer) eventual) :
    Answers (outcome >>= next) eventual := by
  obtain ⟨answer, rfl, satisfied⟩ := answers
  exact rest answer satisfied

theorem except_ok_bind (answer : α) (next : α → Except ε β) :
    ((.ok answer : Except ε α) >>= next) = next answer :=
  rfl

/-- What comes after a part that is known to answer runs on its answer. -/
theorem answers_ok_bind {answer : α} {next : α → Except ε β} {eventual : β → Prop} :
    Answers ((.ok answer : Except ε α) >>= next) eventual ↔ Answers (next answer) eventual :=
  Iff.rfl

/-- An operation that has answered in the end has answered after its first part. -/
theorem exists_of_bind_eq_ok {next : α → Except ε β} {result : β}
    (succeeded : (outcome >>= next) = .ok result) :
    ∃ answer, outcome = .ok answer ∧ next answer = .ok result := by
  cases outcome with
  | error failure => cases succeeded
  | ok answer => exact ⟨answer, rfl, succeeded⟩

/-- Explaining failures in other terms makes no answer of them. -/
theorem mapError_eq_ok {ε' : Type} {explain : ε → ε'} {answer : α} :
    outcome.mapError explain = .ok answer ↔ outcome = .ok answer := by
  cases outcome with
  | error failure => exact ⟨nofun, nofun⟩
  | ok found =>
    exact ⟨fun same => congrArg _ (Except.ok.inj same), fun same => congrArg _ (Except.ok.inj same)⟩

/-- Forgetting what is answered keeps the failures. -/
theorem eq_error_of_map {forget : α → β} {fault : ε} (failed : outcome.map forget = .error fault) :
    outcome = .error fault := by
  cases outcome with
  | ok answer => cases failed
  | error other => exact congrArg Except.error (Except.error.inj failed)

/-- What an operation answers, if it does. -/
def Traced.answer? (operation : Traced ε α) : Option α :=
  operation.outcome.toOption

/-- A second version of what comes after a part that answers only has to agree on the answers
that the part may give. -/
theorem Answers.toOption_bind {next : α → Except ε β} {next? : α → Option β}
    (answers : Answers outcome holds)
    (agrees : ∀ answer, holds answer → next? answer = (next answer).toOption) :
    (outcome.toOption >>= next?) = (outcome >>= next).toOption := by
  obtain ⟨answer, rfl, satisfied⟩ := answers
  exact agrees answer satisfied

/-- A second version of a step only has to agree where the fold may get to. -/
theorem foldlM_eq_toOption {σ : Type} {keeps : σ → Prop} {step : σ → α → Except ε σ}
    {step? : σ → α → Option σ}
    (agrees : ∀ state value, keeps state → step? state value = (step state value).toOption)
    (kept : ∀ state value, keeps state → ∀ next, step state value = .ok next → keeps next)
    (values : List α) {start : σ} (begins : keeps start) :
    values.foldlM step? start = (values.foldlM step start).toOption := by
  induction values generalizing start with
  | nil => rfl
  | cons value later recursion =>
    rw [List.foldlM_cons, List.foldlM_cons, agrees start value begins]
    cases stepped : step start value with
    | error failure => rfl
    | ok next => exact recursion (kept start value begins next stepped)

theorem Traced.outcome_foldlM {σ : Type} (step : σ → α → Traced ε σ) (values : List α) (start : σ) :
    (values.foldlM step start).outcome =
      values.foldlM (fun state value => (step state value).outcome) start := by
  induction values generalizing start with
  | nil => rfl
  | cons value later recursion =>
    rw [List.foldlM_cons, List.foldlM_cons, Traced.outcome_bind]
    exact congrArg _ (funext recursion)

end Telemetry
