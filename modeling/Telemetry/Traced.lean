/-
# Operations that report events

A traced operation has an outcome and a list of events. The outcome of a sequence of
operations is the sequence of their outcomes, whatever they report, so reasoning about
results never has to mention events; and events raised before a failure are kept.
-/

import Telemetry.Event

namespace Telemetry

/-- An operation that answers or fails, with the events it raised, oldest first. -/
structure Traced (ε α : Type) where
  outcome : Except ε α
  events : List Event

namespace Traced

variable {ε ε' α β : Type}

/-- An answer that no event accompanies. -/
@[inline] protected def pure (answer : α) : Traced ε α :=
  ⟨.ok answer, []⟩

/-- Run the second operation on the answer of the first, unless that failed. -/
@[inline] protected def bind (first : Traced ε α) (next : α → Traced ε β) : Traced ε β :=
  match first with
  | ⟨.error failure, events⟩ => ⟨.error failure, events⟩
  | ⟨.ok answer, events⟩ =>
    match next answer with
    | ⟨outcome, later⟩ => ⟨outcome, events ++ later⟩

instance : Monad (Traced ε) where
  pure := Traced.pure
  bind := Traced.bind

instance : MonadLift (Except ε) (Traced ε) where
  monadLift outcome := ⟨outcome, []⟩

instance : MonadExcept ε (Traced ε) where
  throw failure := ⟨.error failure, []⟩
  tryCatch attempt handler :=
    match attempt with
    | ⟨.ok answer, events⟩ => ⟨.ok answer, events⟩
    | ⟨.error failure, events⟩ =>
      match handler failure with
      | ⟨outcome, later⟩ => ⟨outcome, events ++ later⟩

/-- Report events in order. -/
@[inline] def report (events : List Event) : Traced ε Unit :=
  ⟨.ok (), events⟩

/-- Explain failures in other terms. -/
@[inline] def mapError (explain : ε → ε') (operation : Traced ε α) : Traced ε' α :=
  ⟨operation.outcome.mapError explain, operation.events⟩

@[simp] theorem outcome_pure (answer : α) : (pure answer : Traced ε α).outcome = .ok answer :=
  rfl

@[simp] theorem outcome_bind (first : Traced ε α) (next : α → Traced ε β) :
    (first >>= next).outcome = first.outcome >>= fun answer => (next answer).outcome := by
  cases first with
  | mk outcome events => cases outcome <;> rfl

@[simp] theorem outcome_report (events : List Event) :
    (report events : Traced ε Unit).outcome = .ok () :=
  rfl

@[simp] theorem outcome_lift (outcome : Except ε α) :
    (liftM outcome : Traced ε α).outcome = outcome :=
  rfl

@[simp] theorem outcome_mapError (explain : ε → ε') (operation : Traced ε α) :
    (operation.mapError explain).outcome = operation.outcome.mapError explain :=
  rfl

instance : LawfulMonad (Traced ε) :=
  LawfulMonad.mk' _
    (fun operation => by
      cases operation with
      | mk outcome events => cases outcome <;> simp [Functor.map, Traced.bind, Traced.pure])
    (fun _ _ => by simp [bind, pure, Traced.bind, Traced.pure])
    (fun operation second third => by
      cases operation with
      | mk outcome events =>
        cases outcome with
        | error _ => rfl
        | ok answer =>
          simp only [bind, Traced.bind]
          cases second answer with
          | mk later raised => cases later <;> simp [List.append_assoc])

end Traced

end Telemetry
