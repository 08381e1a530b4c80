/-
# Targeted quantiles

A sketch is asked for an error bound and for the quantiles at which it matters. They
fix how many ranks a sample may stand for: at a rank on its own side of a target, a
share of the distance to the far end, scaled so that the share at the target itself is
twice the error bound. With several targets the least share counts.

The rules hold on every scale: sketches that run weigh ranks in doubles.
-/

import Telemetry.Quantile.Policy
import Telemetry.Scale

namespace Telemetry.Quantile

open Scale (ofCount ceil toCount)

/-- Why targets are refused. -/
inductive TargetFault (R : Type) where
  /-- The error bound is not strictly between zero and one half. -/
  | boundOutOfRange (bound : R)
  /-- There are no quantiles. -/
  | noQuantiles
  /-- A quantile is not strictly between zero and one. -/
  | quantileOutOfRange (quantile : R)

/-- An error bound and the quantiles it is wanted at, in ascending order. -/
structure Targets (R : Type) where
  bound : R
  quantiles : List R
  nonempty : quantiles ≠ []

variable {R : Type} [Scale R] [LT R] [DecidableLT R]

/-- Whether a number lies strictly between zero and one half. -/
def isErrorBound [Div R] (number : R) : Bool :=
  decide (ofCount 0 < number) && decide (number < ofCount 1 / ofCount 2)

/-- Whether a number lies strictly between zero and one. -/
def isQuantile (number : R) : Bool :=
  decide (ofCount 0 < number) && decide (number < ofCount 1)

namespace Targets

variable [LE R] [DecidableLE R]

/-- Targets from an error bound and quantiles in any order. The bound is looked at
first, then the quantiles in the order given. -/
def create [Div R] (bound : R) (quantiles : List R) : Except (TargetFault R) (Targets R) :=
  if !isErrorBound bound then .error (.boundOutOfRange bound)
  else if nonempty : quantiles = [] then .error .noQuantiles
  else match quantiles.find? fun quantile => !isQuantile quantile with
    | some quantile => .error (.quantileOutOfRange quantile)
    | none =>
      .ok {
        bound := bound
        quantiles := quantiles.mergeSort fun first second => decide (first ≤ second)
        nonempty := fun sorted => nonempty (List.eq_nil_of_length_eq_zero (by
          rw [← List.length_mergeSort, sorted, List.length_nil])) }

variable [Add R] [Sub R] [Mul R] [Div R]

/-- The ranks one target leaves to a sample at a rank, among `count` values. -/
@[specialize] def allowance (targets : Targets R) (count : Nat) (rank quantile : R) : R :=
  if quantile * ofCount count ≤ rank then ofCount 2 * targets.bound * rank / quantile
  else ofCount 2 * targets.bound * (ofCount count - rank) / (ofCount 1 - quantile)

/-- The ranks all targets leave to a sample at a rank, among `count` values. -/
@[specialize] def threshold (targets : Targets R) (count : Nat) (rank : R) : R :=
  let first := targets.quantiles.head targets.nonempty
  targets.quantiles.tail.foldl
    (fun least quantile =>
      let allowed := targets.allowance count rank quantile
      if allowed < least then allowed else least)
    (targets.allowance count rank first)

/-- The policy that keeps every sample within the threshold at its highest rank, and
moves the cursors over the share of the list that the error bound names. -/
@[specialize] def policy (targets : Targets R) : Policy where
  admits count rank band := decide (ofCount band ≤ targets.threshold count (ofCount rank))
  stride length := toCount (ceil (ofCount length * targets.bound))

end Targets

end Telemetry.Quantile
