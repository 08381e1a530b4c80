/-
# Merge policies

A summary decides two things by numbers alone: whether two neighbouring samples may be
merged, and how far its cursors move in one call. A policy answers both. The structure
of a summary stays sound under every policy; only its accuracy depends on which one.
-/

namespace Telemetry.Quantile

/-- What a summary may merge, and how fast it works. -/
structure Policy where
  /-- Whether one sample may stand for `band` ranks, the highest of them being `rank`,
  when `count` values have been merged. -/
  admits : (count rank band : Nat) → Bool
  /-- Nodes a cursor should pass in one call, for a list of a given length. -/
  stride : (length : Nat) → Nat

/-- Nodes a cursor does pass in one call: always at least one, so that work ends. -/
def Policy.steps (policy : Policy) (length : Nat) : Nat :=
  max (policy.stride length) 1

end Telemetry.Quantile
