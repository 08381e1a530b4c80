/-
# Kinds of samples
-/

namespace Telemetry

/-- What a decoded sample is for. -/
inductive Kind where
  /-- A number reported as given, every one of them. -/
  | keyValue
  /-- A level, the last one set being reported. -/
  | gauge
  /-- A change to a level. -/
  | gaugeDelta
  /-- A sample of a counter. -/
  | counter
  /-- A duration. -/
  | timer
  /-- A member of a set, which is a key and not a number. -/
  | set
deriving DecidableEq, Repr

/-- The name of a kind in messages. -/
def Kind.name : Kind → String
  | .keyValue => "KeyVal"
  | .gauge => "Gauge"
  | .gaugeDelta => "GaugeDelta"
  | .counter => "Counter"
  | .timer => "Timer"
  | .set => "Set"

end Telemetry
