/-
# Events

What the library reports about its own work. An event carries the facts; its level
and wording are functions of it, so no caller can phrase the same event differently.
-/

namespace Telemetry

/-- A change in the number of storage pages, with the entries held at that moment. -/
structure Resize where
  fromPages : Nat
  toPages : Nat
  entries : Nat
deriving DecidableEq, Repr

/-- How much attention an event deserves. -/
inductive Level where
  | trace
  | debug
  | warn
deriving DecidableEq, Repr

/-- The name a level is reported under. -/
def Level.name : Level → String
  | .trace => "TRACE"
  | .debug => "DEBUG"
  | .warn => "WARN"

/-- Something worth reporting that happened during an operation. -/
inductive Event where
  /-- The staging storage of a sketch, or a heap of the caller's, changed its size. -/
  | heapResized (change : Resize)
  /-- A pass over the samples ended; the lengths are those just before the exchange. -/
  | stagingSwapped (ahead behind samples : Nat)
  /-- A distinct set was started under a new name. -/
  | setCreated (name : String) (precision : Nat)
  /-- A timer was started under a new name, with or without a histogram. -/
  | timerCreated (name : String) (binned : Bool)
  /-- A distinct set stopped counting exactly. -/
  | setApproximated (precision : Nat)
  /-- The timer error of some settings is accepted but hardly useful. -/
  | coarseTimerError (bound : Float)
  /-- A later histogram of some settings hides an earlier one. -/
  | repeatedStem (stem : String)

namespace Event

/-- The level of an event depends on its kind alone. -/
def level : Event → Level
  | heapResized _ | stagingSwapped .. => .trace
  | setCreated .. | timerCreated .. | setApproximated _ => .debug
  | coarseTimerError _ | repeatedStem _ => .warn

/-- The wording of an event depends on its kind alone; the facts are reported beside it. -/
def message : Event → String
  | heapResized _ => "resizing heap"
  | stagingSwapped .. => "swapping staging buffers"
  | setCreated .. => "creating set"
  | timerCreated .. => "creating timer"
  | setApproximated _ => "set converted to hyperloglog"
  | coarseTimerError _ => "timer epsilon very high"
  | repeatedStem _ => "duplicate histogram prefix, the last one wins"

end Event

end Telemetry
