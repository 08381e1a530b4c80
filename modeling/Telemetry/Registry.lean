/-
# The registry

A registry holds the aggregates of one reporting interval, by kind and name. The first
sample for a name makes its aggregate, from settings that were checked when the registry
was made, and each aggregate looks at its own parameters once more. Key/value pairs are kept
as they arrive; everything else is kept by name, and a name used for several kinds has an
aggregate of each.

Making an aggregate may fail, and the registry changes only after it has been made.
-/

import Std.Data.TreeMap
import Telemetry.Aggregate.Counter
import Telemetry.Aggregate.DistinctSet
import Telemetry.Aggregate.Timer
import Telemetry.Histogram.Basic
import Telemetry.Settings

namespace Telemetry

/-- A timer with the histogram of its samples, where a binning applies to its name. -/
structure TimerEntry where
  timer : Timer
  histogram? : Option Histogram

/-- What the aggregates of a registry are made with. -/
structure Registry.Parameters where
  /-- The error bound of timers. -/
  timerError : Float
  /-- The quantiles of timers. -/
  quantiles : List Float
  /-- The number of bits of distinct sets. -/
  precision : Nat
  /-- The binnings of histograms. -/
  binnings : List Binning

/-- Aggregates by kind and name. -/
structure Registry where
  parameters : Registry.Parameters
  /-- Key/value pairs in order of arrival. -/
  keyValues : Array (String × Binary64)
  gauges : Std.TreeMap String Binary64
  counters : Std.TreeMap String Counter
  timers : Std.TreeMap String TimerEntry
  sets : Std.TreeMap String DistinctSet

/-- One aggregate, as reported. -/
inductive Metric where
  | keyValue (value : Binary64)
  | gauge (level : Binary64)
  | counter (counter : Counter)
  | timer (entry : TimerEntry)
  | set (set : DistinctSet)

namespace Registry

/-- The binning for a name: of those whose stem the name begins with, the last one among
the longest. -/
def binningFor (binnings : List Binning) (name : String) : Option Binning :=
  (binnings.filter fun binning => binning.stem.isPrefixOf name).foldl
    (fun chosen? binning =>
      match chosen? with
      | none => some binning
      | some chosen =>
        if binning.stem.utf8ByteSize < chosen.stem.utf8ByteSize then some chosen
        else some binning)
    none

namespace Parameters

/-- The parameters that settings ask for. -/
def ofSettings (settings : Settings) : Except Error Parameters := do
  let precision ← settings.precision
  return ⟨settings.timerError, settings.quantiles, precision.bits, settings.binnings⟩

/-- The histogram for a name, where there is a binning for it. -/
def newHistogram (parameters : Parameters) (name : String) : Except Error (Option Histogram) :=
  match binningFor parameters.binnings name with
  | none => .ok none
  | some binning => some <$> Histogram.create binning

/-- A timer for a name. -/
def newTimer (parameters : Parameters) (name : String) : Traced Error TimerEntry := do
  let histogram? ← parameters.newHistogram name
  Traced.report [.timerCreated name histogram?.isSome]
  let timer ← Timer.create parameters.timerError parameters.quantiles
  return ⟨timer, histogram?⟩

/-- A set for a name. -/
def newSet (parameters : Parameters) (name : String) : Traced Error DistinctSet := do
  Traced.report [.setCreated name parameters.precision]
  DistinctSet.create parameters.precision

end Parameters

/-- A registry without aggregates. -/
def blank (parameters : Parameters) : Registry :=
  ⟨parameters, #[], ∅, ∅, ∅, ∅⟩

/-- A registry without aggregates, made with settings. -/
def create (settings : Settings) : Traced Error Registry := do
  settings.check
  return blank (← Parameters.ofSettings settings)

/-- The timer of a name, which is made if there is none. -/
def timerFor (registry : Registry) (name : String) : Traced Error TimerEntry :=
  match registry.timers[name]? with
  | some entry => pure entry
  | none => registry.parameters.newTimer name

/-- The set of a name, which is made if there is none. -/
def setFor (registry : Registry) (name : String) : Traced Error DistinctSet :=
  match registry.sets[name]? with
  | some set => pure set
  | none => registry.parameters.newSet name

/-- Add a sample to a timer and to its histogram. -/
def TimerEntry.add (entry : TimerEntry) (value : Binary64) : Traced Error TimerEntry := do
  let ⟨timer, histogram?⟩ := entry
  let timer ← (timer.add value).mapError Error.slot
  return ⟨timer, histogram?.map (·.insert value.toFloat)⟩

/-- Add a sample to the timer of a name. The timer is taken out of the registry while it
changes. -/
def addDuration (registry : Registry) (name : String) (value : Binary64) :
    Traced Error Registry := do
  let entry ← registry.timerFor name
  let registry := { registry with timers := registry.timers.erase name }
  let entry ← TimerEntry.add entry value
  return { registry with timers := registry.timers.insert name entry }

/-- Add a numeric sample. Members of sets are no numbers. -/
def add (registry : Registry) (kind : Kind) (name : String) (value : Binary64) :
    Traced Error Registry :=
  match kind with
  | .keyValue => return { registry with keyValues := registry.keyValues.push (name, value) }
  | .gauge => return { registry with gauges := registry.gauges.insert name value }
  | .gaugeDelta =>
    return { registry with
      gauges := registry.gauges.alter name fun level? =>
        some (.ofFloat ((level?.getD 0).toFloat + value.toFloat)) }
  | .counter =>
    return { registry with
      counters := registry.counters.alter name fun counter? =>
        some ((counter?.getD .empty).add value.toFloat) }
  | .timer => registry.addDuration name value
  | .set => throw (.notNumeric .set)

/-- Add a member to the set of a name. The set is taken out of the registry while it changes. -/
def addMember (hasher : ByteArray → UInt64) (registry : Registry) (name : String)
    (key : ByteArray) : Traced Error Registry := do
  let set ← registry.setFor name
  let registry := { registry with sets := registry.sets.erase name }
  let set ← set.add hasher key
  return { registry with sets := registry.sets.insert name set }

/-- Make every sample of every timer visible to queries, timer by timer in order of
their names. -/
def settle (registry : Registry) : Traced Error Registry :=
  registry.timers.toList.foldlM
    (fun registry (name, entry) => do
      let timer ← entry.timer.settle.mapError Error.slot
      return { registry with timers := registry.timers.insert name { entry with timer := timer } })
    registry

/-- The number of aggregates, every key/value pair being one. -/
def length (registry : Registry) : Nat :=
  registry.keyValues.size + registry.gauges.size + registry.counters.size +
    registry.timers.size + registry.sets.size

/-- Every aggregate once with its name: key/value pairs in order of arrival, then gauges,
counters, timers and sets, each by name. -/
def metrics (registry : Registry) : List (String × Metric) :=
  registry.keyValues.toList.map (fun (name, value) => (name, .keyValue value)) ++
    registry.gauges.toList.map (fun (name, level) => (name, .gauge level)) ++
    registry.counters.toList.map (fun (name, counter) => (name, .counter counter)) ++
    registry.timers.toList.map (fun (name, entry) => (name, .timer entry)) ++
    registry.sets.toList.map (fun (name, set) => (name, .set set))

end Registry

end Telemetry
