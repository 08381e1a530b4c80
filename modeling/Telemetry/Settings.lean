/-
# Settings

What the aggregates of a registry have in common: the error of timers and the quantiles
it is wanted at, the size of distinct sets, and the binnings of timers by name. Settings
are checked as a whole. Some that are accepted are reported as doubtful.

Settings are equal if their fields are, numbers as numbers: what is no number equals nothing,
itself included.
-/

import Telemetry.Cardinality.Sizing
import Telemetry.Histogram.Binning
import Telemetry.Traced

namespace Telemetry

open Cardinality (Precision)

/-- Settings shared by the aggregates of a registry. -/
structure Settings where
  /-- The error bound of timer quantiles. -/
  timerError : Float := 0.01
  /-- The quantiles of timers, ascending. -/
  quantiles : List Float := [0.5, 0.95, 0.99]
  /-- The standard error wanted of distinct sets. -/
  setError : Float := 0.02
  /-- The precision of distinct sets, where it is given outright. -/
  setPrecision? : Option Nat := none
  /-- Binnings of timers; the one with the longest matching stem applies. -/
  binnings : List Binning := []
deriving BEq

namespace Settings

/-- A timer error above which quantiles are hardly useful. -/
def doubtfulTimerError : Float :=
  0.1

/-- The precision of distinct sets: the one given, or else the least that meets the
error. -/
def precision (settings : Settings) : Except Error Precision := do
  let bits ← match settings.setPrecision? with
    | some bits => pure bits
    | none => Precision.bitsForError settings.setError
  match Precision.ofNat? bits with
  | some precision => return precision
  | none => throw (.setPrecision bits)

/-- Whether no quantile is followed by a smaller one. -/
def ascending : List Float → Bool
  | first :: second :: later => !(second < first) && ascending (second :: later)
  | _ => true

/-- Check the quantiles: there are some, all are in range, and they ascend. -/
def checkQuantiles (quantiles : List Float) : Except Error Unit :=
  if quantiles.isEmpty then .error (.targets .noQuantiles)
  else match quantiles.find? fun quantile => !Quantile.isQuantile quantile with
    | some quantile => .error (.targets (.quantileOutOfRange quantile))
    | none => if ascending quantiles then .ok () else .error .quantilesUnsorted

/-- Check binnings in order. A stem that an earlier binning has is doubtful. -/
def checkBinnings (earlier : List String) : List Binning → Traced Error Unit
  | [] => return ()
  | binning :: later => do
    binning.check.mapError Error.binning
    if earlier.contains binning.stem then Traced.report [.repeatedStem binning.stem]
    checkBinnings (binning.stem :: earlier) later

/-- Check every setting, in the order in which they are declared. -/
def check (settings : Settings) : Traced Error Unit := do
  if !Quantile.isErrorBound settings.timerError then throw (.timerError settings.timerError)
  if doubtfulTimerError < settings.timerError then
    Traced.report [.coarseTimerError settings.timerError]
  checkQuantiles settings.quantiles
  let _ ← settings.precision
  checkBinnings [] settings.binnings

end Settings

end Telemetry
