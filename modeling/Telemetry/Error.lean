/-
# Errors

Everything that can be refused, by cause. The parameter at fault and the wording are
functions of the cause.
-/

import Telemetry.Cardinality.Precision
import Telemetry.Decimal.Text
import Telemetry.Kind
import Telemetry.Quantile.SampleList
import Telemetry.Quantile.Targets

namespace Telemetry

open Cardinality (greatestPrecision leastPrecision)
open Quantile (SlotFault TargetFault)

/-- The largest precision that can be named at all. -/
def nameablePrecision : Nat :=
  255

/-- Why a binning is refused. -/
inductive BinningFault where
  /-- The least or the greatest value is infinite or no number. -/
  | unbounded (stem : String)
  /-- The range has no values. -/
  | emptyRange (stem : String) (least greatest : Float)
  /-- No bin of this width fits. -/
  | misfit (stem : String) (width least greatest : Float)

/-- Why there are no counters for the bins of a binning. -/
inductive StorageFault where
  /-- The number of bins is no machine word. -/
  | uncountable (bins : Nat)
  /-- The counters take up more bytes than can be addressed. -/
  | oversized (bins : Nat)
deriving DecidableEq, Repr

/-- Only the cause is told, not how many bins there would have been. -/
def StorageFault.message : StorageFault → String
  | .uncountable _ => "attempt to add with overflow"
  | .oversized _ => "capacity overflow"

/-- Why an operation is refused. -/
inductive Error where
  /-- The targets of a sketch or timer. -/
  | targets (fault : TargetFault Float)
  /-- The error wanted of a distinct count is not strictly between zero and one. -/
  | cardinalityError (error : Float)
  /-- The error wanted of a distinct count needs a precision that cannot be named. -/
  | cardinalityErrorTooSmall (error : Float)
  /-- A precision without a sketch to it. -/
  | precision (bits : Nat)
  /-- Sketches of different precisions cannot be merged. -/
  | precisionMismatch (other own : Nat)
  /-- A binning. -/
  | binning (fault : BinningFault)
  /-- The counters of a histogram. -/
  | storage (fault : StorageFault)
  /-- The timer error of some settings is not strictly between zero and one half. -/
  | timerError (bound : Float)
  /-- The quantiles of some settings descend somewhere. -/
  | quantilesUnsorted
  /-- The set precision of some settings, given or derived. -/
  | setPrecision (bits : Nat)
  /-- A settings document that cannot be read. -/
  | unreadableSettings
  /-- A numeric sample for a kind that takes keys. -/
  | notNumeric (kind : Kind)
  /-- A slot without a node. -/
  | slot (fault : SlotFault)

namespace Error

open NumberStyle (message)

/-- The parameter at fault, where there is one. -/
def parameter? : Error → Option String
  | targets (.boundOutOfRange _) => some "eps"
  | targets .noQuantiles | targets (.quantileOutOfRange _) | quantilesUnsorted =>
    some "quantiles"
  | cardinalityError _ | cardinalityErrorTooSmall _ => some "error"
  | precision _ => some "precision"
  | precisionMismatch .. => some "other"
  | binning _ => some "histogram"
  | timerError _ => some "timer_eps"
  | setPrecision _ => some "set_precision"
  | storage _ | unreadableSettings | notNumeric _ | slot _ => none

/-- A number that should have been strictly inside an interval. -/
private def outside (number : Float) (interval : String) : String :=
  message.render number ++ " is not in (" ++ interval ++ ")"

/-- A precision that should have been one of those with a sketch. -/
private def outsidePrecisions (bits : Nat) : String :=
  toString bits ++ " is not in [" ++ toString leastPrecision ++ ", " ++
    toString greatestPrecision ++ "]"

/-- What is wrong with a binning. -/
private def binningReason : BinningFault → String
  | .unbounded stem => stem ++ ": bounds must be finite"
  | .emptyRange stem least greatest =>
    stem ++ ": min " ++ message.render least ++ " is not below max " ++ message.render greatest
  | .misfit stem width least greatest =>
    stem ++ ": width " ++ message.render width ++ " does not fit in [" ++
      message.render least ++ ", " ++ message.render greatest ++ ")"

/-- What is wrong, in words. -/
def reason : Error → String
  | targets (.boundOutOfRange bound) | timerError bound => outside bound "0, 0.5"
  | targets .noQuantiles => "at least one is required"
  | targets (.quantileOutOfRange quantile) => outside quantile "0, 1"
  | cardinalityError error => outside error "0, 1"
  | cardinalityErrorTooSmall error =>
    message.render error ++ " needs more than " ++ toString nameablePrecision ++
      " bits of precision"
  | precision bits | setPrecision bits => outsidePrecisions bits
  | precisionMismatch other own =>
    "precision " ++ toString other ++ " does not match " ++ toString own
  | binning fault => binningReason fault
  | storage fault => fault.message
  | quantilesUnsorted => "must be sorted ascending"
  | unreadableSettings => "could not parse configuration"
  | notNumeric kind => "metric type " ++ kind.name ++ " cannot take a numeric sample"
  | slot fault => fault.message?.getD "no such sample"

/-- The whole message: a faulty parameter is named before the reason. -/
def message (error : Error) : String :=
  match error.parameter? with
  | some name => "invalid parameter `" ++ name ++ "`: " ++ error.reason
  | none => error.reason

end Error

end Telemetry
