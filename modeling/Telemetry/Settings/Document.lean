/-
# Settings documents

Settings are read from a document and written to one. Every setting may be missing and
then keeps its default; a binning needs all of its fields. What a document holds beside
the settings is ignored. Whole numbers are accepted where numbers are expected.
-/

import Telemetry.Settings
import Telemetry.Toml.Codec

namespace Telemetry

open Toml (Codec Fields Value)

/-- The double for a number. -/
def Toml.Value.number? : Value → Option Float
  | .float number => some number
  | .integer number => some (Decimal.toFloat (number < 0) ⟨number.natAbs, 0⟩)
  | _ => none

/-- The text of a string. -/
def Toml.Value.text? : Value → Option String
  | .text content => some content
  | _ => none

/-- An integer that a precision may be asked for with. -/
def Toml.Value.precision? : Value → Option Nat
  | .integer number =>
    if 0 ≤ number ∧ number ≤ nameablePrecision then some number.toNat else none
  | _ => none

/-- The elements of an array. -/
def Toml.Value.elements? : Value → Option (List Value)
  | .array elements => some elements
  | _ => none

namespace Binning

/-- The binning with given fields. -/
def ofValues? (stem least greatest width : Value) : Option Binning := do
  return ⟨← stem.text?, ← least.number?, ← greatest.number?, ← width.number?⟩

/-- The binning in a table, by the names of its fields, or in an array, by their order. -/
def ofValue? : Value → Option Binning
  | .table fields => do
    ofValues? (← fields.lookup "prefix") (← fields.lookup "min") (← fields.lookup "max")
      (← fields.lookup "width")
  | .array (stem :: least :: greatest :: width :: _) => ofValues? stem least greatest width
  | _ => none

/-- A binning as a table. -/
def fields (binning : Binning) : Fields := [
  ("prefix", .text binning.stem),
  ("min", .float binning.least),
  ("max", .float binning.greatest),
  ("width", .float binning.width)]

end Binning

namespace Settings

/-- A setting from its value, or its default without one. -/
def field? {α : Type} (fields : Fields) (name : String) (ofValue? : Value → Option α)
    (default : α) : Option α :=
  match fields.lookup name with
  | some value => ofValue? value
  | none => some default

/-- The settings in a table. -/
def ofFields? (fields : Fields) : Option Settings := do
  let standard : Settings := {}
  return {
    timerError := ← field? fields "timer_eps" Value.number? standard.timerError
    quantiles := ← field? fields "quantiles"
      (fun value => value.elements?.bind (·.mapM Value.number?)) standard.quantiles
    setError := ← field? fields "set_eps" Value.number? standard.setError
    setPrecision? := ← field? fields "set_precision" (fun value => value.precision?.map some)
      standard.setPrecision?
    binnings := ← field? fields "histograms"
      (fun value => value.elements?.bind (·.mapM Binning.ofValue?)) standard.binnings }

/-- The settings in a document, unchecked. -/
def read? (codec : Codec) (document : String) : Option Settings :=
  (codec.read? document).bind ofFields?

/-- The settings in a document, checked. -/
def load (codec : Codec) (document : String) : Traced Error Settings := do
  match read? codec document with
  | none => throw .unreadableSettings
  | some settings =>
    settings.check
    return settings

/-- The settings that have a value each, as a table. A precision that is not given is left out. -/
def values (settings : Settings) : Fields :=
  [("timer_eps", .float settings.timerError),
    ("quantiles", .array (settings.quantiles.map .float)),
    ("set_eps", .float settings.setError)] ++
  (settings.setPrecision?.map fun bits : Nat => ("set_precision", Value.integer bits)).toList

/-- The binnings as an array of tables, which is left out if there are none. -/
def arrays (settings : Settings) : Fields :=
  if settings.binnings.isEmpty then []
  else [("histograms", .array (settings.binnings.map fun binning => .table binning.fields))]

/-- Settings as a document. -/
def write? (codec : Codec) (settings : Settings) : Option String :=
  codec.write? (settings.values ++ settings.arrays)

end Settings

end Telemetry
