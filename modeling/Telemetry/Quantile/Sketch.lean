/-
# Quantile sketches

A sketch answers quantile queries about a stream from a summary that is kept within its
targets. Values that are still staged are not visible until the sketch is flushed.
-/

import Telemetry.Quantile.Summary
import Telemetry.Quantile.Targets

namespace Telemetry.Quantile

variable {R : Type} [Scale R] [LT R] [DecidableLT R] [LE R] [DecidableLE R]
  [Add R] [Sub R] [Mul R] [Div R]

open Scale (ofCount ceil)

/-- A summary with the targets it is kept within. -/
structure Sketch (R : Type) where
  targets : Targets R
  summary : Summary

namespace Sketch

/-- The sketch of no values. -/
def empty (targets : Targets R) : Sketch R :=
  ⟨targets, .empty⟩

/-- The number of samples in the list. -/
def length (sketch : Sketch R) : Nat :=
  sketch.summary.samples.length

/-- The number of values the samples stand for. -/
def count (sketch : Sketch R) : Nat :=
  sketch.summary.count

/-- The number of values still staged. -/
def buffered (sketch : Sketch R) : Nat :=
  sketch.summary.buffered

/-- The samples in ascending order. -/
def samples (sketch : Sketch R) : List Sample :=
  sketch.summary.samples.samples

/-- The least merged value. -/
def min? (sketch : Sketch R) : Option Binary64 :=
  sketch.summary.samples.first?.map (·.value)

/-- The greatest merged value. -/
def max? (sketch : Sketch R) : Option Binary64 :=
  sketch.summary.samples.last?.map (·.value)

/-- Add a value. -/
@[specialize] def add (sketch : Sketch R) (value : Binary64) : Traced SlotFault (Sketch R) := do
  let ⟨targets, summary⟩ := sketch
  return ⟨targets, ← summary.add targets.policy value⟩

/-- Merge everything that is staged. -/
@[specialize] def flush (sketch : Sketch R) : Traced SlotFault (Sketch R) := do
  let ⟨targets, summary⟩ := sketch
  return ⟨targets, ← summary.flush targets.policy⟩

/-- The last of the samples that may answer for a rank. The walk stops before a sample
whose highest rank is past the window, and before one whose first value is past the
rank. -/
@[specialize] def answer (rank window : R) : (before : Nat) → Binary64 → List Sample → Binary64
  | _, held, [] => held
  | before, held, sample :: later =>
    if window < ofCount before + ofCount (sample.width + sample.delta) ∨
        rank < ofCount before + ofCount 1 then held
    else answer rank window (before + sample.width) sample.value later

/-- The merged value at a quantile, if anything has been merged. Half the threshold at
the rank sought is granted on top of it. -/
@[specialize] def query (sketch : Sketch R) (quantile : R) : Option Binary64 :=
  match sketch.samples with
  | [] => none
  | first :: later =>
    let rank := ceil (quantile * ofCount sketch.count)
    let window := rank + ceil (sketch.targets.threshold sketch.count rank / ofCount 2)
    some (answer rank window 0 first.value (first :: later))

end Sketch

end Telemetry.Quantile
