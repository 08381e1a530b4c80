/-
# Settings read back

The document of settings reads back as the settings, whoever writes and reads it by TOML 1.0, so
what is checked when they are loaded is what was checked before. All values come
before the binnings, whose heading would take them in otherwise, and what is left out is what the
defaults stand for.

What was read equals what was written as far as numbers are equal. Settings that are accepted hold
numbers only, but for one: an error that a given precision keeps from being looked at.
-/

import Telemetry.Proofs.Binary64.Overflow
import Telemetry.Proofs.Histogram.Edges
import Telemetry.Proofs.Registry.Acceptance
import Telemetry.Proofs.Toml.Codec
import Telemetry.Settings.Document

namespace Telemetry

open Cardinality (Precision)
open Toml (AreNames Codec Fields IsRow IsWritable Value)
open Doubles (beq_self exists_place exists_place_of_isFinite exists_place_of_lt)

theorem Toml.AreNames.of_all {names : List String}
    (bare : (names.all fun name => name.toList.all Toml.isBare) = true) (present : "" ∉ names)
    (distinct : names.Nodup) : AreNames names where
  present _ among empty := present (empty ▸ among)
  bare _ among := List.all_eq_true.mp (List.all_eq_true.mp bare _ among)
  distinct := distinct

theorem Toml.AreNames.sublist {names some : List String} (areNames : AreNames names)
    (part : some.Sublist names) : AreNames some where
  present name among := areNames.present name (part.subset among)
  bare name among := areNames.bare name (part.subset among)
  distinct := areNames.distinct.sublist part

theorem list_beq_self {α : Type} [BEq α] {values : List α}
    (equal : ∀ value ∈ values, (value == value) = true) : (values == values) = true := by
  induction values with
  | nil => rfl
  | cons value later ih =>
    obtain ⟨first, others⟩ := List.forall_mem_cons.mp equal
    rw [List.cons_beq_cons, first, ih others]
    rfl

/-! ## Binnings -/

namespace Binning

variable (binning : Binning)

theorem ofValue?_fields : ofValue? (.table binning.fields) = some binning := rfl

theorem isRow_fields : IsRow binning.fields where
  names := by
    have names : AreNames ["prefix", "min", "max", "width"] :=
      .of_all rfl (by decide) (by decide)
    exact names
  plain := by
    simp only [fields, List.forall_mem_cons, List.not_mem_nil, false_imp_iff, implies_true,
      and_true]
    exact ⟨.scalar (.text _), .scalar (.float _), .scalar (.float _), .scalar (.float _)⟩

/-- The numbers of a binning that is accepted equal themselves, and so does the binning. -/
theorem beq_self_of_check {binning : Binning} (accepted : binning.check = .ok ()) :
    (binning == binning) = true := by
  obtain ⟨bounded, also, -, positive, -⟩ := fits_of_check accepted
  obtain ⟨least, place_least, -⟩ := exists_place_of_isFinite bounded
  obtain ⟨greatest, place_greatest, -⟩ := exists_place_of_isFinite also
  obtain ⟨width, place_width⟩ := exists_place_of_lt positive
  show (binning.stem == binning.stem && (binning.least == binning.least &&
    (binning.greatest == binning.greatest && binning.width == binning.width))) = true
  rw [beq_self_eq_true, beq_self place_least, beq_self place_greatest, beq_self place_width]
  rfl

end Binning

namespace Settings

variable {settings : Settings}

/-! ## Writing -/

/-- The names that settings may be written under, of which some are left out. -/
theorem names_sublist (settings : Settings) :
    ((settings.values ++ settings.arrays).map Prod.fst).Sublist
      ["timer_eps", "quantiles", "set_eps", "set_precision", "histograms"] := by
  have single : (settings.values.map Prod.fst).Sublist
      ["timer_eps", "quantiles", "set_eps", "set_precision"] := by
    rw [values]
    cases settings.setPrecision? with
    | none => exact List.sublist_append_left ["timer_eps", "quantiles", "set_eps"] ["set_precision"]
    | some bits => exact .refl _
  have many : (settings.arrays.map Prod.fst).Sublist ["histograms"] := by
    rw [arrays]
    cases settings.binnings with
    | nil => exact List.nil_sublist _
    | cons first later => exact .refl _
  rw [List.map_append]
  exact single.append many

theorem isWritable (nameable : ∀ bits, settings.setPrecision? = some bits →
    bits ≤ nameablePrecision) : IsWritable (settings.values ++ settings.arrays) := by
  have names : AreNames ["timer_eps", "quantiles", "set_eps", "set_precision", "histograms"] :=
    .of_all rfl (by decide) (by decide)
  refine .intro (names.sublist settings.names_sublist) (fun field among => ?_)
    fun field among => ?_
  · simp only [values, List.mem_append, List.mem_cons, List.not_mem_nil, or_false,
      Option.mem_toList, Option.map_eq_some_iff] at among
    rcases among with (rfl | rfl | rfl) | ⟨bits, given, rfl⟩
    · exact .scalar (.float _)
    · exact .array (List.forall_mem_map.mpr fun quantile _ => .float quantile)
    · exact .scalar (.float _)
    · have small := nameable bits given
      rw [nameablePrecision] at small
      exact .scalar (.integer (by omega) (by omega))
  · rw [arrays] at among
    cases binnings : settings.binnings with
    | nil =>
      rw [binnings] at among
      cases among
    | cons first later =>
      rw [binnings] at among
      cases List.mem_singleton.mp among
      have rows : ∀ row ∈ (first :: later).map Binning.fields, IsRow row :=
        List.forall_mem_map.mpr fun binning _ => binning.isRow_fields
      have written := Value.IsRows.intro rows
      rwa [← List.map_cons, List.map_map] at written

/-! ## Reading -/

theorem lookup_values_histograms (settings : Settings) :
    settings.values.lookup "histograms" = none := by
  rw [values]
  cases settings.setPrecision? <;> rfl

/-- A table holds every setting, or none where the default is the setting. -/
theorem ofFields?_fields (nameable : ∀ bits, settings.setPrecision? = some bits →
    bits ≤ nameablePrecision) :
    ofFields? (settings.values ++ settings.arrays) = some settings := by
  have quantiles : field? (settings.values ++ settings.arrays) "quantiles"
      (fun value => value.elements?.bind (·.mapM Value.number?)) [0.5, 0.95, 0.99] =
        some settings.quantiles := by
    have inverse (number : Float) : Value.number? (.float number) = some number := rfl
    exact mapM_map_eq_some inverse settings.quantiles
  have precision : field? (settings.values ++ settings.arrays) "set_precision"
      (fun value => value.precision?.map some) none = some settings.setPrecision? := by
    rw [values, arrays]
    cases given : settings.setPrecision? with
    | none => cases settings.binnings <;> rfl
    | some bits =>
      show (Value.precision? (.integer bits)).map some = some (some bits)
      have within : 0 ≤ (bits : Int) ∧ (bits : Int) ≤ nameablePrecision :=
        ⟨Int.natCast_nonneg bits, Int.ofNat_le.mpr (nameable bits given)⟩
      rw [Value.precision?, if_pos within]
      rfl
  have binnings : field? (settings.values ++ settings.arrays) "histograms"
      (fun value => value.elements?.bind (·.mapM Binning.ofValue?)) [] =
        some settings.binnings := by
    rw [field?, List.lookup_append, lookup_values_histograms, arrays]
    cases settings.binnings with
    | nil => rfl
    | cons first later => exact mapM_map_eq_some Binning.ofValue?_fields (first :: later)
  rw [ofFields?]
  dsimp only
  rw [quantiles, precision, binnings]
  rfl

/-! ## Accepted settings -/

theorem bits_le_of_check (accepted : settings.check.outcome = .ok ()) {bits : Nat}
    (given : settings.setPrecision? = some bits) : bits ≤ nameablePrecision := by
  obtain ⟨targets, precision, -, sized, -⟩ := exists_of_check accepted
  by_contra large
  have unsized : Precision.ofNat? bits = none := by
    have past : ¬bits ≤ Cardinality.greatestPrecision := fun small =>
      large (small.trans (by decide))
    simp only [Precision.ofNat?, dif_neg past, dite_eq_ite, ite_self]
  simp only [Settings.precision, given, unsized, pure_bind] at sized
  cases sized

/-- Settings that are accepted are loaded from every document that they are written to. -/
theorem load_of_write? {codec : Codec} (faithful : codec.Faithful)
    (accepted : settings.check.outcome = .ok ()) :
    ∃ document, settings.write? codec = some document ∧
      (load codec document).outcome = .ok settings := by
  have nameable : ∀ bits, settings.setPrecision? = some bits → bits ≤ nameablePrecision :=
    fun _ => bits_le_of_check accepted
  obtain ⟨document, written, denotes⟩ := faithful.writes _ (isWritable nameable)
  refine ⟨document, written, ?_⟩
  rw [load, read?, faithful.reads _ _ denotes, Option.bind_some, ofFields?_fields nameable]
  simp only [Traced.outcome_bind, accepted]
  rfl

/-! ## Equal numbers -/

theorem beq_eq (first second : Settings) : (first == second) =
    (first.timerError == second.timerError && (first.quantiles == second.quantiles &&
      (first.setError == second.setError && (first.setPrecision? == second.setPrecision? &&
        first.binnings == second.binnings)))) := rfl

theorem beq_self_quantiles {quantiles : List Float}
    (accepted : checkQuantiles quantiles = .ok ()) : (quantiles == quantiles) = true := by
  refine list_beq_self fun quantile among => ?_
  rw [checkQuantiles] at accepted
  split at accepted
  case isTrue => cases accepted
  case isFalse =>
    split at accepted
    case h_1 => cases accepted
    case h_2 found =>
      have inside := List.find?_eq_none.mp found quantile among
      rw [Bool.not_eq_true, Bool.not_eq_false', Quantile.isQuantile, Bool.and_eq_true,
        decide_eq_true_eq] at inside
      obtain ⟨place, placed⟩ := exists_place_of_lt inside.1
      exact beq_self placed

/-- Where no precision is given, the error that it is derived from is a number. -/
theorem exists_place_setError (accepted : settings.check.outcome = .ok ())
    (derived : settings.setPrecision? = none) :
    ∃ place, Doubles.place? settings.setError = some place := by
  obtain ⟨targets, precision, -, sized, -⟩ := exists_of_check accepted
  rw [Settings.precision, derived] at sized
  obtain ⟨bits, derivable, -⟩ := exists_of_bind_eq_ok sized
  rw [Precision.bitsForError] at derivable
  split at derivable
  case isTrue => cases derivable
  case isFalse inside =>
    rw [Bool.not_eq_true, Bool.not_eq_false', Bool.and_eq_true, decide_eq_true_eq] at inside
    exact exists_place_of_lt inside.1

/-- Apart from the error of sets, settings that are accepted hold numbers only. -/
theorem beq_self_of_check (accepted : settings.check.outcome = .ok ()) {error : Float}
    {place : Rat} (placed : Doubles.place? error = some place) :
    (({ settings with setError := error } : Settings) == { settings with setError := error }) =
      true := by
  rw [outcome_check] at accepted
  split at accepted
  case isFalse => cases accepted
  case isTrue bounded =>
    obtain ⟨_, quantiles, rest⟩ := exists_of_bind_eq_ok accepted
    obtain ⟨_, -, binnings⟩ := exists_of_bind_eq_ok rest
    rw [Quantile.isErrorBound, Bool.and_eq_true, decide_eq_true_eq] at bounded
    obtain ⟨_, place_timerError⟩ := exists_place_of_lt bounded.1
    have checked := check_of_checkBinnings binnings
    rw [beq_eq, beq_self place_timerError, beq_self_quantiles quantiles, beq_self placed,
      beq_self_eq_true settings.setPrecision?,
      list_beq_self fun binning among => binning.beq_self_of_check (checked binning among)]
    rfl

/-- Settings that are accepted can be written, and their document is accepted when it is loaded,
whoever writes and reads it by TOML 1.0 and whatever their stems hold. What was loaded equals
what was written, but for an error that is no number: a given precision keeps it from being looked
at, and it is loaded as no number. -/
theorem load_written_of_check {codec : Codec} (faithful : codec.Faithful)
    (accepted : settings.check.outcome = .ok ()) :
    ∃ document loaded, settings.write? codec = some document ∧
      (load codec document).outcome = .ok loaded ∧
      (settings.setError.isNaN = false → (loaded == settings) = true) ∧
      (settings.setError.isNaN = true → settings.setPrecision?.isSome ∧
        loaded.setError.isNaN = true ∧
        (({ loaded with setError := 0 } : Settings) ==
          { settings with setError := 0 }) = true) := by
  obtain ⟨document, written, loads⟩ := load_of_write? faithful accepted
  refine ⟨document, settings, written, loads, fun isNumber => ?_,
    fun undefined => ⟨?_, undefined, ?_⟩⟩
  · obtain ⟨place, placed⟩ := exists_place isNumber
    exact beq_self_of_check accepted placed
  · -- Without a precision the error would have been looked at.
    rw [Option.isSome_iff_ne_none]
    intro derived
    obtain ⟨place, placed⟩ := exists_place_setError accepted derived
    rw [Doubles.isNaN_eq_false placed] at undefined
    cases undefined
  · have placed : Doubles.place? 0 = some 0 := rfl
    exact beq_self_of_check accepted placed

/-- Stems may hold what strings are made of in a document, and anything else. -/
theorem load_written_of_quoted_stems :
    let settings : Settings := {
      setPrecision? := some 14
      binnings := [⟨"\"\"\"\x27\x27\x27\\", 0, 100, 12.5⟩, ⟨"\x00\t\r\n\x7fé", -0.5, 1.5, 0.25⟩,
        ⟨"", 0, 1, 1⟩] }
    settings.check.outcome = .ok () ∧ Toml.standard.Faithful ∧
      ∃ document loaded, settings.write? Toml.standard = some document ∧
        (load Toml.standard document).outcome = .ok loaded ∧ (loaded == settings) = true := by
  intro settings
  have accepted : settings.check.outcome = .ok () := by
    unfold settings
    rfl
  obtain ⟨document, loaded, written, loads, equal, -⟩ :=
    load_written_of_check Toml.faithful_standard accepted
  have isNumber : settings.setError.isNaN = false := by decide +kernel
  exact ⟨accepted, Toml.faithful_standard, document, loaded, written, loads, equal isNumber⟩

/-- Settings with an error that is no number are accepted, written and loaded, but nothing equals
them. -/
theorem not_beq_of_undefined_error :
    let settings : Settings := { setError := 0 / 0, setPrecision? := some 12 }
    settings.check.outcome = .ok () ∧
      ∃ document loaded, settings.write? Toml.standard = some document ∧
        (load Toml.standard document).outcome = .ok loaded ∧ (loaded == settings) = false ∧
        ∀ other : Settings, (other == settings) = false := by
  intro settings
  have accepted : settings.check.outcome = .ok () := by
    unfold settings
    rfl
  have undefined : settings.setError.isNaN = true := by decide +kernel
  have unequal (other : Settings) : (other == settings) = false := by
    rw [beq_eq, Doubles.beq_eq_false_of_isNaN (.inr undefined), Bool.false_and, Bool.and_false,
      Bool.and_false]
  obtain ⟨document, written, loads⟩ := load_of_write? Toml.faithful_standard accepted
  exact ⟨accepted, document, settings, written, loads, unequal settings, unequal⟩

end Settings

end Telemetry
