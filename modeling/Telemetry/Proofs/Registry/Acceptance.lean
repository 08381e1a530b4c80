/-
# Settings that were checked

A registry makes its aggregates only when they are first asked for, and each of them looks
again at its own parameters. The settings were looked at when the registry was made, by
rules of their own; here the two are shown to agree, so that what was accepted once is not
refused later.

One thing the settings do not look at is how many bins a binning has. A timer whose histogram
would have too many of them cannot be made, so the first sample for it fails, as all others do.
-/

import Telemetry.Proofs.Registry.Requests

namespace Telemetry

open Cardinality (Precision)
open Quantile (Targets)

namespace Settings

theorem outcome_checkBinnings_cons (earlier : List String) (binning : Binning)
    (later : List Binning) :
    (checkBinnings earlier (binning :: later)).outcome =
      binning.check.mapError Error.binning >>= fun _ =>
        (checkBinnings (binning.stem :: earlier) later).outcome := by
  rw [checkBinnings, Traced.outcome_bind]
  split <;> simp [except_ok_bind]

theorem outcome_check (settings : Settings) :
    settings.check.outcome =
      if Quantile.isErrorBound settings.timerError then do
        checkQuantiles settings.quantiles
        let _ ← settings.precision
        (checkBinnings [] settings.binnings).outcome
      else .error (.timerError settings.timerError) := by
  rw [check]
  cases Quantile.isErrorBound settings.timerError with
  | false => rfl
  | true =>
    by_cases coarse : doubtfulTimerError < settings.timerError <;>
      simp [coarse, except_ok_bind]

theorem check_of_checkBinnings {earlier : List String} {binnings : List Binning}
    (accepted : (checkBinnings earlier binnings).outcome = .ok ()) :
    ∀ binning ∈ binnings, binning.check = .ok () := by
  induction binnings generalizing earlier with
  | nil => simp
  | cons binning later recursion =>
    rw [outcome_checkBinnings_cons] at accepted
    obtain ⟨_, explained, rest⟩ := exists_of_bind_eq_ok accepted
    exact List.forall_mem_cons.mpr ⟨mapError_eq_ok.mp explained, recursion rest⟩

/-- Quantiles that settings may have are quantiles that targets may have. -/
theorem exists_targets {bound : Float} {quantiles : List Float}
    (bounded : Quantile.isErrorBound bound = true) (accepted : checkQuantiles quantiles = .ok ()) :
    ∃ targets, Targets.create bound quantiles = .ok targets := by
  cases quantiles with
  | nil => cases accepted
  | cons first later =>
    rw [checkQuantiles, if_neg (by simp)] at accepted
    rw [Targets.create, bounded, if_neg (by simp), dif_neg (List.cons_ne_nil _ _)]
    cases found : (first :: later).find? fun quantile => !Quantile.isQuantile quantile with
    | some quantile =>
      rw [found] at accepted
      cases accepted
    | none => exact ⟨_, rfl⟩

/-- What the parts of settings that were checked amount to. -/
theorem exists_of_check {settings : Settings} (accepted : settings.check.outcome = .ok ()) :
    ∃ targets precision,
      Targets.create settings.timerError settings.quantiles = .ok targets ∧
      settings.precision = .ok precision ∧
      ∀ binning ∈ settings.binnings, binning.check = .ok () := by
  rw [outcome_check] at accepted
  split at accepted
  case isTrue bounded =>
    obtain ⟨_, quantiles, rest⟩ := exists_of_bind_eq_ok accepted
    obtain ⟨precision, sized, binnings⟩ := exists_of_bind_eq_ok rest
    obtain ⟨targets, created⟩ := exists_targets bounded quantiles
    exact ⟨targets, precision, created, sized, check_of_checkBinnings binnings⟩
  case isFalse => cases accepted

end Settings

namespace Registry

variable {settings : Settings}

theorem Parameters.exists_sound (accepted : settings.check.outcome = .ok ()) :
    ∃ parameters, ofSettings settings = .ok parameters ∧ parameters.Sound := by
  obtain ⟨targets, precision, created, sized, binnings⟩ := Settings.exists_of_check accepted
  have known : Precision.ofNat precision.bits = .ok precision := by
    rw [Precision.ofNat, Precision.ofNat?, dif_pos precision.least, dif_pos precision.greatest]
  refine ⟨⟨settings.timerError, settings.quantiles, precision.bits, settings.binnings⟩, ?_,
    ⟨targets, created⟩, ⟨precision, known⟩, binnings⟩
  rw [ofSettings, sized]
  rfl

/-- A registry is refused for the fault that its settings are refused for, and otherwise
begins without aggregates. -/
theorem outcome_create_of_check (accepted : settings.check.outcome = .ok ()) :
    ∃ parameters, Parameters.ofSettings settings = .ok parameters ∧ parameters.Sound ∧
      (create settings).outcome = .ok (blank parameters) := by
  obtain ⟨parameters, wanted, sound⟩ := Parameters.exists_sound accepted
  refine ⟨parameters, wanted, sound, ?_⟩
  rw [create, Traced.outcome_bind, accepted, wanted]
  rfl

theorem outcome_create_of_fault {fault : Error} (refused : settings.check.outcome = .error fault) :
    (create settings).outcome = .error fault := by
  rw [create, Traced.outcome_bind, refused]
  rfl

/-- A registry that was made begins with the parameters that its settings ask for. -/
theorem exists_sound_of_create {fresh : Registry}
    (created : (create settings).outcome = .ok fresh) :
    ∃ parameters, Parameters.ofSettings settings = .ok parameters ∧ parameters.Sound ∧
      fresh = blank parameters := by
  cases accepted : settings.check.outcome with
  | error fault =>
    rw [outcome_create_of_fault accepted] at created
    cases created
  | ok =>
    obtain ⟨parameters, wanted, sound, succeeded⟩ := outcome_create_of_check accepted
    rw [succeeded] at created
    cases created
    exact ⟨parameters, wanted, sound, rfl⟩

theorem binnings_of_ofSettings {parameters : Parameters}
    (wanted : Parameters.ofSettings settings = .ok parameters) :
    parameters.binnings = settings.binnings := by
  obtain ⟨precision, -, rest⟩ := exists_of_bind_eq_ok wanted
  cases rest
  rfl

section Serving

variable {hasher : ByteArray → UInt64} {parameters : Parameters} {registry : Registry}
  {requests : List Request} {request : Request}

/-- A request that is served fails only if it is a number for a set. -/
theorem Reflects.exists_perform (reflects : Reflects hasher parameters requests registry)
    (sound : parameters.Sound) (served : request.isServed parameters.binnings)
    (fits : ∀ name value, request ≠ .sample .set name value) :
    ∃ changed, (registry.perform hasher request).outcome = .ok changed := by
  cases target : request.target? with
  | some called =>
    obtain ⟨changed, performed, -⟩ := reflects.perform sound served target
    exact ⟨changed, performed⟩
  | none =>
    cases request with
    | member called key => cases target
    | sample given called value =>
      cases given with
      | keyValue => exact ⟨_, rfl⟩
      | set => exact absurd rfl (fits called value)
      | _ => cases target

/-- A registry takes every member and every number, apart from numbers for sets and for timers
whose histogram would have too many bins. Whatever it does not take fails before the registry
changes. -/
structure Serves (hasher : ByteArray → UInt64) (binnings : List Binning) (registry : Registry) :
    Prop where
  member : ∀ name key, ∃ changed, (registry.addMember hasher name key).outcome = .ok changed
  number : ∀ kind, kind ≠ .set → kind ≠ .timer → ∀ name value,
    ∃ changed, (registry.add kind name value).outcome = .ok changed
  duration : ∀ name value,
    (∀ binning, binningFor binnings name = some binning → binning.bins < 2 ^ 60) →
    ∃ changed, (registry.add .timer name value).outcome = .ok changed
  oversized : ∀ name value binning, binningFor binnings name = some binning →
    2 ^ 60 ≤ binning.bins →
    (registry.add .timer name value).outcome = .error (.storage (.oversized binning.bins))
  refusal : ∀ name value, (registry.add .set name value).outcome = .error (.notNumeric .set)
  unchanged : ∀ request fault, (registry.perform hasher request).outcome = .error fault →
    registry.prepare request = .error fault ∧ registry.after hasher request = registry

theorem Reflects.serves
    (reflects : Reflects hasher parameters (servedOf parameters.binnings requests) registry)
    (sound : parameters.Sound) (countable : parameters.Countable) :
    registry.Serves hasher parameters.binnings where
  member name key := by
    have fits : ∀ called value, Request.member name key ≠ .sample .set called value := by simp
    exact reflects.exists_perform sound rfl fits
  number kind numeric timeless name value := by
    have served : (Request.sample kind name value).isServed parameters.binnings := by
      cases kind with
      | timer => exact absurd rfl timeless
      | _ => rfl
    have fits : ∀ called other, Request.sample kind name value ≠ .sample .set called other := by
      simp [numeric]
    exact reflects.exists_perform sound served fits
  duration name value roomy := by
    have served : (Request.sample .timer name value).isServed parameters.binnings := by
      rw [Request.isServed, Option.all_eq_true]
      exact fun binning found => decide_eq_true (roomy binning found)
    have fits : ∀ called other, Request.sample .timer name value ≠ .sample .set called other := by
      simp
    exact reflects.exists_perform sound served fits
  oversized name value binning found oversized := by
    have refused : ¬(Request.sample .timer name value).isServed parameters.binnings := by
      rw [Request.isServed, found, Option.all_some, decide_eq_true_eq]
      exact Nat.not_lt.mpr oversized
    obtain ⟨_, _, chosen, same, also, -, unprepared⟩ :=
      reflects.prepare_of_not_served sound countable refused
    cases same
    cases found.symm.trans also
    exact outcome_perform_of_prepare hasher unprepared
  refusal name value := rfl
  unchanged request fault failed := by
    have left : registry.after hasher request = registry := by rw [after, failed]
    refine ⟨?_, left⟩
    cases prepared : registry.prepare request with
    | error other =>
      rw [outcome_perform_of_prepare hasher prepared] at failed
      exact congrArg Except.error (Except.error.inj failed)
    | ok =>
      have served : request.isServed parameters.binnings := by
        by_contra refused
        obtain ⟨_, _, _, -, -, -, unprepared⟩ :=
          reflects.prepare_of_not_served sound countable refused
        rw [prepared] at unprepared
        cases unprepared
      have fits : ∀ name value, request ≠ .sample .set name value := by
        rintro name value rfl
        cases prepared
      obtain ⟨changed, performed⟩ := reflects.exists_perform sound served fits
      rw [performed] at failed
      cases failed

/-- With bins that can be numbered, a registry made with sound parameters serves whatever was asked
of it before. -/
theorem serves_run (hasher : ByteArray → UInt64)
    (wanted : Parameters.ofSettings settings = .ok parameters) (sound : parameters.Sound)
    (countable : ∀ binning ∈ settings.binnings, binning.bins < 2 ^ 64) (requests : List Request) :
    (run hasher (blank parameters) requests).Serves hasher settings.binnings := by
  rw [← binnings_of_ofSettings wanted] at countable ⊢
  exact (reflects_run hasher sound countable requests).serves sound countable

end Serving

/-- Where all timers of a stem would have too many bins, the first sample for one fails, and the
registry stays without aggregates. -/
theorem exists_add_of_oversized (hasher : ByteArray → UInt64) {binning : Binning} {name : String}
    (accepted : settings.check.outcome = .ok ()) (only : settings.binnings = [binning])
    (begins : binning.stem.isPrefixOf name = true) (oversized : 2 ^ 60 ≤ binning.bins)
    (numbered : binning.bins < 2 ^ 64) (value : Binary64) :
    ∃ parameters, (create settings).outcome = .ok (blank parameters) ∧
      ((blank parameters).add .timer name value).outcome =
        .error (.storage (.oversized binning.bins)) ∧
      run hasher (blank parameters) [.sample .timer name value] = blank parameters := by
  have found : binningFor settings.binnings name = some binning :=
    only ▸ binningFor_singleton begins
  have countable : ∀ binning ∈ settings.binnings, binning.bins < 2 ^ 64 := by
    rw [only]
    exact List.forall_mem_singleton.mpr numbered
  obtain ⟨parameters, wanted, sound, created⟩ := outcome_create_of_check accepted
  have serves := serves_run hasher wanted sound countable []
  have failed := serves.oversized name value binning found oversized
  exact ⟨parameters, created, failed,
    (serves.unchanged (.sample .timer name value) _ failed).2⟩

/-- Settings are looked at once. Those that are refused make no registry, for the same fault.
Those that are accepted make one, and with bins that can be numbered it serves whatever was asked
of it before. -/
theorem serves_run_of_check (hasher : ByteArray → UInt64) (settings : Settings) :
    (∀ fault, settings.check.outcome = .error fault →
      (create settings).outcome = .error fault) ∧
    (settings.check.outcome = .ok () →
      ∃ fresh, (create settings).outcome = .ok fresh ∧
        ((∀ binning ∈ settings.binnings, binning.bins < 2 ^ 64) →
          ∀ requests, (run hasher fresh requests).Serves hasher settings.binnings)) := by
  refine ⟨fun fault => outcome_create_of_fault, fun accepted => ?_⟩
  obtain ⟨parameters, wanted, sound, created⟩ := outcome_create_of_check accepted
  exact ⟨_, created, serves_run hasher wanted sound⟩

/-- Both happen: an error of one half is refused, and other settings make a registry that takes a
sample for a histogram of ten bins after any requests. -/
theorem serves_run_of_check_some :
    let refused : Settings := { timerError := 0.5 }
    let accepted : Settings := { setPrecision? := some 12, binnings := [⟨"t.", 0, 100, 12.5⟩] }
    refused.check.outcome = .error (.timerError 0.5) ∧
      (create refused).outcome = .error (.timerError 0.5) ∧
      accepted.check.outcome = .ok () ∧
      ∃ fresh, (create accepted).outcome = .ok fresh ∧
        ∀ requests, (run Cardinality.hashKey fresh requests).Serves Cardinality.hashKey
            accepted.binnings ∧
          ∃ changed, ((run Cardinality.hashKey fresh requests).add .timer "t.x" 0).outcome =
            .ok changed := by
  intro refused accepted
  have counted : ∀ binning ∈ accepted.binnings, binning.bins = 10 := by
    intro binning among
    rw [List.mem_singleton.mp among]
    decide +kernel
  have checked : accepted.check.outcome = .ok () := by
    unfold accepted
    rfl
  obtain ⟨fresh, created, serves⟩ :=
    (serves_run_of_check Cardinality.hashKey accepted).2 checked
  have faulty : refused.check.outcome = .error (.timerError 0.5) := by
    unfold refused
    rfl
  refine ⟨faulty, (serves_run_of_check Cardinality.hashKey refused).1 _ faulty, checked, fresh,
    created, fun requests => ?_⟩
  have countable : ∀ binning ∈ accepted.binnings, binning.bins < 2 ^ 64 := fun binning among =>
    (counted binning among).trans_lt (by decide)
  have serving := serves countable requests
  have roomy : ∀ binning, binningFor accepted.binnings "t.x" = some binning →
      binning.bins < 2 ^ 60 := fun binning found =>
    (counted binning (mem_of_binningFor found)).trans_lt (by decide)
  exact ⟨serving, serving.duration "t.x" 0 roomy⟩

/-- Settings that are accepted, with bins that can be numbered, make a registry whose first sample
for a timer fails: the bins of its histogram would take up too much. -/
theorem add_of_oversized :
    let binning : Binning := ⟨"t.", 0, 2000000000000000000, 1⟩
    let settings : Settings := { setPrecision? := some 12, binnings := [binning] }
    settings.check.outcome = .ok () ∧ binning.bins < 2 ^ 64 ∧
      ∃ fresh, (create settings).outcome = .ok fresh ∧
        (fresh.add .timer "t.x" ⟨0x3ff0000000000000⟩).outcome =
          .error (.storage (.oversized 2000000000000000002)) := by
  intro binning settings
  have bins : binning.bins = 2000000000000000002 := by decide +kernel
  have accepted : settings.check.outcome = .ok () := by
    unfold settings binning
    rfl
  have begins : binning.stem.isPrefixOf "t.x" = true := by decide +kernel
  have numbered : binning.bins < 2 ^ 64 := by rw [bins]; decide
  obtain ⟨parameters, created, failed, -⟩ :=
    exists_add_of_oversized Cardinality.hashKey accepted rfl begins (by rw [bins]; decide) numbered
      _
  exact ⟨accepted, numbered, _, created, bins ▸ failed⟩

end Registry

end Telemetry
