/-
# What a registry holds and lists

A registry holds for each kind and name what the requests for these make of a fresh
aggregate, and lists each of its aggregates once. As a listed aggregate tells its kind, the
names in use can be counted over all kinds together.

This is so for the requests that are served. One that is not, because the histogram of its timer
would have too many bins, leaves no trace.
-/

import Telemetry.Proofs.Registry.Acceptance

namespace Telemetry

namespace Histogram

/-- Histograms count the samples put into them. -/
theorem count_foldl_insert (values : List Binary64) (histogram : Histogram) :
    (values.foldl (fun histogram value => histogram.insert value.toFloat) histogram).count =
      histogram.count + values.length := by
  induction values generalizing histogram with
  | nil => rfl
  | cons value later recursion =>
    rw [List.foldl_cons, recursion, List.length_cons]
    exact Nat.add_right_comm histogram.count 1 later.length

end Histogram

namespace Registry

/-- There is a binning for a name if the name begins with one of their stems. -/
theorem isSome_binningFor_iff {binnings : List Binning} {name : String} :
    (binningFor binnings name).isSome ↔
      ∃ binning ∈ binnings, binning.stem.isPrefixOf name = true := by
  have candidates : (∃ binning ∈ binnings, binning.stem.isPrefixOf name = true) ↔
      (binnings.filter fun binning => binning.stem.isPrefixOf name) ≠ [] := by
    simp [List.filter_eq_nil_iff]
  rw [candidates, binningFor]
  -- Whatever was chosen before, the last candidate leaves one chosen.
  cases (binnings.filter fun binning => binning.stem.isPrefixOf name) using List.reverseRecOn with
  | nil => simp
  | append_singleton earlier last =>
    rw [List.foldl_append, List.foldl_cons, List.foldl_nil]
    split
    · simp
    · split <;> simp

variable {hasher : ByteArray → UInt64} {parameters : Parameters} {registry : Registry}
  {requests fed : List Request} {kind : Kind} {name : String} {metric : Metric}

section Timing

variable {entry : TimerEntry} {histogram : Histogram}

/-- A histogram that was made counts nothing. -/
theorem count_of_newHistogram (made : parameters.newHistogram name = .ok (some histogram)) :
    histogram.count = 0 := by
  rw [Parameters.newHistogram] at made
  split at made
  · cases made
  · rename_i binning found
    rw [Histogram.create] at made
    cases checked : binning.check with
    | error fault =>
      rw [checked] at made
      cases made
    | ok =>
      cases stored : binning.checkStorage with
      | error fault =>
        rw [checked, stored] at made
        cases made
      | ok =>
        rw [checked, stored] at made
        cases made
        rfl

theorem isSome_of_newHistogram {histogram? : Option Histogram}
    (made : parameters.newHistogram name = .ok histogram?) :
    histogram?.isSome = (binningFor parameters.binnings name).isSome := by
  rw [Parameters.newHistogram] at made
  cases found : binningFor parameters.binnings name with
  | none =>
    rw [found] at made
    cases made
    rfl
  | some binning =>
    rw [found] at made
    dsimp only at made
    cases created : Histogram.create binning with
    | error fault =>
      rw [created] at made
      cases made
    | ok histogram =>
      rw [created] at made
      cases made
      rfl

/-- A histogram counts whatever its timer counts. -/
theorem Fed.count_histogram (holds : Fed hasher parameters name fed (.timer entry))
    (binned : entry.histogram? = some histogram) :
    histogram.count = entry.timer.moments.count := by
  cases holds with
  | @timer _ timer histogram? created made binning =>
    obtain ⟨targets, rfl⟩ := Timer.eq_empty_of_create created
    obtain ⟨same, answered, counted⟩ :=
      Timer.answers_ofValues targets (fed.filterMap Request.value?)
    rw [Timer.ofValues, made] at answered
    cases answered
    obtain ⟨start, rfl, rfl⟩ := Option.map_eq_some_iff.mp binned
    rw [Histogram.count_foldl_insert, count_of_newHistogram binning, counted]
    exact Nat.zero_add _

theorem Fed.isSome_histogram (holds : Fed hasher parameters name fed (.timer entry)) :
    entry.histogram?.isSome ↔
      ∃ binning ∈ parameters.binnings, binning.stem.isPrefixOf name = true := by
  cases holds with
  | timer created made binned =>
    rw [Option.isSome_map, isSome_of_newHistogram binned, isSome_binningFor_iff]

theorem Reflects.fed_timer (reflects : Reflects hasher parameters requests registry)
    (held : registry.timers[name]? = some entry) :
    Fed hasher parameters name (calls .timer name requests) (.timer entry) := by
  have kept := reflects.aggregates .timer name
  rw [aggregate?, held] at kept
  cases kept with
  | used called same => exact same

end Timing

/-- What a listed aggregate is listed for. -/
def label (listed : String × Metric) : Kind × String :=
  (listed.2.kind, listed.1)

/-- The aggregates that a registry keeps by name, kind by kind. -/
def named (registry : Registry) : List (String × Metric) :=
  registry.gauges.toList.map (fun (name, level) => (name, .gauge level)) ++
    registry.counters.toList.map (fun (name, counter) => (name, .counter counter)) ++
    registry.timers.toList.map (fun (name, entry) => (name, .timer entry)) ++
    registry.sets.toList.map (fun (name, set) => (name, .set set))

/-- The names in use for a kind. -/
def names (registry : Registry) : Kind → List String
  | .gauge => registry.gauges.keys
  | .counter => registry.counters.keys
  | .timer => registry.timers.keys
  | .set => registry.sets.keys
  | .keyValue | .gaugeDelta => []

theorem nodup_names (registry : Registry) (kind : Kind) : (registry.names kind).Nodup := by
  cases kind <;> first | exact List.nodup_nil | exact Std.TreeMap.nodup_keys

theorem map_label_named (registry : Registry) :
    registry.named.map label = [Kind.gauge, .counter, .timer, .set].flatMap fun kind =>
      (registry.names kind).map (Prod.mk kind) := by
  simp only [named, names, List.map_append, List.map_map, List.flatMap_cons, List.flatMap_nil,
    ← Std.TreeMap.map_fst_toList_eq_keys, List.append_nil, List.append_assoc]
  rfl

theorem nodup_map_label_named (registry : Registry) : (registry.named.map label).Nodup := by
  rw [map_label_named, List.nodup_flatMap]
  constructor
  · exact fun kind _ => (registry.nodup_names kind).map (Prod.mk_right_injective kind)
  · have kinds : [Kind.gauge, .counter, .timer, .set].Nodup := by decide
    refine kinds.pairwise_of_forall_ne fun first _ second _ different => ?_
    rw [Function.onFun, List.disjoint_iff_ne]
    rintro _ listed _ among equal
    obtain ⟨name, -, rfl⟩ := List.mem_map.mp listed
    obtain ⟨called, -, rfl⟩ := List.mem_map.mp among
    exact different (congrArg Prod.fst equal)

theorem mem_named_iff :
    (name, metric) ∈ registry.named ↔ registry.aggregate? metric.kind name = some metric := by
  simp only [named, List.mem_append, List.mem_map, Prod.exists, Prod.mk.injEq,
    Std.TreeMap.mem_toList_iff_getElem?_eq_some]
  cases metric <;> simp [aggregate?, Metric.kind]

theorem metrics_eq_append_named (registry : Registry) :
    registry.metrics =
      registry.keyValues.toList.map (fun (name, value) => (name, .keyValue value)) ++
        registry.named := by
  simp [metrics, named]

theorem length_eq_add_length_named (registry : Registry) :
    registry.length = registry.keyValues.toList.length + registry.named.length := by
  simp only [length, named, List.length_append, List.length_map, Std.TreeMap.length_toList,
    Array.length_toList]
  omega

theorem kind_of_aggregate? (held : registry.aggregate? kind name = some metric) :
    metric.kind = kind := by
  cases kind with
  | keyValue | gaugeDelta => cases held
  | _ =>
    obtain ⟨value, -, rfl⟩ := Option.map_eq_some_iff.mp held
    rfl

/-- A kind and name are in use when something was asked for them. -/
theorem Reflects.mem_map_label_named_iff (reflects : Reflects hasher parameters requests registry) :
    (kind, name) ∈ registry.named.map label ↔
      (kind, name) ∈ requests.filterMap Request.target? := by
  have called : (kind, name) ∈ requests.filterMap Request.target? ↔
      calls kind name requests ≠ [] := by
    simp [calls, List.filter_eq_nil_iff]
  rw [called, List.mem_map]
  have kept := reflects.aggregates kind name
  constructor
  · rintro ⟨⟨_, metric⟩, listed, same⟩
    cases same
    rw [mem_named_iff.mp listed] at kept
    cases kept with
    | used called same => exact called
  · intro called
    cases held : registry.aggregate? kind name with
    | none =>
      rw [held] at kept
      cases kept with
      | unused uncalled => exact absurd uncalled called
    | some metric =>
      cases kind_of_aggregate? held
      exact ⟨(name, metric), mem_named_iff.mpr held, rfl⟩

/-- Every aggregate is listed once. -/
structure Lists (requests : List Request) (registry : Registry) : Prop where
  /-- Every pair counts, and so does every name, once for each kind that it is used for. -/
  length : registry.length = (requests.filterMap Request.keyValue?).length +
    (requests.filterMap Request.target?).toFinset.card
  /-- Pairs come first, and no two aggregates after them have both kind and name in common. -/
  metrics : ∃ named, registry.metrics =
      (requests.filterMap Request.keyValue?).map (fun (name, value) => (name, .keyValue value)) ++
        named ∧
    (named.map label).Nodup ∧
    ∀ name metric, (name, metric) ∈ named ↔ registry.aggregate? metric.kind name = some metric

theorem Reflects.lists (reflects : Reflects hasher parameters requests registry) :
    Lists requests registry where
  length := by
    have listed : (registry.named.map label).toFinset =
        (requests.filterMap Request.target?).toFinset := by
      ext ⟨kind, name⟩
      rw [List.mem_toFinset, List.mem_toFinset, reflects.mem_map_label_named_iff]
    rw [length_eq_add_length_named, reflects.keyValues, ← listed,
      List.toFinset_card_of_nodup registry.nodup_map_label_named, List.length_map]
  metrics := by
    refine ⟨registry.named, ?_, registry.nodup_map_label_named, fun name metric => mem_named_iff⟩
    rw [metrics_eq_append_named, reflects.keyValues]

/-- With bins that can be numbered, what a registry keeps for a kind and name is what the requests
for just these make of a fresh aggregate with the parameters that the settings ask for, as far as
they are served. A timer has a histogram if a stem matches its name, and this counts what the timer
counts. Every aggregate is listed once. A request that is not served fails while its histogram is
made, which is before anything changes; where no binning has too many bins, every request is
served. -/
theorem independent_of_run (hasher : ByteArray → UInt64) {settings : Settings} {fresh : Registry}
    (created : (create settings).outcome = .ok fresh)
    (countable : ∀ binning ∈ settings.binnings, binning.bins < 2 ^ 64)
    (requests : List Request) :
    let served := servedOf settings.binnings requests
    let registry := run hasher fresh requests
    (∃ parameters, Parameters.ofSettings settings = .ok parameters ∧ fresh = blank parameters ∧
      Reflects hasher parameters served registry) ∧
      (∀ name entry, registry.timers[name]? = some entry →
        (entry.histogram?.isSome ↔
          ∃ binning ∈ settings.binnings, binning.stem.isPrefixOf name = true) ∧
        ∀ histogram, entry.histogram? = some histogram →
          histogram.count = entry.timer.moments.count) ∧
      Lists served registry ∧
      (∀ request, ¬request.isServed settings.binnings →
        ∃ name value binning, request = .sample .timer name value ∧
          binningFor settings.binnings name = some binning ∧ 2 ^ 60 ≤ binning.bins ∧
          registry.prepare request = .error (.storage (.oversized binning.bins)) ∧
          (registry.perform hasher request).outcome =
            .error (.storage (.oversized binning.bins)) ∧
          registry.after hasher request = registry) ∧
      ((∀ binning ∈ settings.binnings, binning.bins < 2 ^ 60) → served = requests) := by
  obtain ⟨parameters, wanted, sound, rfl⟩ := exists_sound_of_create created
  have same := binnings_of_ofSettings wanted
  rw [← same] at countable ⊢
  have reflects := reflects_run hasher sound countable requests
  refine ⟨⟨parameters, wanted, rfl, reflects⟩, fun name entry held => ?_, reflects.lists,
    fun request refused => ?_, fun roomy => ?_⟩
  · have holds := reflects.fed_timer held
    exact ⟨holds.isSome_histogram, fun histogram => holds.count_histogram⟩
  · obtain ⟨name, value, binning, timed, found, oversized, unprepared⟩ :=
      reflects.prepare_of_not_served sound countable refused
    have failed := outcome_perform_of_prepare hasher unprepared
    exact ⟨name, value, binning, timed, found, oversized, unprepared, failed, by rw [after, failed]⟩
  · refine List.filter_eq_self.mpr fun request among => ?_
    by_contra refused
    obtain ⟨name, _, binning, -, found, oversized, -⟩ :=
      reflects.prepare_of_not_served sound countable refused
    exact absurd (roomy binning (mem_of_binningFor found)) (Nat.not_lt.mpr oversized)

/-- One name for three kinds is in use three times, and its gauge only follows the requests for
the gauge. -/
theorem independent_of_run_same_name :
    let settings : Settings := { setPrecision? := some 12, binnings := [⟨"t", 0, 100, 12.5⟩] }
    let requests : List Request :=
      [.sample .gauge "t" ⟨0x3ff0000000000000⟩, .sample .timer "t" ⟨0x4024000000000000⟩,
        .sample .keyValue "t" ⟨0⟩, .sample .set "t" ⟨0⟩, .member "t" ⟨#[1]⟩,
        .sample .gaugeDelta "t" ⟨0x3fe0000000000000⟩]
    ∃ fresh, (create settings).outcome = .ok fresh ∧
      (∀ binning ∈ settings.binnings, binning.bins < 2 ^ 64) ∧
      (run Cardinality.hashKey fresh requests).length = 4 ∧
      (run Cardinality.hashKey fresh requests).gauges["t"]?.getD 0 = ⟨0x3ff8000000000000⟩ := by
  intro settings requests
  have accepted : settings.check.outcome = .ok () := by
    unfold settings
    rfl
  have counted : ∀ binning ∈ settings.binnings, binning.bins = 10 := by
    intro binning among
    rw [List.mem_singleton.mp among]
    decide +kernel
  have countable : ∀ binning ∈ settings.binnings, binning.bins < 2 ^ 64 := fun binning among =>
    (counted binning among).trans_lt (by decide)
  obtain ⟨parameters, -, -, created⟩ := outcome_create_of_check accepted
  obtain ⟨⟨_, -, -, reflects⟩, -, lists, -, all⟩ :=
    independent_of_run Cardinality.hashKey created countable requests
  rw [all fun binning among => (counted binning among).trans_lt (by decide)] at reflects lists
  refine ⟨_, created, countable, lists.length.trans (by decide +kernel), ?_⟩
  have fed : Fed _ _ "t" (calls .gauge "t" requests) (.gauge _) := reflects.fed_gauge
  generalize (Option.getD _ 0 : Binary64) = level at fed ⊢
  cases fed
  decide +kernel

/-- Settings that are accepted, with bins that can be numbered, make a registry that keeps nothing
of the one sample it is given: a timer was asked for and there is none. -/
theorem not_lists_of_oversized :
    let binning : Binning := ⟨"t.", 0, 2000000000000000000, 1⟩
    let settings : Settings := { setPrecision? := some 12, binnings := [binning] }
    let requests : List Request := [.sample .timer "t.x" ⟨0x3ff0000000000000⟩]
    binning.bins < 2 ^ 64 ∧
      ∃ fresh, (create settings).outcome = .ok fresh ∧
        (run Cardinality.hashKey fresh requests).length = 0 ∧
        calls .timer "t.x" requests = requests ∧
        (run Cardinality.hashKey fresh requests).aggregate? .timer "t.x" = none ∧
        ¬Lists requests (run Cardinality.hashKey fresh requests) := by
  intro binning settings requests
  have bins : binning.bins = 2000000000000000002 := by decide +kernel
  have accepted : settings.check.outcome = .ok () := by
    unfold settings binning
    rfl
  have begins : binning.stem.isPrefixOf "t.x" = true := by decide +kernel
  have numbered : binning.bins < 2 ^ 64 := by rw [bins]; decide
  obtain ⟨parameters, created, -, left⟩ :=
    exists_add_of_oversized Cardinality.hashKey accepted rfl begins (by rw [bins]; decide) numbered
      ⟨0x3ff0000000000000⟩
  refine ⟨numbered, _, created, ?_⟩
  rw [left]
  refine ⟨rfl, rfl, rfl, fun lists => ?_⟩
  have length : 0 = (requests.filterMap Request.keyValue?).length +
      (requests.filterMap Request.target?).toFinset.card := lists.length
  revert length
  decide +kernel

end Registry

end Telemetry
