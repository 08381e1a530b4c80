/-
# Requests to a registry

A request is for the aggregate of one kind and name, which it changes or makes, and for no
other. So what a registry holds under a kind and name is what the calls for just these make
of an aggregate that starts fresh, however many other requests come in between.

A request that fails does so while its aggregate is looked up or made, before the registry
changes. Of the aggregates that checked parameters call for, only a histogram with too many bins
cannot be made: requests for its timers are the ones that are not served.
-/

import Telemetry.Proofs.Aggregate.DistinctCount
import Telemetry.Proofs.Aggregate.Durations
import Telemetry.Registry

namespace Telemetry

/-- The kind under which an aggregate is kept. -/
def Metric.kind : Metric → Kind
  | keyValue _ => .keyValue
  | gauge _ => .gauge
  | counter _ => .counter
  | timer _ => .timer
  | set _ => .set

namespace Registry

/-- What can be asked of a registry. -/
inductive Request where
  | sample (kind : Kind) (name : String) (value : Binary64)
  | member (name : String) (key : ByteArray)

namespace Request

/-- The kind and name of the aggregate that a request is for. A key/value pair is kept as it
comes, and a number is for no set. -/
def target? : Request → Option (Kind × String)
  | sample .gauge name _ | sample .gaugeDelta name _ => some (.gauge, name)
  | sample .counter name _ => some (.counter, name)
  | sample .timer name _ => some (.timer, name)
  | member name _ => some (.set, name)
  | sample .keyValue _ _ | sample .set _ _ => none

/-- The pair that a request adds, if it adds one. -/
def keyValue? : Request → Option (String × Binary64)
  | sample .keyValue name value => some (name, value)
  | _ => none

/-- The number that a request gives, if it gives one. -/
def value? : Request → Option Binary64
  | sample _ _ value => some value
  | member _ _ => none

/-- The key that a request gives, if it gives one. -/
def key? : Request → Option ByteArray
  | sample _ _ _ => none
  | member _ key => some key

/-- The level of a gauge after a request for it: set outright, or adjusted. -/
def level (before : Binary64) : Request → Binary64
  | sample .gaugeDelta _ value => .ofFloat (before.toFloat + value.toFloat)
  | sample _ _ value => value
  | member _ _ => before

/-- Whether the aggregate that a request is for can be made with some binnings: a timer has to be
able to count in all bins that its name calls for. -/
def isServed (binnings : List Binning) : Request → Bool
  | sample .timer name _ => (binningFor binnings name).all (·.bins < Binning.storageLimit)
  | _ => true

end Request

/-- What a request reads and makes before the registry changes. -/
def prepare (registry : Registry) : Request → Except Error Unit
  | .sample .timer name _ => (registry.timerFor name).outcome.map fun _ => ()
  | .sample .set _ _ => .error (.notNumeric .set)
  | .sample _ _ _ => .ok ()
  | .member name _ => (registry.setFor name).outcome.map fun _ => ()

section Runs

variable (hasher : ByteArray → UInt64)

/-- Do what is asked. -/
def perform (registry : Registry) : Request → Traced Error Registry
  | .sample kind name value => registry.add kind name value
  | .member name key => registry.addMember hasher name key

/-- The registry after a request. One that fails leaves it as it was. -/
def after (registry : Registry) (request : Request) : Registry :=
  match (registry.perform hasher request).outcome with
  | .ok changed => changed
  | .error _ => registry

/-- The registry after some requests. -/
def run (fresh : Registry) (requests : List Request) : Registry :=
  requests.foldl (after hasher) fresh

end Runs

theorem run_append_singleton (hasher : ByteArray → UInt64) (fresh : Registry)
    (requests : List Request) (request : Request) :
    run hasher fresh (requests ++ [request]) = (run hasher fresh requests).after hasher request :=
  List.foldl_append

/-- The requests for one kind and name, in order. -/
def calls (kind : Kind) (name : String) (requests : List Request) : List Request :=
  requests.filter (·.target? = some (kind, name))

/-- The aggregate kept under a kind and name. -/
def aggregate? (registry : Registry) : Kind → String → Option Metric
  | .gauge, name => registry.gauges[name]?.map .gauge
  | .counter, name => registry.counters[name]?.map .counter
  | .timer, name => registry.timers[name]?.map .timer
  | .set, name => registry.sets[name]?.map .set
  | .keyValue, _ | .gaugeDelta, _ => none

/-- What some calls make of a fresh aggregate with given parameters. -/
inductive Fed (hasher : ByteArray → UInt64) (parameters : Parameters) (name : String)
    (calls : List Request) : Metric → Prop
  | gauge : Fed hasher parameters name calls (.gauge (calls.foldl Request.level 0))
  | counter :
      Fed hasher parameters name calls (.counter
        ((calls.filterMap Request.value?).foldl
          (fun counter value => counter.add value.toFloat) .empty))
  | timer {start timer : Timer} {histogram? : Option Histogram}
      (created : Timer.create parameters.timerError parameters.quantiles = .ok start)
      (fed : ((calls.filterMap Request.value?).foldlM Timer.add start).outcome = .ok timer)
      (binned : parameters.newHistogram name = .ok histogram?) :
      Fed hasher parameters name calls (.timer ⟨timer, histogram?.map fun histogram =>
        (calls.filterMap Request.value?).foldl
          (fun histogram value => histogram.insert value.toFloat) histogram⟩)
  | set {start set : DistinctSet} (created : DistinctSet.create parameters.precision = .ok start)
      (fed : ((calls.filterMap Request.key?).foldlM (DistinctSet.add hasher) start :
        Traced Error DistinctSet).outcome = .ok set) :
      Fed hasher parameters name calls (.set set)

/-- An aggregate is kept from the first call for it on, and is what the calls make of a fresh
one. -/
inductive Kept (fed : Metric → Prop) (calls : List Request) : Option Metric → Prop
  | unused (uncalled : calls = []) : Kept fed calls none
  | used {metric : Metric} (called : calls ≠ []) (same : fed metric) :
      Kept fed calls (some metric)

/-- What a registry holds after some requests. -/
structure Reflects (hasher : ByteArray → UInt64) (parameters : Parameters)
    (requests : List Request) (registry : Registry) : Prop where
  unchanged : registry.parameters = parameters
  keyValues : registry.keyValues.toList = requests.filterMap Request.keyValue?
  aggregates : ∀ kind name, Kept (Fed hasher parameters name (calls kind name requests))
    (calls kind name requests) (registry.aggregate? kind name)

/-- The checks that aggregates make of their parameters are passed. -/
structure Parameters.Sound (parameters : Parameters) : Prop where
  timers : ∃ targets,
    Quantile.Targets.create parameters.timerError parameters.quantiles = .ok targets
  sets : ∃ precision, Cardinality.Precision.ofNat parameters.precision = .ok precision
  binnings : ∀ binning ∈ parameters.binnings, binning.check = .ok ()

/-- One aggregate is replaced and everything else stays. -/
structure Replaces (kind : Kind) (name : String) (metric : Metric) (registry changed : Registry) :
    Prop where
  unchanged : changed.parameters = registry.parameters
  keyValues : changed.keyValues = registry.keyValues
  aggregates : ∀ other called, changed.aggregate? other called =
    if (kind, name) = (other, called) then some metric else registry.aggregate? other called

section Replacing

/-- One entry of a map is put in place and every other one stays. -/
def Puts {α : Type} (map changed : Std.TreeMap String α) (name : String) (value : α) : Prop :=
  ∀ called, changed[called]? = if name = called then some value else map[called]?

theorem puts_insert {α : Type} (map : Std.TreeMap String α) (name : String) (value : α) :
    Puts map (map.insert name value) name value := by
  intro called
  rw [Std.TreeMap.getElem?_insert]
  simp

theorem puts_erase_insert {α : Type} (map : Std.TreeMap String α) (name : String) (value : α) :
    Puts map ((map.erase name).insert name value) name value := by
  intro called
  rw [Std.TreeMap.getElem?_insert, Std.TreeMap.getElem?_erase]
  by_cases same : name = called <;> simp [same]

theorem puts_alter {α : Type} (map : Std.TreeMap String α) (name : String)
    (change : Option α → α) :
    Puts map (map.alter name fun value? => some (change value?)) name (change map[name]?) := by
  intro called
  rw [Std.TreeMap.getElem?_alter]
  simp

variable {registry : Registry} {name : String}

theorem replaces_gauge {gauges : Std.TreeMap String Binary64} {level : Binary64}
    (puts : Puts registry.gauges gauges name level) :
    Replaces .gauge name (.gauge level) registry { registry with gauges := gauges } where
  unchanged := rfl
  keyValues := rfl
  aggregates other called := by
    cases other <;> simp [aggregate?, puts called, apply_ite (Option.map Metric.gauge)]

theorem replaces_counter {counters : Std.TreeMap String Counter} {counter : Counter}
    (puts : Puts registry.counters counters name counter) :
    Replaces .counter name (.counter counter) registry { registry with counters := counters } where
  unchanged := rfl
  keyValues := rfl
  aggregates other called := by
    cases other <;> simp [aggregate?, puts called, apply_ite (Option.map Metric.counter)]

theorem replaces_timer {timers : Std.TreeMap String TimerEntry} {entry : TimerEntry}
    (puts : Puts registry.timers timers name entry) :
    Replaces .timer name (.timer entry) registry { registry with timers := timers } where
  unchanged := rfl
  keyValues := rfl
  aggregates other called := by
    cases other <;> simp [aggregate?, puts called, apply_ite (Option.map Metric.timer)]

theorem replaces_set {sets : Std.TreeMap String DistinctSet} {set : DistinctSet}
    (puts : Puts registry.sets sets name set) :
    Replaces .set name (.set set) registry { registry with sets := sets } where
  unchanged := rfl
  keyValues := rfl
  aggregates other called := by
    cases other <;> simp [aggregate?, puts called, apply_ite (Option.map Metric.set)]

end Replacing

section Feeding

variable {hasher : ByteArray → UInt64} {parameters : Parameters} {kind : Kind} {name : String}
  {requests fed : List Request} {request : Request} {value : Binary64}

theorem calls_append_of_target (target : request.target? = some (kind, name)) :
    calls kind name (requests ++ [request]) = calls kind name requests ++ [request] := by
  simp [calls, target]

theorem calls_append_of_ne (other : request.target? ≠ some (kind, name)) :
    calls kind name (requests ++ [request]) = calls kind name requests := by
  simp [calls, other]

namespace Fed

/-- One more call sets or adjusts the level that there is. -/
theorem gauge_append {level : Binary64} (before : Fed hasher parameters name fed (.gauge level))
    (request : Request) :
    Fed hasher parameters name (fed ++ [request]) (.gauge (request.level level)) := by
  cases before
  have longer : request.level (fed.foldl Request.level 0) =
      (fed ++ [request]).foldl Request.level 0 := by
    rw [List.foldl_append]
    rfl
  exact longer ▸ .gauge

theorem values_append (given : request.value? = some value) :
    (fed ++ [request]).filterMap Request.value? = fed.filterMap Request.value? ++ [value] := by
  simp [given]

theorem counter_append {counter : Counter}
    (before : Fed hasher parameters name fed (.counter counter))
    (given : request.value? = some value) :
    Fed hasher parameters name (fed ++ [request]) (.counter (counter.add value.toFloat)) := by
  cases before
  have after : Fed hasher parameters name (fed ++ [request]) _ := .counter
  rwa [values_append given, List.foldl_append] at after

/-- Adding to a set answers whatever it was given before. -/
theorem set_append {set : DistinctSet} {key : ByteArray}
    (before : Fed hasher parameters name fed (.set set)) (given : request.key? = some key) :
    Answers (set.add hasher key : Traced Error DistinctSet).outcome fun changed =>
      Fed hasher parameters name (fed ++ [request]) (.set changed) := by
  cases before with
  | @set start _ created before =>
    have keys : (fed ++ [request]).filterMap Request.key? =
        fed.filterMap Request.key? ++ [key] := by
      simp [given]
    refine ⟨_, DistinctSet.outcome_add hasher set key, .set created ?_⟩
    rw [keys, List.foldlM_append, Traced.outcome_bind, before, except_ok_bind, List.foldlM_cons,
      Traced.outcome_bind, DistinctSet.outcome_add]
    rfl

theorem outcome_timerEntry_add {entry : TimerEntry} {timer : Timer}
    (added : (entry.timer.add value).outcome = .ok timer) :
    (TimerEntry.add entry value).outcome =
      .ok ⟨timer, entry.histogram?.map (·.insert value.toFloat)⟩ := by
  rw [TimerEntry.add, Traced.outcome_bind, Traced.outcome_mapError, added]
  rfl

/-- Adding to a timer and to its histogram answers whatever both were given before. -/
theorem timer_append {entry : TimerEntry} (before : Fed hasher parameters name fed (.timer entry))
    (given : request.value? = some value) :
    Answers (TimerEntry.add entry value).outcome fun changed =>
      Fed hasher parameters name (fed ++ [request]) (.timer changed) := by
  cases before with
  | @timer _ timer histogram? created made binned =>
    obtain ⟨targets, rfl⟩ := Timer.eq_empty_of_create created
    obtain ⟨longer, remade, -⟩ :=
      Timer.answers_ofValues targets ((fed ++ [request]).filterMap Request.value?)
    have after : Fed hasher parameters name (fed ++ [request]) _ := .timer created remade binned
    rw [values_append given, Timer.ofValues_append_singleton, Traced.outcome_bind,
      Timer.ofValues, made] at remade
    refine ⟨_, outcome_timerEntry_add remade, ?_⟩
    rw [values_append given] at after
    simpa only [List.foldl_append, List.foldl_cons, List.foldl_nil, Option.map_map,
      Function.comp_def] using after

end Fed

/-- What is kept, or else a fresh aggregate, is what the calls so far make of a fresh one. -/
theorem Kept.fed_getD {holds : Metric → Prop} {metric? : Option Metric} {init : Metric}
    (kept : Kept holds fed metric?) (begins : fed = [] → holds init) :
    holds (metric?.getD init) := by
  cases kept with
  | unused uncalled => exact begins uncalled
  | used called same => exact same

/-- The binning for a name is one of those there are. -/
theorem mem_of_binningFor {binnings : List Binning} {binning : Binning}
    (found : binningFor binnings name = some binning) : binning ∈ binnings := by
  revert found binning
  refine List.foldlRecOn (motive := fun chosen? => ∀ {binning : Binning},
    chosen? = some binning → binning ∈ binnings) _ _ (by simp) ?_
  intro chosen? known candidate among binning found
  have listed : candidate ∈ binnings := List.mem_of_mem_filter among
  split at found
  · cases found
    exact listed
  · split at found
    · exact known found
    · cases found
      exact listed

/-- The only binning there is applies to the names that its stem begins. -/
theorem binningFor_singleton {binning : Binning} (begins : binning.stem.isPrefixOf name = true) :
    binningFor [binning] name = some binning := by
  simp [binningFor, begins]

/-! ## Making aggregates -/

namespace Parameters.Sound

variable (sound : parameters.Sound)
include sound

theorem exists_timer :
    ∃ start, Timer.create parameters.timerError parameters.quantiles = .ok start := by
  obtain ⟨targets, created⟩ := sound.timers
  exact ⟨.empty targets, by rw [Timer.create, created]⟩

theorem exists_set : ∃ start, DistinctSet.create parameters.precision = .ok start := by
  obtain ⟨precision, sized⟩ := sound.sets
  exact ⟨.empty precision, by rw [DistinctSet.create, sized]; rfl⟩

theorem create_histogram {binning : Binning}
    (found : binningFor parameters.binnings name = some binning) :
    Histogram.create binning =
      binning.checkStorage.mapError Error.storage >>= fun _ => .ok (.empty binning) := by
  rw [Histogram.create, sound.binnings binning (mem_of_binningFor found)]
  rfl

/-- Where a name calls for a histogram whose bins can be counted in, there is one. -/
theorem exists_histogram
    (roomy : (binningFor parameters.binnings name).all (·.bins < Binning.storageLimit)) :
    ∃ histogram?, parameters.newHistogram name = .ok histogram? := by
  rw [newHistogram]
  cases found : binningFor parameters.binnings name with
  | none => exact ⟨none, rfl⟩
  | some binning =>
    rw [found, Option.all_some, decide_eq_true_eq] at roomy
    have countable : ¬Binning.countLimit ≤ binning.bins :=
      Nat.not_le.mpr (roomy.trans (by decide))
    have room : binning.checkStorage = .ok () := by
      rw [Binning.checkStorage, if_neg countable, if_neg (Nat.not_le.mpr roomy)]
    refine ⟨some (.empty binning), ?_⟩
    dsimp only
    rw [sound.create_histogram found, room]
    rfl

/-- Where the counters of a histogram would take up too much, there is none. -/
theorem newHistogram_of_oversized {binning : Binning}
    (found : binningFor parameters.binnings name = some binning)
    (countable : binning.bins < Binning.countLimit)
    (oversized : Binning.storageLimit ≤ binning.bins) :
    parameters.newHistogram name = .error (.storage (.oversized binning.bins)) := by
  have room : binning.checkStorage = .error (.oversized binning.bins) := by
    rw [Binning.checkStorage, if_neg (Nat.not_le.mpr countable), if_pos oversized]
  rw [newHistogram, found]
  dsimp only
  rw [sound.create_histogram found, room]
  rfl

end Parameters.Sound

theorem outcome_newTimer (parameters : Parameters) (name : String) :
    (parameters.newTimer name).outcome =
      parameters.newHistogram name >>= fun histogram? =>
        (Timer.create parameters.timerError parameters.quantiles).map (⟨·, histogram?⟩) := by
  rw [Parameters.newTimer, Traced.outcome_bind, Traced.outcome_lift]
  congr 1
  funext histogram?
  cases Timer.create parameters.timerError parameters.quantiles <;> rfl

theorem outcome_newSet (parameters : Parameters) (name : String) :
    (parameters.newSet name).outcome = DistinctSet.create parameters.precision := by
  rw [Parameters.newSet, Traced.outcome_bind]
  rfl

/-! ## Performing requests -/

theorem outcome_addDuration {registry : Registry} {entry changed : TimerEntry}
    (ready : (registry.timerFor name).outcome = .ok entry)
    (added : (TimerEntry.add entry value).outcome = .ok changed) :
    (registry.addDuration name value).outcome =
      .ok { registry with timers := (registry.timers.erase name).insert name changed } := by
  rw [addDuration, Traced.outcome_bind, ready]
  simp only [except_ok_bind, Traced.outcome_bind, added]
  rfl

theorem outcome_addMember {registry : Registry} {key : ByteArray} {set changed : DistinctSet}
    (ready : (registry.setFor name).outcome = .ok set)
    (added : (set.add hasher key : Traced Error DistinctSet).outcome = .ok changed) :
    (registry.addMember hasher name key).outcome =
      .ok { registry with sets := (registry.sets.erase name).insert name changed } := by
  rw [addMember, Traced.outcome_bind, ready]
  simp only [except_ok_bind, Traced.outcome_bind, added]
  rfl

/-- What cannot be prepared fails. -/
theorem outcome_perform_of_prepare (hasher : ByteArray → UInt64) {registry : Registry}
    {fault : Error} (refused : registry.prepare request = .error fault) :
    (registry.perform hasher request).outcome = .error fault := by
  cases request with
  | member called key =>
    rw [perform, addMember, Traced.outcome_bind, eq_error_of_map refused]
    rfl
  | sample kind called value =>
    cases kind with
    | timer =>
      rw [perform, add, addDuration, Traced.outcome_bind, eq_error_of_map refused]
      rfl
    | set =>
      cases refused
      rfl
    | _ => cases refused

namespace Reflects

variable {registry : Registry} (reflects : Reflects hasher parameters requests registry)
include reflects

theorem fed_gauge : Fed hasher parameters name (calls .gauge name requests)
    (.gauge (registry.gauges[name]?.getD 0)) := by
  have begins (uncalled : calls .gauge name requests = []) :
      Fed hasher parameters name (calls .gauge name requests) (.gauge 0) := uncalled ▸ .gauge
  rw [← Option.getD_map Metric.gauge]
  exact (reflects.aggregates .gauge name).fed_getD begins

theorem fed_counter : Fed hasher parameters name (calls .counter name requests)
    (.counter (registry.counters[name]?.getD .empty)) := by
  have begins (uncalled : calls .counter name requests = []) :
      Fed hasher parameters name (calls .counter name requests) (.counter .empty) :=
    uncalled ▸ .counter
  rw [← Option.getD_map Metric.counter]
  exact (reflects.aggregates .counter name).fed_getD begins

/-- There is a timer for every name with room for its bins, or one can be made. -/
theorem fed_timerFor (sound : parameters.Sound)
    (roomy : (binningFor parameters.binnings name).all (·.bins < Binning.storageLimit)) :
    Answers (registry.timerFor name).outcome fun entry =>
      Fed hasher parameters name (calls .timer name requests) (.timer entry) := by
  have kept := reflects.aggregates .timer name
  rw [aggregate?] at kept
  rw [timerFor]
  cases held : registry.timers[name]? with
  | some entry =>
    rw [held] at kept
    cases kept with
    | used called same => exact answers_ok same
  | none =>
    rw [held] at kept
    cases kept with
    | unused uncalled =>
      obtain ⟨start, created⟩ := sound.exists_timer
      obtain ⟨histogram?, binned⟩ := sound.exists_histogram roomy
      refine ⟨⟨start, histogram?⟩, ?_, ?_⟩
      · dsimp only
        rw [outcome_newTimer, reflects.unchanged, created, binned]
        rfl
      · have fed : Fed hasher parameters name [] (.timer ⟨start, histogram?.map id⟩) :=
          .timer created rfl binned
        rw [Option.map_id_apply] at fed
        exact uncalled ▸ fed

/-- There is a set for every name, or one can be made. -/
theorem fed_setFor (sound : parameters.Sound) (name : String) :
    Answers (registry.setFor name).outcome fun set =>
      Fed hasher parameters name (calls .set name requests) (.set set) := by
  have kept := reflects.aggregates .set name
  rw [aggregate?] at kept
  rw [setFor]
  cases held : registry.sets[name]? with
  | some set =>
    rw [held] at kept
    cases kept with
    | used called same => exact answers_ok same
  | none =>
    rw [held] at kept
    cases kept with
    | unused uncalled =>
      obtain ⟨start, created⟩ := sound.exists_set
      refine ⟨start, ?_, uncalled ▸ .set created rfl⟩
      dsimp only
      rw [outcome_newSet, reflects.unchanged, created]

/-- A request that is served and is for an aggregate answers, and makes of this aggregate what one
more call makes of it. -/
theorem perform (sound : parameters.Sound) (served : request.isServed parameters.binnings)
    (target : request.target? = some (kind, name)) :
    Answers (registry.perform hasher request).outcome fun changed =>
      ∃ metric, Replaces kind name metric registry changed ∧
        Fed hasher parameters name (calls kind name requests ++ [request]) metric := by
  cases request with
  | member called key =>
    cases target
    have given : (Request.member name key).key? = some key := rfl
    obtain ⟨set, ready, before⟩ := reflects.fed_setFor sound name
    obtain ⟨changed, added, after⟩ := before.set_append given
    exact ⟨_, outcome_addMember ready added, _, replaces_set (puts_erase_insert _ _ _), after⟩
  | sample given called value =>
    cases given with
    | keyValue => cases target
    | set => cases target
    | gauge =>
      cases target
      exact answers_ok ⟨_, replaces_gauge (puts_insert _ _ _), reflects.fed_gauge.gauge_append _⟩
    | gaugeDelta =>
      cases target
      exact answers_ok ⟨_, replaces_gauge (puts_alter _ _ _), reflects.fed_gauge.gauge_append _⟩
    | counter =>
      cases target
      exact answers_ok
        ⟨_, replaces_counter (puts_alter _ _ _), reflects.fed_counter.counter_append rfl⟩
    | timer =>
      cases target
      have given : (Request.sample .timer name value).value? = some value := rfl
      obtain ⟨entry, ready, before⟩ := reflects.fed_timerFor sound served
      obtain ⟨changed, added, after⟩ := before.timer_append given
      exact ⟨_, outcome_addDuration ready added, _, replaces_timer (puts_erase_insert _ _ _), after⟩

/-- A request for an aggregate leaves every other one as it is. -/
theorem replace {changed : Registry} {metric : Metric}
    (target : request.target? = some (kind, name))
    (replaces : Replaces kind name metric registry changed)
    (fed : Fed hasher parameters name (calls kind name requests ++ [request]) metric) :
    Reflects hasher parameters (requests ++ [request]) changed where
  unchanged := replaces.unchanged.trans reflects.unchanged
  keyValues := by
    have unpaired : request.keyValue? = none := by
      cases request with
      | member called key => rfl
      | sample given called value => cases given <;> first | rfl | cases target
    rw [replaces.keyValues, reflects.keyValues]
    simp [unpaired]
  aggregates other called := by
    rw [replaces.aggregates]
    by_cases same : (kind, name) = (other, called)
    · cases same
      rw [if_pos rfl, calls_append_of_target target]
      exact .used (by simp) fed
    · have apart : request.target? ≠ some (other, called) := by
        rw [target]
        exact fun equal => same (Option.some.inj equal)
      rw [if_neg same, calls_append_of_ne apart]
      exact reflects.aggregates other called

/-- What a registry holds after one more request that is served. A pair is kept as it comes, and a
refused number changes nothing. -/
theorem after_of_served (sound : parameters.Sound)
    (served : request.isServed parameters.binnings) :
    Reflects hasher parameters (requests ++ [request]) (registry.after hasher request) := by
  cases target : request.target? with
  | some called =>
    obtain ⟨changed, performed, metric, replaces, fed⟩ := reflects.perform sound served target
    rw [Registry.after, performed]
    exact reflects.replace target replaces fed
  | none =>
    have uncalled (kind : Kind) (name : String) :
        calls kind name (requests ++ [request]) = calls kind name requests :=
      calls_append_of_ne (by simp [target])
    have aggregates (kind : Kind) (name : String) :
        Kept (Fed hasher parameters name (calls kind name (requests ++ [request])))
          (calls kind name (requests ++ [request])) (registry.aggregate? kind name) := by
      rw [uncalled]
      exact reflects.aggregates kind name
    cases request with
    | member called key => cases target
    | sample given called value =>
      cases given with
      | keyValue =>
        refine ⟨reflects.unchanged, ?_, aggregates⟩
        show (registry.keyValues.push (called, value)).toList = _
        rw [Array.toList_push, reflects.keyValues, List.filterMap_append]
        rfl
      | set =>
        refine ⟨reflects.unchanged, ?_, aggregates⟩
        show registry.keyValues.toList = _
        rw [reflects.keyValues, List.filterMap_append]
        exact (List.append_nil _).symm
      | _ => cases target

end Reflects

/-- Bins are numbered by machine words. -/
def Parameters.Countable (parameters : Parameters) : Prop :=
  ∀ binning ∈ parameters.binnings, binning.bins < Binning.countLimit

/-- The requests among some that are served. -/
def servedOf (binnings : List Binning) (requests : List Request) : List Request :=
  requests.filter (·.isServed binnings)

theorem isServed_of_target {binnings : List Binning}
    (target : request.target? = some (.timer, name)) :
    request.isServed binnings = (binningFor binnings name).all (·.bins < Binning.storageLimit) := by
  cases request with
  | member called key => cases target
  | sample kind called value =>
    cases kind <;> cases target
    rfl

/-- There is never a timer whose histogram could not be made, so every request for it fails at
that, and fails before the registry changes. -/
theorem Reflects.prepare_of_not_served {registry : Registry}
    (reflects : Reflects hasher parameters (servedOf parameters.binnings requests) registry)
    (sound : parameters.Sound) (countable : parameters.Countable)
    (refused : ¬request.isServed parameters.binnings) :
    ∃ name value binning, request = .sample .timer name value ∧
      binningFor parameters.binnings name = some binning ∧
      Binning.storageLimit ≤ binning.bins ∧
      registry.prepare request = .error (.storage (.oversized binning.bins)) := by
  cases request with
  | member called key => exact absurd rfl refused
  | sample kind called value =>
    cases kind with
    | timer =>
      cases found : binningFor parameters.binnings called with
      | none =>
        rw [Request.isServed, found] at refused
        exact absurd rfl refused
      | some binning =>
        have oversized : Binning.storageLimit ≤ binning.bins := by
          rw [Request.isServed, found] at refused
          simpa using refused
        refine ⟨called, value, binning, rfl, found, oversized, ?_⟩
        have uncalled : calls .timer called (servedOf parameters.binnings requests) = [] := by
          refine List.filter_eq_nil_iff.mpr fun other among target => ?_
          have served := List.of_mem_filter among
          rw [isServed_of_target (of_decide_eq_true target), found, Option.all_some,
            decide_eq_true_eq] at served
          exact absurd served (Nat.not_lt.mpr oversized)
        have absent : registry.timers[called]? = none := by
          have kept := reflects.aggregates .timer called
          rw [uncalled, aggregate?] at kept
          cases held : registry.timers[called]? with
          | none => rfl
          | some entry =>
            rw [held] at kept
            cases kept with
            | used called same => exact absurd rfl called
        have failed := sound.newHistogram_of_oversized found
          (countable binning (mem_of_binningFor found)) oversized
        rw [prepare, timerFor, absent]
        dsimp only
        rw [outcome_newTimer, reflects.unchanged, failed]
        rfl
    | _ => exact absurd rfl refused

/-- Whatever is asked of a registry, it holds what the requests that are served make of its
parameters. -/
theorem reflects_run (hasher : ByteArray → UInt64) (sound : parameters.Sound)
    (countable : parameters.Countable) (requests : List Request) :
    Reflects hasher parameters (servedOf parameters.binnings requests)
      (run hasher (blank parameters) requests) := by
  induction requests using List.reverseRecOn with
  | nil =>
    refine ⟨rfl, rfl, fun kind name => ?_⟩
    cases kind <;> exact .unused rfl
  | append_singleton requests request recursion =>
    rw [run_append_singleton, servedOf, List.filter_append]
    by_cases served : request.isServed parameters.binnings
    · rw [List.filter_cons_of_pos served]
      exact recursion.after_of_served sound served
    · obtain ⟨_, _, _, -, -, -, unprepared⟩ :=
        recursion.prepare_of_not_served sound countable served
      rw [List.filter_cons_of_neg served, List.filter_nil, List.append_nil, after,
        outcome_perform_of_prepare hasher unprepared]
      exact recursion

end Feeding

end Registry

end Telemetry
