import Maze.Metrics.Collector

namespace Maze.Scheduler.RunnerEnvelope

open Maze.Python
open Maze.Library
open Maze.Metrics

/-!
# The envelope around a result

The runner wraps what a task has returned, with the metrics that were collected while it ran
and the ones that it has returned under a reserved key. Returned metrics may be anything, and
the merge expects a `dict` or an object with `items`.
-/

variable {Object : Type} [DecidableEq Object]

/-- `TASK_ERROR_ENVELOPE`. -/
def taskErrorEnvelope : Key Object := Key.text "__maze_task_error_envelope__"

/-- `TASK_RESULT_ENVELOPE`. -/
def taskResultEnvelope : Key Object := Key.text "__maze_task_result_envelope__"

/-- `USER_METRICS_RETURN_KEY`. -/
def userMetricsReturnKey : Key Object := Key.text "__maze_metrics__"

/-! ## Merging metrics -/

/-- `value.items()`. -/
def items
    (methods : Methods Object) :
    Obj Object → Except PyErr (Entries Object)
  | .dict entries => .ok entries
  | .other object => do
      let entries ← methods.items object
      .ok entries.val
  | _ => .error .attributeError

/-- One entry is merged. -/
def mergeEntry
    (merged : Entries Object)
    (entry : Key Object × Obj Object) :
    Except PyErr (Entries Object) :=
  if entry.1 = Key.text "by_model" then
    match entry.2 with
    | .dict models => mergeModels merged models
    | _ => mergeValue merged entry
  else mergeValue merged entry

/-- What is no `dict` has to have `items`, unless it counts as false. -/
def mergeDict
    (methods : Methods Object)
    (merged : Entries Object)
    (metrics : Obj Object) :
    Except PyErr (Entries Object) := do
  let full ← metrics.truthy methods
  if full then
    let entries ← items methods metrics
    entries.foldlM mergeEntry merged
  else .ok merged

/-- `_merge_metrics`. -/
def mergeMetrics
    (methods : Methods Object)
    (dicts : List (Obj Object)) :
    Except PyErr (Entries Object) :=
  dicts.foldlM (mergeDict methods) []

/-! ## Wrapping -/

/-- What is read from the clock around the call. -/
structure Readings where
  startedAt : Double
  finishedAt : Double
  /-- `int((finished_at - started_at) * 1000)`. -/
  durationMs : ℤ

/-- `envelope.setdefault(key, value)`. -/
def setDefault
    (envelope : Entries Object)
    (key : PyStr)
    (value : Obj Object) :
    Entries Object :=
  match envelope.lookup (Key.text key) with
  | some _ => envelope
  | none => Dict.set envelope (Key.text key) value

/-- Metrics are put into the envelope if there are any. -/
def withMetrics
    (envelope merged : Entries Object) :
    Entries Object :=
  if merged.isEmpty then envelope else Dict.set envelope (Key.text "metrics") (.dict merged)

/-- The envelope of a task that has failed is kept. -/
def wrapError
    (methods : Methods Object)
    (raw : Entries Object)
    (readings : Readings)
    (reported : Entries Object) :
    Except PyErr (Entries Object) := do
  let envelope := setDefault raw "started_at" (.number (.float readings.startedAt))
  let envelope := setDefault envelope "finished_at" (.number (.float readings.finishedAt))
  let envelope := setDefault envelope "duration_ms" (.number (.int readings.durationMs))
  let carried := (envelope.lookup (Key.text "metrics")).getD .null
  let merged ← mergeMetrics methods [carried, .dict reported]
  .ok (withMetrics envelope merged)

/-- The reserved key is taken out of a `dict`: the rest, and `metrics or {}`. -/
def popMetrics
    (methods : Methods Object) :
    Obj Object → Except PyErr (Obj Object × Obj Object)
  | .dict entries =>
      match entries.lookup userMetricsReturnKey with
      | some metrics => do
          let full ← metrics.truthy methods
          .ok (.dict (Dict.erase entries userMetricsReturnKey),
            if full then metrics else .dict [])
      | none => .ok (.dict entries, .dict [])
  | value => .ok (value, .dict [])

/-- The envelope without metrics. -/
def emptyEnvelope
    (result manifest : Obj Object)
    (readings : Readings) :
    Entries Object :=
  let envelope : Entries Object :=
    [(taskResultEnvelope, .bool true),
      (Key.text "result", result),
      (Key.text "started_at", .number (.float readings.startedAt)),
      (Key.text "finished_at", .number (.float readings.finishedAt)),
      (Key.text "duration_ms", .number (.int readings.durationMs))]
  match manifest with
  | .null => envelope
  | manifest => Dict.set envelope (Key.text "file_manifest") manifest

/-- A result is wrapped, with the manifest of its files. -/
def wrapResult
    (methods : Methods Object)
    (inner manifest : Obj Object)
    (readings : Readings)
    (reported : Entries Object) :
    Except PyErr (Entries Object) := do
  let (result, userMetrics) ← popMetrics methods inner
  let merged ← mergeMetrics methods [.dict reported, userMetrics]
  .ok (withMetrics (emptyEnvelope result manifest readings) merged)

/-- `value is True`. -/
def isTrue : Option (Obj Object) → Bool
  | some (.bool true) => true
  | _ => false

/-- `_wrap_with_envelope`. -/
def wrapWithEnvelope
    (methods : Methods Object)
    (raw : Obj Object)
    (readings : Readings)
    (reported : Entries Object) :
    Except PyErr (Entries Object) :=
  match raw with
  | .dict entries =>
      if isTrue (entries.lookup taskErrorEnvelope) then
        wrapError methods entries readings reported
      else do
        let wrapped ← ((entries.lookup taskResultEnvelope).getD .null).truthy methods
        if wrapped then
          wrapResult methods ((entries.lookup (Key.text "result")).getD .null)
            ((entries.lookup (Key.text "file_manifest")).getD .null) readings reported
        else wrapResult methods (.dict entries) .null readings reported
  | raw => wrapResult methods raw .null readings reported

/-! ## What is wrapped -/

/-- A value that a task returns, without a marker of an envelope. -/
structure Returned (Object : Type) [DecidableEq Object] where
  value : Obj Object
  sound : value.Sound
  unmarked : ∀ entries, value = .dict entries →
    entries.lookup taskErrorEnvelope = none ∧ entries.lookup taskResultEnvelope = none

/-- What the runner is given: the value, or an envelope with the manifest of its files. -/
def handed
    (value : Obj Object) :
    Option (Obj Object) → Obj Object
  | none => value
  | some manifest =>
      .dict [(taskResultEnvelope, .bool true), (Key.text "result", value),
        (Key.text "file_manifest", manifest)]

/-- The value without the metrics that it carries. -/
def withoutMetrics : Obj Object → Obj Object
  | .dict entries => .dict (Dict.erase entries userMetricsReturnKey)
  | value => value

/-- An envelope around a result. -/
def Wraps
    (envelope : Entries Object)
    (result : Obj Object) : Prop :=
  envelope.lookup taskResultEnvelope = some (.bool true) ∧
    envelope.lookup (Key.text "result") = some result

/-- The entries of a `dict` that may not be there. -/
def entriesOf : Option (Obj Object) → Entries Object
  | some (.dict entries) => entries
  | _ => []

/-- A number does not meet one that it cannot be added to. -/
def ValueFits
    (old : Option (Obj Object))
    (value : Obj Object) : Prop :=
  ∀ first second, old.bind Obj.number? = some first → value.number? = some second →
    ¬first.Clash second

/-- No metric of a model clashes with the one that is there. -/
def ModelFits
    (old : Option (Obj Object))
    (value : Obj Object) : Prop :=
  ∀ metrics, value = .dict metrics → ∀ metric ∈ metrics,
    ValueFits ((entriesOf old).lookup metric.1) metric.2

/-- No metric clashes with the one that is there, of the task or of a model. -/
def EntryFits
    (old : Option (Obj Object))
    (entry : Key Object × Obj Object) : Prop :=
  if entry.1 = Key.text "by_model" then
    match entry.2 with
    | .dict models => ∀ model ∈ models, ModelFits ((entriesOf old).lookup model.1) model.2
    | _ => True
  else ValueFits old entry.2

/-- Metrics are a `dict` or have `items`, or count as false, and clash with none collected. -/
def MetricsFit
    (methods : Methods Object)
    (reported : Entries Object)
    (metrics : Obj Object) : Prop :=
  ∃ full, metrics.truthy methods = .ok full ∧
    (full = true → ∃ entries, items methods metrics = .ok entries ∧
      ∀ entry ∈ entries, EntryFits (reported.lookup entry.1) entry)

/-- The metrics that a value carries fit. -/
def CarriesFitting
    (methods : Methods Object)
    (reported : Entries Object)
    (value : Obj Object) : Prop :=
  ∀ entries metrics, value = .dict entries →
    entries.lookup userMetricsReturnKey = some metrics → MetricsFit methods reported metrics

/-! ## Merging into what is collected -/

/-- A value is merged unless two numbers clash. -/
theorem mergeValue_iff
    (target : Entries Object)
    (entry : Key Object × Obj Object) :
    (∃ next, mergeValue target entry = .ok next) ↔
      ValueFits (target.lookup entry.1) entry.2 := by
  unfold mergeValue ValueFits
  split
  · next value old number here =>
    rw [number, here]
    constructor
    · rintro ⟨next, merged⟩ first second same also
      cases same
      cases also
      obtain ⟨sum, added, _⟩ := bind_eq_ok.mp merged
      exact (Numeric.add_iff old value).mp ⟨sum, added⟩
    · intro fits
      obtain ⟨sum, added⟩ := (Numeric.add_iff old value).mpr (fits old value rfl rfl)
      exact ⟨_, bind_eq_ok.mpr ⟨sum, added, rfl⟩⟩
  · next apart =>
    refine ⟨fun _ first second same also => ?_, fun _ => ⟨_, rfl⟩⟩
    exact absurd same (apart second first also)

/-- A value is merged under its key only. -/
theorem mergeValue_frame
    {target next : Entries Object}
    {entry : Key Object × Obj Object}
    (merged : mergeValue target entry = .ok next)
    (other : Key Object)
    (differ : other ≠ entry.1) :
    next.lookup other = target.lookup other := by
  obtain ⟨value, rfl⟩ := mergeValue_spec merged
  rw [Dict.lookup_set, if_neg differ]

omit [DecidableEq Object] in
/-- The entries of the `dict` that is there, or none. -/
theorem entriesOf_of_getD
    {old : Option (Obj Object)}
    {entries : Entries Object}
    (there : old.getD (.dict []) = .dict entries) :
    entriesOf old = entries := by
  cases old with
  | none =>
      cases there
      rfl
  | some value =>
      cases there
      rfl

/-- The metrics of a model are merged if they fit the ones in the bucket. -/
theorem mergeModel_iff
    {bucket start : Entries Object}
    {entry : Key Object × Obj Object}
    (bucketed : Bucketed start)
    (same : bucket.lookup entry.1 = start.lookup entry.1)
    (sound : entry.2.Sound) :
    (∃ next, mergeModel bucket entry = .ok next) ↔
      ModelFits (start.lookup entry.1) entry.2 := by
  obtain ⟨target, there, _⟩ := bucketed.target entry.1
  unfold mergeModel ModelFits
  rw [same, entriesOf_of_getD there]
  cases here : entry.2 with
  | dict metrics =>
      rw [here] at sound
      cases sound with
      | plain noDict => exact absurd rfl (noDict metrics)
      | dict distinct values =>
          have merging := Dict.foldlM_iff Prod.fst
            (fun metric => ValueFits (target.lookup metric.1) metric.2)
            (fun _ _ _ => mergeValue_frame)
            (fun target metric _ same => same ▸ mergeValue_iff target metric) distinct
          simp only [there, Obj.dict.injEq, forall_eq']
          rw [← merging]
          constructor
          · rintro ⟨next, merged⟩
            obtain ⟨result, values, _⟩ := bind_eq_ok.mp merged
            exact ⟨result, values⟩
          · rintro ⟨result, values⟩
            exact ⟨_, bind_eq_ok.mpr ⟨result, values, rfl⟩⟩
  | _ => simp

/-- A model is merged under its name only. -/
theorem mergeModel_frame
    {bucket next : Entries Object}
    {entry : Key Object × Obj Object}
    (merged : mergeModel bucket entry = .ok next)
    (other : Key Object)
    (differ : other ≠ entry.1) :
    next.lookup other = bucket.lookup other := by
  unfold mergeModel at merged
  split at merged
  · split at merged
    · obtain ⟨result, _, stored⟩ := bind_eq_ok.mp merged
      cases stored
      rw [Dict.lookup_set, if_neg differ]
    · split at merged
      · cases merged
        rfl
      · cases merged
  · cases merged
    rfl

/-- An entry is merged if it fits what is collected. -/
theorem mergeEntry_iff
    {merged start : Entries Object}
    {entry : Key Object × Obj Object}
    (grouped : Grouped start)
    (same : merged.lookup entry.1 = start.lookup entry.1)
    (sound : entry.2.Sound) :
    (∃ next, mergeEntry merged entry = .ok next) ↔
      EntryFits (start.lookup entry.1) entry := by
  have value := same ▸ mergeValue_iff merged entry
  unfold mergeEntry EntryFits
  split
  · next named =>
    cases here : entry.2 with
    | dict models =>
        rw [here] at sound
        cases sound with
        | plain noDict => exact absurd rfl (noDict models)
        | dict distinct values =>
            obtain ⟨bucket, there, bucketed⟩ := grouped.bucket
            have merging := Dict.foldlM_iff Prod.fst
              (fun model => ModelFits (bucket.lookup model.1) model.2)
              (fun _ _ _ => mergeModel_frame)
              (fun _ model inside same => mergeModel_iff bucketed same (values model inside))
              distinct
            rw [named] at same
            simp only [mergeModels, same, there, named, entriesOf_of_getD there]
            rw [← merging]
            constructor
            · rintro ⟨next, merged⟩
              obtain ⟨result, each, _⟩ := bind_eq_ok.mp merged
              exact ⟨result, each⟩
            · rintro ⟨result, each⟩
              exact ⟨_, bind_eq_ok.mpr ⟨result, each, rfl⟩⟩
    | _ =>
        -- the models that are there are no number
        refine iff_of_true (value.mpr fun first second number _ => ?_) trivial
        rw [named] at number
        cases found : start.lookup (Key.text "by_model") with
        | none =>
            rw [found] at number
            cases number
        | some old =>
            obtain ⟨models, rfl, _⟩ := grouped.models old found
            rw [found] at number
            cases number
  · exact value

/-- An entry is merged under its key only. -/
theorem mergeEntry_frame
    {merged next : Entries Object}
    {entry : Key Object × Obj Object}
    (stepped : mergeEntry merged entry = .ok next)
    (other : Key Object)
    (differ : other ≠ entry.1) :
    next.lookup other = merged.lookup other := by
  unfold mergeEntry at stepped
  split at stepped
  · next named =>
    split at stepped
    · unfold mergeModels at stepped
      split at stepped
      · obtain ⟨result, _, stored⟩ := bind_eq_ok.mp stepped
        cases stored
        rw [Dict.lookup_set, if_neg (named ▸ differ)]
      · split at stepped
        · cases stepped
          rfl
        · cases stepped
    · exact mergeValue_frame stepped other differ
  · exact mergeValue_frame stepped other differ

/-! ## Copying what is collected -/

/-- Values that are not there are copied. -/
theorem mergeValues_copy
    {metrics : Entries Object}
    (distinct : Distinct metrics) :
    metrics.foldlM mergeValue [] = .ok metrics := by
  refine Dict.foldlM_append (fun target entry _ absent => ?_) distinct
  rw [mergeValue, Dict.lookup_of_absent absent, Dict.set_of_absent absent]
  cases entry.2.number? <;> rfl

/-- Models that are not there are copied. -/
theorem mergeModels_copy
    {models : Entries Object}
    (bucketed : Bucketed models) :
    models.foldlM mergeModel [] = .ok models := by
  refine Dict.foldlM_append (fun target entry inside absent => ?_) bucketed.distinct
  obtain ⟨metrics, same, distinct⟩ := bucketed.dicts entry.1 entry.2
    ((Dict.lookup_eq_some_iff bucketed.distinct _ _).mpr inside)
  obtain ⟨name, value⟩ := entry
  cases same
  simp only [mergeModel, Dict.lookup_of_absent absent, Option.getD_none,
    mergeValues_copy distinct, Dict.set_of_absent absent]
  rfl

/-- What is collected is copied, whatever it is. -/
theorem mergeEntries_copy
    {collected : Entries Object}
    (grouped : Grouped collected) :
    collected.foldlM mergeEntry [] = .ok collected := by
  refine Dict.foldlM_append (fun target entry inside absent => ?_) grouped.distinct
  obtain ⟨key, value⟩ := entry
  have copied : mergeValue target (key, value) = .ok (target ++ [(key, value)]) := by
    rw [mergeValue, Dict.lookup_of_absent absent, Dict.set_of_absent absent]
    cases value.number? <;> rfl
  unfold mergeEntry
  split
  · next named =>
    change key = Key.text "by_model" at named
    subst named
    obtain ⟨models, rfl, bucketed⟩ := grouped.models value
      ((Dict.lookup_eq_some_iff grouped.distinct _ _).mpr inside)
    simp only [mergeModels, Dict.lookup_of_absent absent, Option.getD_none,
      mergeModels_copy bucketed, Dict.set_of_absent absent]
    rfl
  · exact copied

/-! ## Wrapping a result -/

/-- Metrics are merged into what is collected if they fit. -/
theorem mergeMetrics_iff
    (methods : Methods Object)
    {collected : Entries Object}
    (grouped : Grouped collected)
    {metrics : Obj Object}
    (sound : metrics.Sound) :
    (∃ merged, mergeMetrics methods [.dict collected, metrics] = .ok merged) ↔
      MetricsFit methods collected metrics := by
  have copied : mergeDict methods [] (.dict collected) = .ok collected := by
    cases collected with
    | nil => rfl
    | cons entry rest => exact mergeEntries_copy grouped
  have single : mergeMetrics methods [.dict collected, metrics] =
      mergeDict methods collected metrics := by
    simp only [mergeMetrics, List.foldlM_cons, List.foldlM_nil, copied]
    exact bind_pure (mergeDict methods collected metrics)
  rw [single]
  have merging {entries : Entries Object} (listed : items methods metrics = .ok entries) :
      (∃ merged, entries.foldlM mergeEntry collected = .ok merged) ↔
        ∀ entry ∈ entries, EntryFits (collected.lookup entry.1) entry := by
    have apart : Obj.Sound (.dict entries) := by
      unfold items at listed
      split at listed
      · cases listed
        exact sound
      · obtain ⟨found, _, same⟩ := bind_eq_ok.mp listed
        cases same
        exact found.property
      · cases listed
    cases apart with
    | plain noDict => exact absurd rfl (noDict entries)
    | dict distinct values =>
        exact Dict.foldlM_iff Prod.fst (fun entry => EntryFits (collected.lookup entry.1) entry)
          (fun _ _ _ => mergeEntry_frame)
          (fun _ entry inside same => mergeEntry_iff grouped same (values entry inside)) distinct
  constructor
  · rintro ⟨merged, returned⟩
    obtain ⟨full, counts, returned⟩ := bind_eq_ok.mp returned
    refine ⟨full, counts, fun holds => ?_⟩
    rw [if_pos holds] at returned
    obtain ⟨entries, listed, returned⟩ := bind_eq_ok.mp returned
    exact ⟨entries, listed, (merging listed).mp ⟨merged, returned⟩⟩
  · rintro ⟨full, counts, fits⟩
    unfold mergeDict
    rw [counts]
    cases full with
    | false => exact ⟨collected, rfl⟩
    | true =>
        obtain ⟨entries, listed, fits⟩ := fits rfl
        obtain ⟨merged, returned⟩ := (merging listed).mpr fits
        refine ⟨merged, ?_⟩
        change (items methods metrics >>= fun entries => entries.foldlM mergeEntry collected) = _
        exact bind_eq_ok.mpr ⟨entries, listed, returned⟩

/-- Metrics that are put into an envelope leave what it says about the result. -/
theorem wraps_withMetrics
    (result manifest : Obj Object)
    (readings : Readings)
    (merged : Entries Object) :
    Wraps (withMetrics (emptyEnvelope result manifest readings) merged) result := by
  have empty : Wraps (emptyEnvelope result manifest readings) result := by
    unfold emptyEnvelope
    split <;>
      simp [Wraps, taskResultEnvelope, Dict.lookup_cons, PyStr.ofString_inj]
  unfold withMetrics
  split
  · exact empty
  · refine ⟨?_, ?_⟩
    · rw [Dict.lookup_set, if_neg (by simp [taskResultEnvelope, PyStr.ofString_inj])]
      exact empty.1
    · rw [Dict.lookup_set, if_neg (by simp [PyStr.ofString_inj])]
      exact empty.2

/-- No metrics fit anything. -/
theorem metricsFit_empty
    (methods : Methods Object)
    (collected : Entries Object) :
    MetricsFit methods collected (.dict []) :=
  ⟨false, rfl, fun full => by cases full⟩

/-- What is taken out of a value fits if the value carries what fits. -/
theorem popMetrics_iff
    (methods : Methods Object)
    (collected : Entries Object)
    (value : Obj Object) :
    (∃ carried, popMetrics methods value = .ok (withoutMetrics value, carried) ∧
      MetricsFit methods collected carried) ↔ CarriesFitting methods collected value := by
  cases value with
  | dict entries =>
      cases found : entries.lookup userMetricsReturnKey with
      | none =>
          refine iff_of_true ⟨.dict [], ?_, metricsFit_empty methods collected⟩ ?_
          · simp only [popMetrics, found, withoutMetrics, Dict.erase_of_lookup_none found]
          · intro other metrics same carried
            cases same
            rw [found] at carried
            cases carried
      | some metrics =>
          simp only [popMetrics, found, withoutMetrics]
          constructor
          · rintro ⟨carried, popped, fits⟩ _ _ same also
            cases same
            rw [found] at also
            cases also
            obtain ⟨full, counts, kept⟩ := bind_eq_ok.mp popped
            cases kept
            cases full with
            | true => exact fits
            | false => exact ⟨false, counts, fun full => by cases full⟩
          · intro fits
            obtain ⟨full, counts, _⟩ := fits entries metrics rfl found
            rw [counts]
            refine ⟨if full then metrics else .dict [], rfl, ?_⟩
            cases full with
            | true => exact fits entries metrics rfl found
            | false => exact metricsFit_empty methods collected
  | _ =>
      refine iff_of_true ⟨.dict [], rfl, metricsFit_empty methods collected⟩ ?_
      intro entries metrics same
      cases same

/-- What is left is the value without its metrics. -/
theorem popMetrics_spec
    {methods : Methods Object}
    {value result carried : Obj Object}
    (sound : value.Sound)
    (popped : popMetrics methods value = .ok (result, carried)) :
    result = withoutMetrics value ∧ carried.Sound := by
  have empty : (Obj.dict [] : Obj Object).Sound :=
    .dict List.nodup_nil fun entry inside => absurd inside List.not_mem_nil
  unfold popMetrics at popped
  split at popped
  · next entries =>
    split at popped
    · next metrics found =>
      obtain ⟨full, _, kept⟩ := bind_eq_ok.mp popped
      cases kept
      refine ⟨rfl, ?_⟩
      cases full with
      | false => exact empty
      | true =>
          cases sound with
          | plain noDict => exact absurd rfl (noDict entries)
          | dict distinct values =>
              exact values _ ((Dict.lookup_eq_some_iff distinct _ _).mp found)
    · next found =>
      cases popped
      exact ⟨congrArg Obj.dict (Dict.erase_of_lookup_none found).symm, empty⟩
  · next noDict =>
    cases popped
    refine ⟨?_, empty⟩
    unfold withoutMetrics
    split
    · exact absurd rfl (noDict _)
    · rfl

/-- What is returned is wrapped if the metrics that it carries fit. -/
theorem wrapResult_iff
    (methods : Methods Object)
    {collected : Entries Object}
    (grouped : Grouped collected)
    {value : Obj Object}
    (sound : value.Sound)
    (manifest : Obj Object)
    (readings : Readings) :
    (∃ envelope, wrapResult methods value manifest readings collected = .ok envelope ∧
      Wraps envelope (withoutMetrics value)) ↔ CarriesFitting methods collected value := by
  rw [← popMetrics_iff]
  constructor
  · rintro ⟨envelope, wrapped, _⟩
    obtain ⟨⟨result, carried⟩, popped, wrapped⟩ := bind_eq_ok.mp wrapped
    obtain ⟨merged, merging, _⟩ := bind_eq_ok.mp wrapped
    obtain ⟨rfl, carriedSound⟩ := popMetrics_spec sound popped
    exact ⟨carried, popped, (mergeMetrics_iff methods grouped carriedSound).mp ⟨merged, merging⟩⟩
  · rintro ⟨carried, popped, fits⟩
    obtain ⟨_, carriedSound⟩ := popMetrics_spec sound popped
    obtain ⟨merged, merging⟩ := (mergeMetrics_iff methods grouped carriedSound).mpr fits
    refine ⟨withMetrics (emptyEnvelope (withoutMetrics value) manifest readings) merged, ?_,
      wraps_withMetrics _ _ _ _⟩
    exact bind_eq_ok.mpr ⟨_, popped, bind_eq_ok.mpr ⟨merged, merging, rfl⟩⟩

/--
`_wrap_with_envelope` wraps what a task has returned unless the metrics in it do not fit: then
it raises.
-/
theorem wrapWithEnvelope_iff
    (methods : Methods Object)
    (calls : List (Kwargs Object))
    (returned : Returned Object)
    (manifest : Option (Obj Object))
    (readings : Readings) :
    (∃ envelope,
      wrapWithEnvelope methods (handed returned.value manifest) readings
        (collected methods calls) = .ok envelope ∧
      Wraps envelope (withoutMetrics returned.value)) ↔
      CarriesFitting methods (collected methods calls) returned.value := by
  have grouped := grouped_collected methods calls
  have unwrapped : ∃ kept : Obj Object,
      wrapWithEnvelope methods (handed returned.value manifest) readings
        (collected methods calls) =
      wrapResult methods returned.value kept readings (collected methods calls) := by
    cases manifest with
    | some manifest =>
        refine ⟨manifest, ?_⟩
        simp [handed, wrapWithEnvelope, isTrue, taskErrorEnvelope, taskResultEnvelope,
          Dict.lookup_cons, PyStr.ofString_inj, Obj.truthy, Bind.bind, Except.bind]
    | none =>
        refine ⟨.null, ?_⟩
        obtain ⟨value, sound, unmarked⟩ := returned
        cases value with
        | dict entries =>
            obtain ⟨noError, noResult⟩ := unmarked entries rfl
            simp [handed, wrapWithEnvelope, isTrue, noError, noResult, Obj.truthy, Bind.bind,
              Except.bind]
        | _ => rfl
  obtain ⟨kept, same⟩ := unwrapped
  rw [same]
  exact wrapResult_iff methods grouped returned.sound kept readings

/-- A task returns a number as its metrics. -/
def returnedNumber : Returned PUnit where
  value := .dict [(userMetricsReturnKey, .number (.int 5))]
  sound := .dict (by simp) fun entry inside => by
    cases List.mem_singleton.mp inside
    exact .plain fun entries same => by cases same
  unmarked := fun entries same => by
    cases same
    simp [Dict.lookup_cons, taskErrorEnvelope, taskResultEnvelope, userMetricsReturnKey,
      PyStr.ofString_inj]

/-- No other object has a method. -/
def noMethods : Methods PUnit where
  truth := fun _ => .ok true
  items := fun _ => .error .attributeError
  plus := fun _ _ => .error .typeError

/-- Metrics that are a number make the wrapping raise. -/
theorem wrapWithEnvelope_number :
    wrapWithEnvelope noMethods returnedNumber.value ⟨.finite 1, .finite 2, 1000⟩
      (collected noMethods []) = .error .attributeError := by
  simp [returnedNumber, wrapWithEnvelope, wrapResult, popMetrics, mergeMetrics, mergeDict, items,
    isTrue, collected, taskErrorEnvelope, taskResultEnvelope, userMetricsReturnKey,
    Dict.lookup_cons, PyStr.ofString_inj, Obj.truthy, Bind.bind, Except.bind]

end Maze.Scheduler.RunnerEnvelope
