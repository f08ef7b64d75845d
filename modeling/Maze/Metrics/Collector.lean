import Maze.Library.Dict
import Maze.Library.Fallible
import Maze.Python.Numeric

namespace Maze.Metrics

open Maze.Python
open Maze.Library
open Maze.Library.Fallible

/-!
# Metrics of a task

A task reports metrics by keyword arguments, whose values may be any objects. Numbers under
the same key are added, other values replace what is there, and what is reported for a model
is grouped by the models.

`Object` stands for the objects that are none of the kinds told apart here, and for the keys
of a `dict` that are no texts.
-/

/-- A key of a `dict`. -/
inductive Key (Object : Type) where
  | text (text : PyStr)
  | other (object : Object)
  deriving DecidableEq

/-- A value. -/
inductive Obj (Object : Type) where
  | null
  | bool (value : Bool)
  | number (value : Numeric)
  | str (text : PyStr)
  | dict (entries : List (Key Object × Obj Object))
  | other (object : Object)

/-- The entries of a `dict`. -/
abbrev Entries (Object : Type) := List (Key Object × Obj Object)

/-- No `dict` in the value has a key twice. -/
inductive Obj.Sound {Object : Type} : Obj Object → Prop where
  | plain {value : Obj Object} (noDict : ∀ entries, value ≠ .dict entries) : Sound value
  | dict {entries : Entries Object}
      (distinct : (entries.map Prod.fst).Nodup)
      (values : ∀ entry ∈ entries, Sound entry.2) :
      Sound (.dict entries)

/-- What the methods of other objects do. -/
structure Methods (Object : Type) where
  /-- `bool(value)`. -/
  truth : Object → Except PyErr Bool
  /-- `value.items()`: what is iterated is listed. -/
  items : Object → Except PyErr { entries : Entries Object // Obj.Sound (.dict entries) }
  /-- `first + second` where not both are numbers. -/
  plus : Obj Object → Obj Object → Except PyErr (Obj Object)

variable {Object : Type} [DecidableEq Object]

namespace Obj

/-- `isinstance(value, (int, float))`, with the number. -/
def number? : Obj Object → Option Numeric
  | .bool value => some (.int (if value then 1 else 0))
  | .number value => some value
  | _ => none

/-- `bool(value)`. -/
def truthy (methods : Methods Object) : Obj Object → Except PyErr Bool
  | .null => .ok false
  | .bool value => .ok value
  | .number (.int value) => .ok (value ≠ 0)
  | .number (.float value) => .ok (value ≠ .finite 0)
  | .str text => .ok (!text.isEmpty)
  | .dict entries => .ok (!entries.isEmpty)
  | .other object => methods.truth object

end Obj

/-- A value under a key: a number is added to a number and replaces anything else. -/
def mergeValue
    (target : Entries Object)
    (entry : Key Object × Obj Object) :
    Except PyErr (Entries Object) :=
  match entry.2.number?, (target.lookup entry.1).bind Obj.number? with
  | some value, some old => do
      let sum ← old.add value
      .ok (Dict.set target entry.1 (.number sum))
  | _, _ => .ok (Dict.set target entry.1 entry.2)

/-- The metrics of a model are merged into the ones in the bucket. -/
def mergeModel
    (bucket : Entries Object)
    (entry : Key Object × Obj Object) :
    Except PyErr (Entries Object) :=
  match entry.2 with
  | .dict metrics =>
      match (bucket.lookup entry.1).getD (.dict []) with
      | .dict target => do
          let target ← metrics.foldlM mergeValue target
          .ok (Dict.set bucket entry.1 (.dict target))
      | _ => if metrics.isEmpty then .ok bucket else .error .attributeError
  | _ => .ok bucket

/-- The metrics of several models are merged. -/
def mergeModels
    (merged models : Entries Object) :
    Except PyErr (Entries Object) :=
  match (merged.lookup (Key.text "by_model")).getD (.dict []) with
  | .dict bucket => do
      let bucket ← models.foldlM mergeModel bucket
      .ok (Dict.set merged (Key.text "by_model") (.dict bucket))
  | _ => if models.isEmpty then .ok merged else .error .attributeError

/-! ## Reporting -/

/-- The keyword arguments of a call. -/
abbrev Kwargs (Object : Type) := List (PyStr × Obj Object)

/-- The call is at work on the data, and may raise. -/
abbrev Collecting (Object : Type) := EStateM PyErr (Entries Object)

/-- The data are replaced, unless the change raises. -/
def change
    (update : Entries Object → Except PyErr (Entries Object)) :
    Collecting Object Unit :=
  fun data =>
    match update data with
    | .ok next => .ok () next
    | .error raised => .error raised data

/-- One keyword argument, without the grouping. -/
def reportArgument (argument : PyStr × Obj Object) : Collecting Object Unit :=
  match argument.2 with
  | .null => pure ()
  | _ =>
      if argument.1 = "by_model" then pure ()
      else change fun data => mergeValue data (Key.text argument.1, argument.2)

/-- The bucket of a model that is not there. -/
def emptyBucket : Entries Object :=
  [(Key.text "tokens_in", .number (.int 0)), (Key.text "tokens_out", .number (.int 0)),
    (Key.text "cost_usd", .number (.float (.finite 0))), (Key.text "calls", .number (.int 0))]

/-- `bucket[key] = bucket.get(key, 0) + value`. -/
def addTo
    (methods : Methods Object)
    (bucket : Entries Object)
    (key : PyStr)
    (value : Obj Object) :
    Except PyErr (Entries Object) := do
  let old := (bucket.lookup (Key.text key)).getD (.number (.int 0))
  match old.number?, value.number? with
  | some first, some second => do
      let sum ← first.add second
      .ok (Dict.set bucket (Key.text key) (.number sum))
  | _, _ => do
      let sum ← methods.plus old value
      .ok (Dict.set bucket (Key.text key) sum)

/-- The bucket of a model in the data. -/
def bucketOf
    (data : Entries Object)
    (model : PyStr) :
    Entries Object :=
  match data.lookup (Key.text "by_model") with
  | some (.dict models) =>
      match models.lookup (Key.text model) with
      | some (.dict bucket) => bucket
      | _ => emptyBucket
  | _ => emptyBucket

/-- The models of the data with the bucket of one of them. -/
def withBucket
    (data : Entries Object)
    (model : PyStr)
    (bucket : Entries Object) :
    Entries Object :=
  let models :=
    match data.lookup (Key.text "by_model") with
    | some (.dict models) => models
    | _ => []
  Dict.set data (Key.text "by_model") (.dict (Dict.set models (Key.text model) (.dict bucket)))

/-- A key of the bucket of a model is added to, where the argument is a number. -/
def countArgument
    (methods : Methods Object)
    (kwargs : Kwargs Object)
    (model key : PyStr) :
    Collecting Object Unit :=
  match kwargs.lookup key with
  | some value =>
      match value.number? with
      | some _ => change fun data => do
          let bucket ← addTo methods (bucketOf data model) key value
          .ok (withBucket data model bucket)
      | none => pure ()
  | none => pure ()

/-- The call is counted for its model. -/
def countModel
    (methods : Methods Object)
    (kwargs : Kwargs Object)
    (model : PyStr) :
    Collecting Object Unit := do
  modify fun data => withBucket data model (bucketOf data model)
  countArgument methods kwargs model "tokens_in"
  countArgument methods kwargs model "tokens_out"
  countArgument methods kwargs model "cost_usd"
  change fun data => do
    let bucket ← addTo methods (bucketOf data model) "calls" (.number (.int 1))
    .ok (withBucket data model bucket)

/-- One model of a nested `by_model`, from the keys on. -/
def reportModel (entry : Key Object × Obj Object) : Collecting Object Unit :=
  match entry.2 with
  | .dict metrics => do
      change fun data => mergeModels data [(entry.1, .dict [])]
      metrics.forM fun metric =>
        change fun data => mergeModels data [(entry.1, .dict [metric])]
  | _ => pure ()

/-- The call is grouped under the model that it names. -/
def reportNamed
    (methods : Methods Object)
    (kwargs : Kwargs Object) :
    Collecting Object Unit :=
  match kwargs.lookup ("model" : PyStr) with
  | some (.str model) => if model.isEmpty then pure () else countModel methods kwargs model
  | _ => pure ()

/-- A nested `by_model` is merged. -/
def reportNested (kwargs : Kwargs Object) : Collecting Object Unit :=
  match kwargs.lookup ("by_model" : PyStr) with
  | some (.dict nested) => do
      change fun data => mergeModels data []
      nested.forM reportModel
  | _ => pure ()

/-- `_Collector.report`. -/
def report
    (methods : Methods Object)
    (kwargs : Kwargs Object) :
    Collecting Object Unit := do
  kwargs.forM reportArgument
  reportNamed methods kwargs
  reportNested kwargs

/-- The data after a call; one that raises leaves what it has done. -/
def reported
    (methods : Methods Object)
    (data : Entries Object)
    (kwargs : Kwargs Object) :
    Entries Object :=
  match report methods kwargs data with
  | .ok _ data => data
  | .error _ data => data

/-- What is collected by calls in a row. -/
def collected
    (methods : Methods Object)
    (calls : List (Kwargs Object)) :
    Entries Object :=
  calls.foldl (reported methods) []

/-! ## What is collected -/

/-- No key has two entries. -/
def Distinct (entries : Entries Object) : Prop :=
  (entries.map Prod.fst).Nodup

/-- The metrics of every model are a `dict`. -/
structure Bucketed (models : Entries Object) : Prop where
  distinct : Distinct models
  dicts : ∀ name value, models.lookup name = some value →
    ∃ metrics, value = .dict metrics ∧ Distinct metrics

/-- The metrics are grouped by models, if they are grouped. -/
structure Grouped (data : Entries Object) : Prop where
  distinct : Distinct data
  models : ∀ value, data.lookup (Key.text "by_model") = some value →
    ∃ models, value = .dict models ∧ Bucketed models

omit [DecidableEq Object] in
theorem distinct_nil : Distinct ([] : Entries Object) :=
  List.nodup_nil

theorem bucketed_nil : Bucketed ([] : Entries Object) :=
  ⟨distinct_nil, fun _ _ found => by cases found⟩

theorem grouped_nil : Grouped ([] : Entries Object) :=
  ⟨distinct_nil, fun _ found => by cases found⟩

theorem Distinct.set
    {entries : Entries Object}
    (distinct : Distinct entries)
    (key : Key Object)
    (value : Obj Object) :
    Distinct (Dict.set entries key value) :=
  Dict.nodup_set key value distinct

theorem Bucketed.set
    {models metrics : Entries Object}
    (bucketed : Bucketed models)
    (distinct : Distinct metrics)
    (name : Key Object) :
    Bucketed (Dict.set models name (.dict metrics)) := by
  refine ⟨bucketed.distinct.set name _, fun wanted value found => ?_⟩
  rw [Dict.lookup_set] at found
  split at found
  · cases found
    exact ⟨metrics, rfl, distinct⟩
  · exact bucketed.dicts wanted value found

theorem Grouped.setModels
    {data models : Entries Object}
    (grouped : Grouped data)
    (bucketed : Bucketed models) :
    Grouped (Dict.set data (Key.text "by_model") (.dict models)) := by
  refine ⟨grouped.distinct.set _ _, fun value found => ?_⟩
  rw [Dict.lookup_set, if_pos rfl] at found
  cases found
  exact ⟨models, rfl, bucketed⟩

theorem Grouped.setOther
    {data : Entries Object}
    (grouped : Grouped data)
    {key : Key Object}
    (other : key ≠ Key.text "by_model")
    (value : Obj Object) :
    Grouped (Dict.set data key value) := by
  refine ⟨grouped.distinct.set _ _, fun found here => ?_⟩
  rw [Dict.lookup_set, if_neg fun same => other same.symm] at here
  exact grouped.models found here

/-- A value is only set under its key. -/
theorem mergeValue_spec
    {target next : Entries Object}
    {entry : Key Object × Obj Object}
    (merged : mergeValue target entry = .ok next) :
    ∃ value, next = Dict.set target entry.1 value := by
  unfold mergeValue at merged
  split at merged
  · obtain ⟨sum, _, same⟩ := bind_eq_ok.mp merged
    exact ⟨_, (Except.ok.inj same).symm⟩
  · exact ⟨_, (Except.ok.inj merged).symm⟩

theorem Distinct.mergeValues
    {metrics target next : Entries Object}
    (distinct : Distinct target)
    (merged : metrics.foldlM mergeValue target = .ok next) :
    Distinct next := by
  induction metrics generalizing target with
  | nil =>
      cases merged
      exact distinct
  | cons entry rest inductionHypothesis =>
      rw [List.foldlM_cons] at merged
      obtain ⟨middle, first, merged⟩ := bind_eq_ok.mp merged
      obtain ⟨value, rfl⟩ := mergeValue_spec first
      exact inductionHypothesis (distinct.set _ _) merged

/-- The metrics of a model that are there, or none. -/
theorem Bucketed.target
    {bucket : Entries Object}
    (bucketed : Bucketed bucket)
    (name : Key Object) :
    ∃ target, (bucket.lookup name).getD (.dict []) = .dict target ∧ Distinct target := by
  cases found : bucket.lookup name with
  | none => exact ⟨[], rfl, distinct_nil⟩
  | some value =>
      obtain ⟨metrics, rfl, distinct⟩ := bucketed.dicts name value found
      exact ⟨metrics, rfl, distinct⟩

theorem Bucketed.mergeModel
    {bucket next : Entries Object}
    {entry : Key Object × Obj Object}
    (bucketed : Bucketed bucket)
    (merged : mergeModel bucket entry = .ok next) :
    Bucketed next := by
  unfold Metrics.mergeModel at merged
  split at merged
  · next metrics _ =>
    obtain ⟨target, same, distinct⟩ := bucketed.target entry.1
    simp only [same] at merged
    obtain ⟨result, values, stored⟩ := bind_eq_ok.mp merged
    cases stored
    exact bucketed.set (distinct.mergeValues values) entry.1
  · cases merged
    exact bucketed

theorem Bucketed.mergeEach
    {models bucket next : Entries Object}
    (bucketed : Bucketed bucket)
    (merged : models.foldlM Metrics.mergeModel bucket = .ok next) :
    Bucketed next := by
  induction models generalizing bucket with
  | nil =>
      cases merged
      exact bucketed
  | cons entry rest inductionHypothesis =>
      rw [List.foldlM_cons] at merged
      obtain ⟨middle, first, merged⟩ := bind_eq_ok.mp merged
      exact inductionHypothesis (bucketed.mergeModel first) merged

/-- The bucket of the models that is there, or an empty one. -/
theorem Grouped.bucket
    {data : Entries Object}
    (grouped : Grouped data) :
    ∃ bucket, (data.lookup (Key.text "by_model")).getD (.dict []) = .dict bucket ∧
      Bucketed bucket := by
  cases found : data.lookup (Key.text "by_model") with
  | none => exact ⟨[], rfl, bucketed_nil⟩
  | some value =>
      obtain ⟨models, rfl, bucketed⟩ := grouped.models value found
      exact ⟨models, rfl, bucketed⟩

theorem Grouped.mergeModels
    {data models next : Entries Object}
    (grouped : Grouped data)
    (merged : mergeModels data models = .ok next) :
    Grouped next := by
  obtain ⟨bucket, same, bucketed⟩ := grouped.bucket
  simp only [Metrics.mergeModels, same] at merged
  obtain ⟨result, each, stored⟩ := bind_eq_ok.mp merged
  cases stored
  exact grouped.setModels (bucketed.mergeEach each)

omit [DecidableEq Object] in
theorem distinct_emptyBucket : Distinct (emptyBucket : Entries Object) := by
  simp [Distinct, emptyBucket, PyStr.ofString_inj]

theorem Grouped.bucketOf
    {data : Entries Object}
    (grouped : Grouped data)
    (model : PyStr) :
    Distinct (bucketOf data model) := by
  unfold Metrics.bucketOf
  split
  · next models found =>
    obtain ⟨_, same, bucketed⟩ := grouped.models _ found
    cases same
    split
    · next bucket here =>
      obtain ⟨_, same, distinct⟩ := bucketed.dicts _ _ here
      cases same
      exact distinct
    · exact distinct_emptyBucket
  · exact distinct_emptyBucket

theorem Grouped.withBucket
    {data bucket : Entries Object}
    (grouped : Grouped data)
    (distinct : Distinct bucket)
    (model : PyStr) :
    Grouped (withBucket data model bucket) := by
  unfold Metrics.withBucket
  refine grouped.setModels (Bucketed.set ?_ distinct _)
  split
  · next models found =>
    obtain ⟨_, same, bucketed⟩ := grouped.models _ found
    cases same
    exact bucketed
  · exact bucketed_nil

theorem Distinct.addTo
    {methods : Methods Object}
    {bucket next : Entries Object}
    {key : PyStr}
    {value : Obj Object}
    (distinct : Distinct bucket)
    (added : addTo methods bucket key value = .ok next) :
    Distinct next := by
  simp only [Metrics.addTo] at added
  split at added
  · obtain ⟨sum, _, stored⟩ := bind_eq_ok.mp added
    cases stored
    exact distinct.set _ _
  · obtain ⟨sum, _, stored⟩ := bind_eq_ok.mp added
    cases stored
    exact distinct.set _ _

/-- A call keeps the data grouped, whether it returns or raises. -/
def KeepsGrouped (call : Collecting Object Unit) : Prop :=
  Ensures Grouped call (fun _ => Grouped) (fun _ => Grouped)

theorem keepsGrouped_change
    {update : Entries Object → Except PyErr (Entries Object)}
    (keeps : ∀ data next, Grouped data → update data = .ok next → Grouped next) :
    KeepsGrouped (change update) := by
  intro data grouped
  rw [change]
  cases updated : update data with
  | error raised => exact grouped
  | ok next => exact keeps data next grouped updated

omit [DecidableEq Object] in
theorem text_ne_byModel
    {name : PyStr}
    (other : ¬name = "by_model") :
    (Key.text name : Key Object) ≠ .text "by_model" := by
  intro same
  cases same
  exact other rfl

theorem keepsGrouped_reportArgument (argument : PyStr × Obj Object) :
    KeepsGrouped (reportArgument argument) := by
  unfold reportArgument
  split
  · exact ensures_pure fun _ grouped => grouped
  · refine ensures_ite (fun _ => ensures_pure fun _ grouped => grouped) fun other => ?_
    refine keepsGrouped_change fun data next grouped merged => ?_
    obtain ⟨value, rfl⟩ := mergeValue_spec merged
    exact grouped.setOther (text_ne_byModel other) value

theorem keepsGrouped_countArgument
    (methods : Methods Object)
    (kwargs : Kwargs Object)
    (model key : PyStr) :
    KeepsGrouped (countArgument methods kwargs model key) := by
  unfold countArgument
  split
  · split
    · refine keepsGrouped_change fun data next grouped counted => ?_
      obtain ⟨bucket, added, stored⟩ := bind_eq_ok.mp counted
      cases stored
      exact grouped.withBucket ((grouped.bucketOf model).addTo added) model
    · exact ensures_pure fun _ grouped => grouped
  · exact ensures_pure fun _ grouped => grouped

theorem keepsGrouped_countModel
    (methods : Methods Object)
    (kwargs : Kwargs Object)
    (model : PyStr) :
    KeepsGrouped (countModel methods kwargs model) := by
  unfold countModel
  refine ensures_via (fun _ => Grouped) (ensures_modify fun data grouped =>
    grouped.withBucket (grouped.bucketOf model) model) fun _ => ?_
  refine ensures_bind (keepsGrouped_countArgument methods kwargs model _) fun _ => ?_
  refine ensures_bind (keepsGrouped_countArgument methods kwargs model _) fun _ => ?_
  refine ensures_bind (keepsGrouped_countArgument methods kwargs model _) fun _ => ?_
  refine keepsGrouped_change fun data next grouped counted => ?_
  obtain ⟨bucket, added, stored⟩ := bind_eq_ok.mp counted
  cases stored
  exact grouped.withBucket ((grouped.bucketOf model).addTo added) model

theorem keepsGrouped_reportModel (entry : Key Object × Obj Object) :
    KeepsGrouped (reportModel entry) := by
  unfold reportModel
  split
  · next metrics _ =>
    refine ensures_via (fun _ => Grouped)
      (keepsGrouped_change fun _ _ grouped => grouped.mergeModels) fun _ => ?_
    have each (metric : Key Object × Obj Object) :
        KeepsGrouped (change fun data => mergeModels data [(entry.1, .dict [metric])]) :=
      keepsGrouped_change fun _ _ grouped => grouped.mergeModels
    exact ensures_each each metrics
  · exact ensures_pure fun _ grouped => grouped

/-- A report keeps the data grouped. -/
theorem keepsGrouped_report
    (methods : Methods Object)
    (kwargs : Kwargs Object) :
    KeepsGrouped (report methods kwargs) := by
  unfold report
  have arguments : KeepsGrouped (kwargs.forM reportArgument : Collecting Object Unit) :=
    ensures_each (fun argument => keepsGrouped_reportArgument argument) kwargs
  have named : KeepsGrouped (reportNamed methods kwargs) := by
    unfold reportNamed
    split
    · exact ensures_ite (fun _ => ensures_pure fun _ grouped => grouped)
        fun _ => keepsGrouped_countModel methods kwargs _
    · exact ensures_pure fun _ grouped => grouped
  have nested : KeepsGrouped (reportNested kwargs) := by
    unfold reportNested
    split
    · next nested _ =>
      refine ensures_via (fun _ => Grouped)
        (keepsGrouped_change fun _ _ grouped => grouped.mergeModels) fun _ => ?_
      exact ensures_each (fun entry => keepsGrouped_reportModel entry) nested
    · exact ensures_pure fun _ grouped => grouped
  exact ensures_bind arguments fun _ => ensures_bind named fun _ => nested

/-- What is collected is grouped, whatever is reported. -/
theorem grouped_collected
    (methods : Methods Object)
    (calls : List (Kwargs Object)) :
    Grouped (collected methods calls) := by
  suffices every : ∀ data : Entries Object, Grouped data →
      Grouped (calls.foldl (reported methods) data) from every [] grouped_nil
  induction calls with
  | nil => exact fun _ grouped => grouped
  | cons kwargs rest inductionHypothesis =>
      intro data grouped
      refine inductionHypothesis _ ?_
      have outcome := keepsGrouped_report methods kwargs data grouped
      unfold reported
      cases ended : report methods kwargs data with
      | ok value after =>
          rw [ended] at outcome
          exact outcome
      | error raised after =>
          rw [ended] at outcome
          exact outcome

end Maze.Metrics
