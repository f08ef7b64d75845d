import Maze.Library.Dict
import Maze.Metrics.Totals

namespace Maze.Metrics.Global

open Maze.Python
open Maze.Library

/-!
# Metrics of all runs

The contribution of a run is computed from its latest snapshot and kept under its id, and a
report sums the contributions. The values that are reported for a model may be anything:
numbers are added to what is there, and other values replace it.
-/

/-- A value that is reported for a model. -/
inductive Metric where
  | number (value : Numeric)
  | other (value : PyVal)

namespace Metric

/-- A `bool` is not taken for a number. -/
def ofValue : PyVal → Metric
  | .int value => .number (.int value)
  | .float value => .number (.float (Double.ofFloat value))
  | value => .other value

/-- The number, if it is one. -/
def view : Metric → Option Numeric
  | .number value => some value
  | .other _ => none

/-- `old + value`. -/
def add : Metric → Numeric → Except PyErr Numeric
  | .number old, value => plus old value
  | .other (.bool old), value => plus (.int (if old then 1 else 0)) value
  | .other _, _ => .error .typeError

end Metric

/-- The metrics of models. -/
abbrev Models := List (PyStr × List (PyStr × Metric))

/-- What the value under a key becomes. -/
def cell
    (old : Option Metric) :
    Metric → Except PyErr (Option Metric)
  | .number value => do
      let sum ← (old.getD (.number (.int 0))).add value
      .ok (some (.number sum))
  | .other value => .ok (some (.other value))

/-- One value of a model. -/
def accumulateValue
    (bucket : List (PyStr × Metric))
    (entry : PyStr × Metric) :
    Except PyErr (List (PyStr × Metric)) :=
  match entry.2 with
  | .number value => do
      let sum ← ((bucket.lookup entry.1).getD (.number (.int 0))).add value
      .ok (Dict.set bucket entry.1 (.number sum))
  | .other value => .ok (Dict.set bucket entry.1 (.other value))

/-- The values of one model. -/
def accumulateModel
    (models : Models)
    (entry : PyStr × List (PyStr × Metric)) :
    Except PyErr Models := do
  let bucket ← entry.2.foldlM accumulateValue ((models.lookup entry.1).getD [])
  .ok (Dict.set models entry.1 bucket)

/-- The tokens, the cost and the metrics of models: of a task, of a run or of all runs. -/
structure Totals where
  tokensIn : Numeric
  tokensOut : Numeric
  costUsd : Numeric
  byModel : Models

namespace Totals

/-- Nothing is counted. -/
def zero : Totals where
  tokensIn := .int 0
  tokensOut := .int 0
  costUsd := .float (.finite 0)
  byModel := []

/-- One part is added. -/
def add (sum part : Totals) : Except PyErr Totals := do
  let tokensIn ← plus sum.tokensIn part.tokensIn
  let tokensOut ← plus sum.tokensOut part.tokensOut
  let costUsd ← plus sum.costUsd part.costUsd
  let byModel ← part.byModel.foldlM accumulateModel sum.byModel
  .ok { tokensIn, tokensOut, costUsd, byModel }

end Totals

/-! ## The metrics of a task -/

/-- `_add_number`. -/
def addNumber
    (old : Numeric)
    (value : Option PyVal) :
    Except PyErr Numeric :=
  match (value.map Metric.ofValue).bind Metric.view with
  | some number => plus old number
  | none => .ok old

/-- The metrics of models that are nested in the ones of a task. -/
def nestedModels (nested : List (PyStr × PyVal)) : Models :=
  nested.foldl (fun models entry =>
    match entry.2 with
    | .dict values =>
        Dict.set models entry.1 (values.map fun value => (value.1, Metric.ofValue value.2))
    | _ => models) []

/-- The metrics of the model that a task names. -/
def namedModel
    (entries : List (PyStr × PyVal))
    (tokensIn tokensOut costUsd : Numeric) : Models :=
  match entries.lookup ("model" : PyStr) with
  | some (.str model) =>
      if model.isEmpty then []
      else [(model, [("tokens_in", .number tokensIn), ("tokens_out", .number tokensOut),
        ("cost_usd", .number costUsd), ("calls", .number (.int 1))])]
  | _ => []

/-- The metrics of models of a task. -/
def taskModels
    (entries : List (PyStr × PyVal))
    (tokensIn tokensOut costUsd : Numeric) : Models :=
  match entries.lookup ("by_model" : PyStr) with
  | some (.dict (first :: rest)) => nestedModels (first :: rest)
  | _ => namedModel entries tokensIn tokensOut costUsd

/-- `_task_metrics_contribution`. -/
def taskMetricsContribution : PyVal → Except PyErr Totals
  | .dict entries => do
      let tokensIn ← addNumber (.int 0) (entries.lookup ("tokens_in" : PyStr))
      let tokensOut ← addNumber (.int 0) (entries.lookup ("tokens_out" : PyStr))
      let costUsd ← addNumber (.float (.finite 0)) (entries.lookup ("cost_usd" : PyStr))
      .ok { tokensIn, tokensOut, costUsd,
            byModel := taskModels entries tokensIn tokensOut costUsd }
  | _ => .ok Totals.zero

/-! ## The contribution of a run -/

/-- A task in the snapshot of a run. -/
structure Task where
  /-- `str(status or "")`. -/
  status : PyStr
  metrics : PyVal

/-- The snapshot of a run. -/
structure Snapshot where
  runId : Identifier
  /-- The id of the workflow; it is empty if there is none. -/
  workflowId : PyStr
  /-- `str(status or "submitted")`. -/
  status : PyStr
  taskNodes : List (PyStr × Task)

/-- `TASK_STATUS_TEMPLATE`. -/
def taskStatusTemplate : List (PyStr × ℕ) :=
  [("running", 0), ("succeeded", 0), ("failed", 0), ("canceled", 0), ("timed_out", 0)]

/-- `TERMINAL_TASK_STATUSES`. -/
def terminalTaskStatuses : List PyStr :=
  ["succeeded", "failed", "canceled", "timed_out"]

/-- `RUN_STATUS_TEMPLATE`. -/
def runStatusTemplate : List (PyStr × ℕ) :=
  [("submitted", 0), ("running", 0), ("succeeded", 0), ("failed", 0), ("canceled", 0),
    ("interrupted", 0), ("timed_out", 0)]

/-- `_task_status`. -/
def taskStatus (status : PyStr) : PyStr :=
  if status = "cancelled" then "canceled" else status

/-- `_run_status`. -/
def runStatus (status : PyStr) : PyStr :=
  if status = "created" ∨ status = "submitted" then "submitted"
  else if status = "cancelled" then "canceled"
  else status

/-- What a run contributes. -/
structure Contribution where
  workflowId : PyStr
  status : PyStr
  tasksTotalFinished : ℕ
  tasksByStatus : List (PyStr × ℕ)
  totals : Totals

/-- `task_statuses[status] += 1`, if the status is one of them. -/
def countStatus
    (counts : List (PyStr × ℕ))
    (task : Task) : List (PyStr × ℕ) :=
  Dict.modify counts (taskStatus task.status) (· + 1)

/-- One task of the run. -/
def addTask
    (totals : Totals)
    (task : Task) :
    Except PyErr Totals := do
  let metrics ← taskMetricsContribution task.metrics
  totals.add metrics

/-- `_run_contribution`. -/
def runContribution (snapshot : Snapshot) : Except PyErr Contribution := do
  let tasks := snapshot.taskNodes.map Prod.snd
  let totals ← tasks.foldlM addTask Totals.zero
  .ok {
    workflowId := snapshot.workflowId
    status := runStatus snapshot.status
    tasksTotalFinished := tasks.countP fun task => taskStatus task.status ∈ terminalTaskStatuses
    tasksByStatus := tasks.foldl countStatus taskStatusTemplate
    totals := totals
  }

/-! ## The metrics of all runs -/

/-- `GlobalMetrics`. -/
structure GlobalMetrics where
  workflowIds : List PyStr
  runs : List (PyStr × Contribution)

/-- No run is known. -/
def GlobalMetrics.empty : GlobalMetrics := ⟨[], []⟩

/-- `self._workflow_ids.add(...)`, if there is an id. -/
def addWorkflow
    (workflowIds : List PyStr)
    (workflowId : PyStr) : List PyStr :=
  if workflowId.isEmpty then workflowIds else workflowIds.insert workflowId

/-- `sync_run`. -/
def syncRun
    (metrics : GlobalMetrics)
    (snapshot : Snapshot) :
    Except PyErr GlobalMetrics := do
  let contribution ← runContribution snapshot
  .ok {
    workflowIds := addWorkflow metrics.workflowIds contribution.workflowId
    runs := Dict.set metrics.runs snapshot.runId.val contribution
  }

/-- `rebuild`: what is there is replaced, apart from the workflows. -/
def rebuild
    (metrics : GlobalMetrics)
    (snapshots : List Snapshot) :
    Except PyErr GlobalMetrics :=
  snapshots.foldlM syncRun { metrics with runs := [] }

/-- `counts[status] = counts.get(status, 0) + count`. -/
def tally
    (counts : List (PyStr × ℕ))
    (entry : PyStr × ℕ) : List (PyStr × ℕ) :=
  Dict.set counts entry.1 ((counts.lookup entry.1).getD 0 + entry.2)

/-- What is reported. -/
structure Report where
  workflowsCreated : ℕ
  runsTotal : ℕ
  runsByStatus : List (PyStr × ℕ)
  tasksTotalFinished : ℕ
  tasksByStatus : List (PyStr × ℕ)
  tokensIn : Numeric
  tokensOut : Numeric
  costUsd : Numeric
  byModel : Models

/-- `round(cost_usd, 6)`, exactly. -/
def roundCost : Numeric → Numeric
  | .float (.finite value) =>
      .float (.finite (Double.roundHalfEven (value * 10 ^ 6) / 10 ^ 6))
  | value => value

/-- `snapshot`. -/
def report (metrics : GlobalMetrics) : Except PyErr Report := do
  let contributions := metrics.runs.map Prod.snd
  let totals ← contributions.foldlM (fun sum part => sum.add part.totals) Totals.zero
  .ok {
    workflowsCreated := metrics.workflowIds.length
    runsTotal := contributions.length
    runsByStatus := (contributions.map fun part => (part.status, 1)).foldl tally
      runStatusTemplate
    tasksTotalFinished := (contributions.map Contribution.tasksTotalFinished).sum
    tasksByStatus := (contributions.flatMap Contribution.tasksByStatus).foldl tally
      taskStatusTemplate
    tokensIn := totals.tokensIn
    tokensOut := totals.tokensOut
    costUsd := roundCost totals.costUsd
    byModel := totals.byModel
  }

/-! ## Columns -/

/-- What values are summed under. -/
inductive Column where
  | tokensIn
  | tokensOut
  | costUsd
  | model (name key : PyStr)

/-- The values of a model under a key. -/
def valueItems
    (values : List (PyStr × Metric))
    (key : PyStr) : List Metric :=
  values.flatMap fun entry => if entry.1 = key then [entry.2] else []

/-- The values of all models under a name and a key. -/
def modelItems
    (models : Models)
    (name key : PyStr) : List Metric :=
  models.flatMap fun entry => if entry.1 = name then valueItems entry.2 key else []

namespace Totals

/-- What is there in a column. -/
def look (totals : Totals) : Column → Option Metric
  | .tokensIn => some (.number totals.tokensIn)
  | .tokensOut => some (.number totals.tokensOut)
  | .costUsd => some (.number totals.costUsd)
  | .model name key => (totals.byModel.lookup name).bind fun bucket => bucket.lookup key

/-- What is added to a column. -/
def items (totals : Totals) : Column → List Metric
  | .tokensIn => [.number totals.tokensIn]
  | .tokensOut => [.number totals.tokensOut]
  | .costUsd => [.number totals.costUsd]
  | .model name key => modelItems totals.byModel name key

end Totals

theorem foldlM_singleton
    (old : Option Metric)
    (value : Metric) :
    [value].foldlM cell old = cell old value := by
  rw [List.foldlM_cons]
  exact bind_pure (cell old value)

/-- A value changes what is under its key as its column says. -/
theorem accumulateValue_spec
    {bucket : List (PyStr × Metric)}
    {entry : PyStr × Metric}
    {result : Option Metric}
    (ran : cell (bucket.lookup entry.1) entry.2 = .ok result) :
    ∃ value, result = some value ∧
      accumulateValue bucket entry = .ok (Dict.set bucket entry.1 value) := by
  obtain ⟨key, value⟩ := entry
  cases value with
  | number value =>
      obtain ⟨sum, added, same⟩ := bind_eq_ok.mp ran
      cases same
      exact ⟨_, rfl, bind_eq_ok.mpr ⟨sum, added, rfl⟩⟩
  | other value =>
      cases ran
      exact ⟨_, rfl, rfl⟩

/-- The values of a model change what is under their keys. -/
theorem accumulateValues_spec
    {bucket values : List (PyStr × Metric)}
    (runs : ∀ key, ∃ result,
      (valueItems values key).foldlM cell (bucket.lookup key) = .ok result) :
    ∃ next, values.foldlM accumulateValue bucket = .ok next ∧
      ∀ key, (valueItems values key).foldlM cell (bucket.lookup key) =
        .ok (next.lookup key) := by
  refine Dict.foldlM_columns (fun bucket key => bucket.lookup key)
    (fun (entry : PyStr × Metric) key => if entry.1 = key then [entry.2] else []) cell
    (fun bucket entry _ runs => ?_) bucket runs
  have here := runs entry.1
  rw [if_pos rfl] at here
  simp only [foldlM_singleton] at here
  obtain ⟨result, ran⟩ := here
  obtain ⟨value, rfl, accumulated⟩ := accumulateValue_spec ran
  refine ⟨_, accumulated, fun key => ?_⟩
  rw [Dict.lookup_set]
  by_cases same : key = entry.1
  · subst same
    rw [if_pos rfl, if_pos rfl, foldlM_singleton, ran]
  · rw [if_neg fun back => same back.symm, if_neg same]
    rfl

/-- A model changes what is under its name and the keys. -/
theorem accumulateModel_spec
    {models : Models}
    {entry : PyStr × List (PyStr × Metric)}
    (runs : ∀ key, ∃ result,
      (valueItems entry.2 key).foldlM cell
        ((models.lookup entry.1).bind fun bucket => bucket.lookup key) = .ok result) :
    ∃ bucket, accumulateModel models entry = .ok (Dict.set models entry.1 bucket) ∧
      ∀ key, (valueItems entry.2 key).foldlM cell
        ((models.lookup entry.1).bind fun bucket => bucket.lookup key) =
          .ok (bucket.lookup key) := by
  have found (key : PyStr) : ((models.lookup entry.1).bind fun bucket => bucket.lookup key) =
      ((models.lookup entry.1).getD []).lookup key := by
    cases models.lookup entry.1 <;> rfl
  simp only [found] at runs ⊢
  obtain ⟨bucket, accumulated, keys⟩ := accumulateValues_spec runs
  exact ⟨bucket, bind_eq_ok.mpr ⟨bucket, accumulated, rfl⟩, keys⟩

/-- Models change what is under their names and the keys. -/
theorem accumulateModels_spec
    {models parts : Models}
    (runs : ∀ name key, ∃ result,
      (modelItems parts name key).foldlM cell
        ((models.lookup name).bind fun bucket => bucket.lookup key) = .ok result) :
    ∃ next, parts.foldlM accumulateModel models = .ok next ∧
      ∀ name key, (modelItems parts name key).foldlM cell
        ((models.lookup name).bind fun bucket => bucket.lookup key) =
          .ok ((next.lookup name).bind fun bucket => bucket.lookup key) := by
  let look (models : Models) (column : PyStr × PyStr) : Option Metric :=
    (models.lookup column.1).bind fun bucket => bucket.lookup column.2
  let items (entry : PyStr × List (PyStr × Metric)) (column : PyStr × PyStr) : List Metric :=
    if entry.1 = column.1 then valueItems entry.2 column.2 else []
  suffices columns : _ by
    obtain ⟨next, accumulated, found⟩ := Dict.foldlM_columns look items cell
      columns models fun column => runs column.1 column.2
    exact ⟨next, accumulated, fun name key => found (name, key)⟩
  · intro models entry _ runs
    have here (key : PyStr) := runs (entry.1, key)
    simp only [items, look, if_pos] at here
    obtain ⟨bucket, accumulated, keys⟩ := accumulateModel_spec here
    refine ⟨_, accumulated, fun column => ?_⟩
    simp only [items, look, Dict.lookup_set]
    by_cases same : column.1 = entry.1
    · rw [if_pos same.symm, if_pos same, same]
      exact keys column.2
    · rw [if_neg fun back => same back.symm, if_neg same]
      rfl

/-- A part changes every column by its items. -/
theorem Totals.add_spec
    {sum part : Totals}
    (runs : ∀ column, ∃ result,
      (part.items column).foldlM cell (sum.look column) = .ok result) :
    ∃ next, sum.add part = .ok next ∧
      ∀ column, (part.items column).foldlM cell (sum.look column) = .ok (next.look column) := by
  have number {first second : Numeric}
      (ran : ∃ result, [Metric.number second].foldlM cell (some (.number first)) = .ok result) :
      ∃ third, plus first second = .ok third ∧
        [Metric.number second].foldlM cell (some (.number first)) =
          .ok (some (.number third)) := by
    obtain ⟨result, ran⟩ := ran
    rw [foldlM_singleton] at ran ⊢
    obtain ⟨third, added, same⟩ := bind_eq_ok.mp ran
    cases same
    exact ⟨third, added, ran⟩
  obtain ⟨tokensIn, addIn, columnIn⟩ := number (runs .tokensIn)
  obtain ⟨tokensOut, addOut, columnOut⟩ := number (runs .tokensOut)
  obtain ⟨costUsd, addCost, columnCost⟩ := number (runs .costUsd)
  obtain ⟨byModel, addModels, columnModels⟩ :=
    accumulateModels_spec fun name key => runs (.model name key)
  refine ⟨{ tokensIn, tokensOut, costUsd, byModel }, ?_, fun column => ?_⟩
  · exact bind_eq_ok.mpr ⟨tokensIn, addIn, bind_eq_ok.mpr ⟨tokensOut, addOut,
      bind_eq_ok.mpr ⟨costUsd, addCost, bind_eq_ok.mpr ⟨byModel, addModels, rfl⟩⟩⟩⟩
  · cases column with
    | tokensIn => exact columnIn
    | tokensOut => exact columnOut
    | costUsd => exact columnCost
    | model name key => exact columnModels name key

/-! ## Columns of numbers -/

/-- What a column starts with. -/
def Column.start : Column → Option Numeric
  | .tokensIn => some (.int 0)
  | .tokensOut => some (.int 0)
  | .costUsd => some (.float (.finite 0))
  | .model _ _ => none

/-- The numbers that are added up in a column. -/
def Column.summands
    (column : Column)
    (views : List (Option Numeric)) : List Numeric :=
  column.start.getD (.int 0) :: views.filterMap id

/-- All values of a column are numbers that can be added, or none is a number. -/
def Uniform
    (column : Column)
    (views : List (Option Numeric)) : Prop :=
  (∀ view ∈ views, view.isSome = true) ∧ Addable (column.summands views) ∨
    column.start = none ∧ ∀ view ∈ views, view = none

/-- What the numbers of a column sum to; there is no sum where the values are none. -/
def columnTotal
    (column : Column)
    (views : List (Option Numeric)) : Option Numeric :=
  if views.all Option.isSome then
    if views.isEmpty then column.start else some (total (column.summands views))
  else none

theorem columnTotal_perm
    (column : Column)
    {first second : List (Option Numeric)}
    (same : first.Perm second) :
    columnTotal column first = columnTotal column second := by
  unfold columnTotal Column.summands
  rw [same.all_eq, same.isEmpty_eq, total_perm ((same.filterMap id).cons _)]

/-- Numbers in a column are summed. -/
theorem foldlM_cell_numbers
    {before : List Numeric}
    {old : Option Metric}
    {values : List Metric}
    (there : (old.getD (.number (.int 0))).view = some (total before))
    (addable : Addable (before ++ (values.map Metric.view).filterMap id))
    (numbers : ∀ value ∈ values, value.view.isSome = true) :
    ∃ result, values.foldlM cell old = .ok result ∧
      result.bind Metric.view = if values.isEmpty then old.bind Metric.view
        else some (total (before ++ (values.map Metric.view).filterMap id)) := by
  induction values generalizing before old with
  | nil =>
      exact ⟨old, rfl, rfl⟩
  | cons value rest inductionHypothesis =>
      obtain ⟨here, later⟩ := List.forall_mem_cons.mp numbers
      cases value with
      | other value => cases here
      | number value =>
          have moved : before ++ ((Metric.number value :: rest).map Metric.view).filterMap id =
              before ++ [value] ++ (rest.map Metric.view).filterMap id := by
            simp [Metric.view]
          rw [moved] at addable ⊢
          have added := plus_total addable.left
          obtain ⟨oldValue, isOld⟩ : ∃ number, old.getD (.number (.int 0)) = .number number := by
            cases same : old.getD (.number (.int 0)) with
            | number number => exact ⟨number, rfl⟩
            | other value =>
                rw [same] at there
                cases there
          rw [isOld] at there
          cases there
          have stepped : cell old (.number value) =
              .ok (some (.number (total (before ++ [value])))) := by
            simp only [cell, isOld]
            exact bind_eq_ok.mpr ⟨_, added, rfl⟩
          obtain ⟨result, ran, sums⟩ := @inductionHypothesis _
            (some (.number (total (before ++ [value])))) rfl addable later
          refine ⟨result, ?_, ?_⟩
          · rw [List.foldlM_cons, stepped]
            exact ran
          · rw [sums]
            cases rest with
            | nil => simp [Metric.view]
            | cons other rest => rfl

/-- Values that are no numbers replace each other. -/
theorem foldlM_cell_others
    (old : Option Metric)
    {values : List Metric}
    (others : ∀ value ∈ values, value.view = none) :
    ∃ result, values.foldlM cell old = .ok result ∧
      result.bind Metric.view = if values.isEmpty then old.bind Metric.view else none := by
  induction values generalizing old with
  | nil =>
      exact ⟨old, rfl, rfl⟩
  | cons value rest inductionHypothesis =>
      obtain ⟨here, later⟩ := List.forall_mem_cons.mp others
      cases value with
      | number value => cases here
      | other value =>
          obtain ⟨result, ran, kept⟩ := inductionHypothesis (some (.other value)) later
          refine ⟨result, ?_, ?_⟩
          · rw [List.foldlM_cons]
            exact ran
          · rw [kept]
            cases rest <;> rfl

/-- Nothing is taken out of a column. -/
theorem foldlM_cell_none
    {old : Option Metric}
    {values : List Metric}
    (ran : values.foldlM cell old = .ok none) :
    old = none ∧ values = [] := by
  induction values generalizing old with
  | nil =>
      cases ran
      exact ⟨rfl, rfl⟩
  | cons value rest inductionHypothesis =>
      rw [List.foldlM_cons] at ran
      obtain ⟨middle, stepped, ran⟩ := bind_eq_ok.mp ran
      obtain ⟨rfl, _⟩ := inductionHypothesis ran
      cases value with
      | number value =>
          obtain ⟨sum, _, same⟩ := bind_eq_ok.mp stepped
          cases same
      | other value => cases stepped

/-- A uniform column is run through, and its numbers are summed. -/
theorem foldlM_cell
    {column : Column}
    {values : List Metric}
    (uniform : Uniform column (values.map Metric.view)) :
    ∃ result, values.foldlM cell (Totals.zero.look column) = .ok result ∧
      result.bind Metric.view = columnTotal column (values.map Metric.view) ∧
      (result = none ↔ column.start = none ∧ values = []) := by
  have start : (Totals.zero.look column).bind Metric.view = column.start := by
    cases column <;> rfl
  have absent {result : Option Metric}
      (ran : values.foldlM cell (Totals.zero.look column) = .ok result) :
      result = none ↔ column.start = none ∧ values = [] := by
    constructor
    · rintro rfl
      obtain ⟨here, empty⟩ := foldlM_cell_none ran
      rw [here] at start
      exact ⟨start.symm, empty⟩
    · rintro ⟨noStart, rfl⟩
      cases ran
      cases column with
      | model name key => rfl
      | _ => cases noStart
  rcases uniform with ⟨numbers, addable⟩ | ⟨noStart, others⟩
  · have there : ((Totals.zero.look column).getD (.number (.int 0))).view =
        some (total [column.start.getD (.int 0)]) := by
      cases column <;> simp [Totals.look, Totals.zero, Metric.view, Column.start, total, int?,
        exactSum, exactAdd, exactValue]
    obtain ⟨result, ran, sums⟩ := foldlM_cell_numbers there addable
      fun value inside => numbers _ (List.mem_map_of_mem inside)
    refine ⟨result, ran, ?_, absent ran⟩
    rw [sums, start, columnTotal, if_pos (List.all_eq_true.mpr numbers), List.isEmpty_map]
    rfl
  · obtain ⟨result, ran, kept⟩ := foldlM_cell_others (Totals.zero.look column)
      fun value inside => others _ (List.mem_map_of_mem inside)
    refine ⟨result, ran, ?_, absent ran⟩
    rw [kept, start, columnTotal, noStart]
    cases values with
    | nil => rfl
    | cons value rest =>
        have here := others _ List.mem_cons_self
        rw [List.map_cons, here]
        rfl

/-- Parts whose columns are uniform are added, and their columns are summed. -/
theorem foldlM_add
    {parts : List Totals}
    (uniform : ∀ column,
      Uniform column ((parts.flatMap fun part => part.items column).map Metric.view)) :
    ∃ sum, parts.foldlM Totals.add Totals.zero = .ok sum ∧
      ∀ column, (sum.look column).bind Metric.view =
          columnTotal column ((parts.flatMap fun part => part.items column).map Metric.view) ∧
        (sum.look column = none ↔ column.start = none ∧
          (parts.flatMap fun part => part.items column) = []) := by
  obtain ⟨sum, added, columns⟩ := Dict.foldlM_columns Totals.look Totals.items cell
    (fun sum part _ runs => Totals.add_spec runs) Totals.zero fun column => by
      obtain ⟨result, ran, _⟩ := foldlM_cell (uniform column)
      exact ⟨result, ran⟩
  refine ⟨sum, added, fun column => ?_⟩
  obtain ⟨result, ran, sums, absent⟩ := foldlM_cell (uniform column)
  have same := (columns column).symm.trans ran
  cases same
  exact ⟨sums, absent⟩

/-! ## What is kept of models -/

/-- No model and no key has two entries. -/
structure Distinct (models : Models) : Prop where
  names : (models.map Prod.fst).Nodup
  keys : ∀ name bucket, models.lookup name = some bucket → (bucket.map Prod.fst).Nodup

theorem nodup_accumulateValues
    {bucket values next : List (PyStr × Metric)}
    (distinct : (bucket.map Prod.fst).Nodup)
    (accumulated : values.foldlM accumulateValue bucket = .ok next) :
    (next.map Prod.fst).Nodup := by
  induction values generalizing bucket with
  | nil =>
      cases accumulated
      exact distinct
  | cons entry rest inductionHypothesis =>
      rw [List.foldlM_cons] at accumulated
      obtain ⟨middle, stepped, accumulated⟩ := bind_eq_ok.mp accumulated
      refine inductionHypothesis ?_ accumulated
      unfold accumulateValue at stepped
      split at stepped
      · obtain ⟨sum, _, same⟩ := bind_eq_ok.mp stepped
        cases same
        exact Dict.nodup_set _ _ distinct
      · cases stepped
        exact Dict.nodup_set _ _ distinct

theorem Distinct.accumulateModels
    {models parts next : Models}
    (distinct : Distinct models)
    (accumulated : parts.foldlM accumulateModel models = .ok next) :
    Distinct next := by
  induction parts generalizing models with
  | nil =>
      cases accumulated
      exact distinct
  | cons entry rest inductionHypothesis =>
      rw [List.foldlM_cons] at accumulated
      obtain ⟨middle, stepped, accumulated⟩ := bind_eq_ok.mp accumulated
      refine inductionHypothesis ?_ accumulated
      obtain ⟨bucket, values, same⟩ := bind_eq_ok.mp stepped
      cases same
      have old : (((models.lookup entry.1).getD []).map Prod.fst).Nodup := by
        cases found : models.lookup entry.1 with
        | none => exact List.nodup_nil
        | some bucket => exact distinct.keys _ _ found
      refine ⟨Dict.nodup_set _ _ distinct.names, fun name other found => ?_⟩
      rw [Dict.lookup_set] at found
      split at found
      · cases found
        exact nodup_accumulateValues old values
      · exact distinct.keys name other found

theorem Distinct.foldlM_add
    {parts : List Totals}
    {sum next : Totals}
    (distinct : Distinct sum.byModel)
    (added : parts.foldlM Totals.add sum = .ok next) :
    Distinct next.byModel := by
  induction parts generalizing sum with
  | nil =>
      cases added
      exact distinct
  | cons part rest inductionHypothesis =>
      rw [List.foldlM_cons] at added
      obtain ⟨middle, stepped, added⟩ := bind_eq_ok.mp added
      refine inductionHypothesis ?_ added
      obtain ⟨tokensIn, _, stepped⟩ := bind_eq_ok.mp stepped
      obtain ⟨tokensOut, _, stepped⟩ := bind_eq_ok.mp stepped
      obtain ⟨costUsd, _, stepped⟩ := bind_eq_ok.mp stepped
      obtain ⟨byModel, accumulated, same⟩ := bind_eq_ok.mp stepped
      cases same
      exact distinct.accumulateModels accumulated

/-- What is kept is handed on once. -/
theorem Totals.items_of_distinct
    {totals : Totals}
    (distinct : Distinct totals.byModel)
    (column : Column) :
    totals.items column = (totals.look column).toList := by
  cases column with
  | model name key =>
      change modelItems totals.byModel name key =
        ((totals.byModel.lookup name).bind fun bucket => bucket.lookup key).toList
      unfold modelItems valueItems
      rw [Dict.flatMap_of_lookup distinct.names name fun values =>
        values.flatMap fun entry => if entry.1 = key then [entry.2] else []]
      cases found : totals.byModel.lookup name with
      | none => rfl
      | some bucket =>
          simp only [Option.map_some, Option.getD_some, Option.bind_some]
          rw [Dict.flatMap_of_lookup (distinct.keys name bucket found) key fun value => [value]]
          cases bucket.lookup key <;> rfl
  | _ => rfl

/-! ## The contribution of a run -/

/-- The number, if the value is there and one. -/
def numberOf (value : Option PyVal) : Option Numeric :=
  (value.map Metric.ofValue).bind Metric.view

/-- What a task contributes, where its cost can be converted. -/
def taskTotals : PyVal → Totals
  | .dict entries =>
      let tokensIn := (numberOf (entries.lookup ("tokens_in" : PyStr))).getD (.int 0)
      let tokensOut := (numberOf (entries.lookup ("tokens_out" : PyStr))).getD (.int 0)
      let costUsd := .float (exactValue
        ((numberOf (entries.lookup ("cost_usd" : PyStr))).getD (.int 0)))
      { tokensIn, tokensOut, costUsd,
        byModel := taskModels entries tokensIn tokensOut costUsd }
  | _ => Totals.zero

/-- The cost of a task is no `int` that is too large for a double. -/
def CostFits (metrics : PyVal) : Prop :=
  ∀ entries cost, metrics = .dict entries →
    numberOf (entries.lookup ("cost_usd" : PyStr)) = some (.int cost) → Fits cost

theorem addNumber_zero (value : Option PyVal) :
    addNumber (.int 0) value = .ok ((numberOf value).getD (.int 0)) := by
  unfold addNumber numberOf
  cases (value.map Metric.ofValue).bind Metric.view with
  | none => rfl
  | some number => exact plus_zero number

/-- A task contributes its numbers. -/
theorem taskMetricsContribution_spec
    {metrics : PyVal}
    (fits : CostFits metrics) :
    taskMetricsContribution metrics = .ok (taskTotals metrics) := by
  cases metrics with
  | dict entries =>
      have cost : addNumber (.float (.finite 0)) (entries.lookup ("cost_usd" : PyStr)) =
          .ok (.float (exactValue
            ((numberOf (entries.lookup ("cost_usd" : PyStr))).getD (.int 0)))) := by
        have small := fits entries
        unfold addNumber
        unfold numberOf at small ⊢
        cases number :
          ((entries.lookup ("cost_usd" : PyStr)).map Metric.ofValue).bind Metric.view with
        | none => simp [exactValue]
        | some number' =>
            refine plus_zeroFloat fun value same => small value rfl ?_
            cases number' with
            | float value => cases same
            | int value =>
                cases same
                exact number
      exact bind_eq_ok.mpr ⟨_, addNumber_zero _, bind_eq_ok.mpr ⟨_, addNumber_zero _,
        bind_eq_ok.mpr ⟨_, cost, rfl⟩⟩⟩
  | _ => rfl

/-- What the tasks of a run contribute. -/
def Snapshot.parts (snapshot : Snapshot) : List Totals :=
  snapshot.taskNodes.map fun node => taskTotals node.2.metrics

/-- The numbers, and the other values, that a run has in a column. -/
def Snapshot.views
    (snapshot : Snapshot)
    (column : Column) : List (Option Numeric) :=
  (snapshot.parts.flatMap fun part => part.items column).map Metric.view

/-- The columns of the run are uniform, and the costs of its tasks fit. -/
def Snapshot.Uniform (snapshot : Snapshot) : Prop :=
  (∀ node ∈ snapshot.taskNodes, CostFits node.2.metrics) ∧
    ∀ column, Global.Uniform column (snapshot.views column)

/-- What is told of a run: its counts, and in every column what its values sum to. -/
structure Summary where
  status : PyStr
  tasksTotalFinished : ℕ
  tasksByStatus : List (PyStr × ℕ)
  shown : Column → List (Option Numeric)

/-- A column without values is left out. -/
def Snapshot.summary (snapshot : Snapshot) : Summary where
  status := runStatus snapshot.status
  tasksTotalFinished := snapshot.taskNodes.countP fun node =>
    taskStatus node.2.status ∈ terminalTaskStatuses
  tasksByStatus := (snapshot.taskNodes.map Prod.snd).foldl countStatus taskStatusTemplate
  shown := fun column =>
    if column.start = none ∧ snapshot.views column = [] then []
    else [columnTotal column (snapshot.views column)]

/-- A contribution is what is told of the run. -/
structure Contribution.Tells
    (contribution : Contribution)
    (summary : Summary) : Prop where
  status : contribution.status = summary.status
  tasksTotalFinished : contribution.tasksTotalFinished = summary.tasksTotalFinished
  tasksByStatus : contribution.tasksByStatus = summary.tasksByStatus
  shown : ∀ column, (contribution.totals.items column).map Metric.view = summary.shown column

theorem distinct_zero : Distinct Totals.zero.byModel :=
  ⟨List.nodup_nil, fun _ _ found => by cases found⟩

/-- Tasks are added by what they contribute. -/
theorem foldlM_addTask
    {nodes : List (PyStr × Task)}
    (costs : ∀ node ∈ nodes, CostFits node.2.metrics)
    (sum : Totals) :
    (nodes.map Prod.snd).foldlM addTask sum =
      (nodes.map fun node => taskTotals node.2.metrics).foldlM Totals.add sum := by
  induction nodes generalizing sum with
  | nil => rfl
  | cons node rest inductionHypothesis =>
      obtain ⟨here, later⟩ := List.forall_mem_cons.mp costs
      have stepped : addTask sum node.2 = sum.add (taskTotals node.2.metrics) := by
        rw [addTask, taskMetricsContribution_spec here]
        rfl
      rw [List.map_cons, List.map_cons, List.foldlM_cons, List.foldlM_cons, stepped]
      exact bind_congr fun next => inductionHypothesis later next

/-- A run with uniform columns contributes what is told of it. -/
theorem runContribution_spec
    {snapshot : Snapshot}
    (uniform : snapshot.Uniform) :
    ∃ contribution, runContribution snapshot = .ok contribution ∧
      contribution.workflowId = snapshot.workflowId ∧ contribution.Tells snapshot.summary := by
  obtain ⟨costs, columns⟩ := uniform
  obtain ⟨totals, added, sums⟩ := foldlM_add columns
  have tasks : (snapshot.taskNodes.map Prod.snd).foldlM addTask Totals.zero = .ok totals :=
    (foldlM_addTask costs Totals.zero).trans added
  refine ⟨_, bind_eq_ok.mpr ⟨totals, tasks, rfl⟩, rfl, rfl, ?_, rfl, fun column => ?_⟩
  · simp [Snapshot.summary, List.countP_map, Function.comp_def]
  · obtain ⟨sum, absent⟩ := sums column
    change (totals.items column).map Metric.view =
      if column.start = none ∧ snapshot.views column = [] then []
      else [columnTotal column (snapshot.views column)]
    rw [Totals.items_of_distinct (distinct_zero.foldlM_add added)]
    have empty : snapshot.views column = [] ↔
        (snapshot.parts.flatMap fun part => part.items column) = [] := List.map_eq_nil_iff
    rw [← empty] at absent
    cases there : totals.look column with
    | none =>
        rw [if_pos (absent.mp there)]
        rfl
    | some value =>
        rw [if_neg fun none => by
          rw [absent.mpr none] at there
          cases there]
        rw [there] at sum
        exact congrArg (fun view => [view]) sum

end Maze.Metrics.Global
