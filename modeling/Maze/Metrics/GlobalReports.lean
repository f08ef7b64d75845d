import Maze.Metrics.GlobalMetrics

namespace Maze.Metrics.Global

open Maze.Python
open Maze.Library

/-!
# Reports of all runs

What is reported is a function of what is told of the runs, whose order does not matter. After
snapshots that can be summed, a report therefore depends on the last one of every run, and
rebuilding the metrics from these gives the same report.
-/

/-! ## Reports -/

/-- What is told of the runs is reported. -/
structure Report.Tells
    (shown : Report)
    (summaries : List Summary) : Prop where
  runsTotal : shown.runsTotal = summaries.length
  runsByStatus : shown.runsByStatus =
    (summaries.map fun summary => (summary.status, 1)).foldl tally runStatusTemplate
  tasksTotalFinished : shown.tasksTotalFinished =
    (summaries.map Summary.tasksTotalFinished).sum
  tasksByStatus : shown.tasksByStatus =
    (summaries.flatMap Summary.tasksByStatus).foldl tally taskStatusTemplate
  tokensIn : some shown.tokensIn =
    columnTotal .tokensIn (summaries.flatMap fun summary => summary.shown .tokensIn)
  tokensOut : some shown.tokensOut =
    columnTotal .tokensOut (summaries.flatMap fun summary => summary.shown .tokensOut)
  costUsd : some shown.costUsd =
    (columnTotal .costUsd (summaries.flatMap fun summary => summary.shown .costUsd)).map roundCost
  byModel : ∀ name key,
    ((shown.byModel.lookup name).bind fun bucket => bucket.lookup key).bind Metric.view =
      columnTotal (.model name key)
        (summaries.flatMap fun summary => summary.shown (.model name key))

/-- The runs that are known contribute what is told of them. -/
def Known
    (runs : List (PyStr × Contribution))
    (latest : List (PyStr × Snapshot)) : Prop :=
  List.Forall₂ (fun run entry => run.1 = entry.1 ∧ run.2.Tells entry.2.summary) runs latest

/-- What is read from the contributions is what is told. -/
theorem Known.map_eq
    {runs : List (PyStr × Contribution)}
    {latest : List (PyStr × Snapshot)}
    (known : Known runs latest)
    {Part : Type}
    {read : Contribution → Part}
    {told : Summary → Part}
    (tells : ∀ contribution summary, Contribution.Tells contribution summary →
      read contribution = told summary) :
    (runs.map Prod.snd).map read = (latest.map fun entry => entry.2.summary).map told := by
  induction known with
  | nil => rfl
  | cons here _ inductionHypothesis =>
      simp only [List.map_cons]
      rw [tells _ _ here.2, inductionHypothesis]

/-- What is told of the runs is reported where the columns are uniform over the runs. -/
theorem report_spec
    {metrics : GlobalMetrics}
    {latest : List (PyStr × Snapshot)}
    (known : Known metrics.runs latest)
    (uniform : ∀ column, Uniform column
      ((latest.map fun entry => entry.2.summary).flatMap fun summary => summary.shown column)) :
    ∃ shown, report metrics = .ok shown ∧
      shown.workflowsCreated = metrics.workflowIds.length ∧
      shown.Tells (latest.map fun entry => entry.2.summary) := by
  obtain ⟨summaries, isSummaries⟩ : ∃ summaries : List Summary,
      summaries = latest.map fun entry => entry.2.summary := ⟨_, rfl⟩
  obtain ⟨contributions, isContributions⟩ : ∃ contributions : List Contribution,
      contributions = metrics.runs.map Prod.snd := ⟨_, rfl⟩
  have same {Part : Type} {read : Contribution → Part} {told : Summary → Part}
      (tells : ∀ contribution summary, Contribution.Tells contribution summary →
        read contribution = told summary) :
      contributions.map read = summaries.map told := by
    rw [isSummaries, isContributions]
    exact known.map_eq tells
  have views (column : Column) :
      (((contributions.map Contribution.totals).flatMap fun part =>
        part.items column).map Metric.view) =
        summaries.flatMap fun summary => summary.shown column := by
    rw [List.map_flatMap, List.flatMap_map, List.flatMap_def, List.flatMap_def,
      same fun _ _ tells => tells.shown column]
  rw [← isSummaries] at uniform ⊢
  obtain ⟨totals, added, sums⟩ := foldlM_add fun column => (views column).symm ▸ uniform column
  have folded : contributions.foldlM (fun sum part => sum.add part.totals) Totals.zero =
      .ok totals := by
    rw [← added, List.foldlM_map]
  have sum (column : Column) : (totals.look column).bind Metric.view =
      columnTotal column (summaries.flatMap fun summary => summary.shown column) := by
    rw [← views column]
    exact (sums column).1
  unfold report
  rw [← isContributions]
  refine ⟨_, bind_eq_ok.mpr ⟨totals, folded, rfl⟩, rfl, ?_, ?_, ?_, ?_, sum .tokensIn,
    sum .tokensOut, ?_, fun name key => sum (.model name key)⟩
  · simpa using congrArg List.length (same fun _ _ tells => tells.status)
  · exact congrArg (fun entries => entries.foldl tally runStatusTemplate)
      (same fun _ _ tells => congrArg (fun status => (status, 1)) tells.status)
  · exact congrArg List.sum (same fun _ _ tells => tells.tasksTotalFinished)
  · change (contributions.flatMap Contribution.tasksByStatus).foldl tally taskStatusTemplate = _
    rw [List.flatMap_def, List.flatMap_def, same fun _ _ tells => tells.tasksByStatus]
  · rw [← sum .costUsd]
    rfl

/-! ## Reports that agree -/

/-- The counts and the numeric totals are the same. -/
structure Agree (first second : Report) : Prop where
  workflowsCreated : first.workflowsCreated = second.workflowsCreated
  runsTotal : first.runsTotal = second.runsTotal
  runsByStatus : ∀ status, first.runsByStatus.lookup status = second.runsByStatus.lookup status
  tasksTotalFinished : first.tasksTotalFinished = second.tasksTotalFinished
  tasksByStatus : ∀ status, first.tasksByStatus.lookup status =
    second.tasksByStatus.lookup status
  tokensIn : first.tokensIn = second.tokensIn
  tokensOut : first.tokensOut = second.tokensOut
  costUsd : first.costUsd = second.costUsd
  byModel : ∀ name key,
    ((first.byModel.lookup name).bind fun bucket => bucket.lookup key).bind Metric.view =
      ((second.byModel.lookup name).bind fun bucket => bucket.lookup key).bind Metric.view

/-- A count is what is there with all that is added to it. -/
theorem lookup_tally
    (entries counts : List (PyStr × ℕ))
    (status : PyStr) :
    (entries.foldl tally counts).lookup status =
      if status ∈ entries.map Prod.fst ∨ (counts.lookup status).isSome = true then
        some ((counts.lookup status).getD 0 +
          ((entries.filter fun entry => entry.1 = status).map Prod.snd).sum)
      else none := by
  induction entries generalizing counts with
  | nil =>
      simp only [List.foldl_nil, List.map_nil, List.not_mem_nil, false_or, List.filter_nil,
        List.sum_nil, add_zero]
      cases counts.lookup status <;> rfl
  | cons entry rest inductionHypothesis =>
      rw [List.foldl_cons, inductionHypothesis, tally, Dict.lookup_set]
      by_cases here : status = entry.1
      · subst here
        simp [add_assoc]
      · have back : ¬entry.1 = status := fun same => here same.symm
        simp only [here, if_false, List.map_cons, List.mem_cons, false_or]
        rw [List.filter_cons_of_neg (by simpa using back)]

/-- The order of what is added to counts does not matter. -/
theorem lookup_tally_perm
    {first second : List (PyStr × ℕ)}
    (same : first.Perm second)
    (counts : List (PyStr × ℕ))
    (status : PyStr) :
    (first.foldl tally counts).lookup status = (second.foldl tally counts).lookup status := by
  have inside : status ∈ first.map Prod.fst ↔ status ∈ second.map Prod.fst :=
    (same.map Prod.fst).mem_iff
  rw [lookup_tally, lookup_tally, ((same.filter _).map Prod.snd).sum_eq]
  simp only [inside]

/-- What is told in another order is reported alike. -/
theorem Report.Tells.agree
    {first second : Report}
    {summaries others : List Summary}
    (tells : first.Tells summaries)
    (otherTells : second.Tells others)
    (same : summaries.Perm others)
    (workflows : first.workflowsCreated = second.workflowsCreated) :
    Agree first second := by
  have column (column : Column) :
      columnTotal column (summaries.flatMap fun summary => summary.shown column) =
        columnTotal column (others.flatMap fun summary => summary.shown column) :=
    columnTotal_perm column (same.flatMap_right _)
  constructor
  · exact workflows
  · rw [tells.runsTotal, otherTells.runsTotal, same.length_eq]
  · intro status
    rw [tells.runsByStatus, otherTells.runsByStatus]
    exact lookup_tally_perm (same.map _) _ status
  · rw [tells.tasksTotalFinished, otherTells.tasksTotalFinished, (same.map _).sum_eq]
  · intro status
    rw [tells.tasksByStatus, otherTells.tasksByStatus]
    exact lookup_tally_perm (same.flatMap_right _) _ status
  · exact Option.some.inj (by rw [tells.tokensIn, otherTells.tokensIn, column])
  · exact Option.some.inj (by rw [tells.tokensOut, otherTells.tokensOut, column])
  · exact Option.some.inj (by rw [tells.costUsd, otherTells.costUsd, column])
  · intro name key
    rw [tells.byModel, otherTells.byModel, column]

/-! ## Histories -/

/-- The snapshots that were stored at the start, and the ones that are synced then. -/
structure History where
  stored : List Snapshot
  calls : List Snapshot

namespace History

/-- The snapshots in order. -/
def snapshots (history : History) : List Snapshot :=
  history.stored ++ history.calls

/-- The metrics are rebuilt from what is stored, and the calls follow. -/
def run (history : History) : Except PyErr GlobalMetrics := do
  let metrics ← rebuild GlobalMetrics.empty history.stored
  history.calls.foldlM syncRun metrics

end History

/-- The last snapshot of every run, under its id. -/
def latestRuns
    (before : List (PyStr × Snapshot))
    (snapshots : List Snapshot) : List (PyStr × Snapshot) :=
  snapshots.foldl (fun runs snapshot => Dict.set runs snapshot.runId.val snapshot) before

/-- The last snapshots of all runs. -/
def History.latest (history : History) : List Snapshot :=
  (latestRuns [] history.snapshots).map Prod.snd

/-- The two are the same up to the order of the tasks. -/
structure SameTasks (first second : Snapshot) : Prop where
  workflowId : first.workflowId = second.workflowId
  status : first.status = second.status
  taskNodes : first.taskNodes.Perm second.taskNodes

/-- The snapshots are the same up to the order of the runs and of their tasks. -/
def SameRuns (first second : List Snapshot) : Prop :=
  ∃ middle, first.Perm middle ∧ List.Forall₂ SameTasks middle second

/--
Every snapshot is uniform, the last ones are so together, and no earlier snapshot of a run
names a workflow that no last one names.
-/
structure History.Meets (history : History) : Prop where
  single : ∀ snapshot ∈ history.snapshots, snapshot.Uniform
  together : ∀ column,
    Uniform column (history.latest.flatMap fun snapshot => snapshot.summary.shown column)
  workflows : ∀ snapshot ∈ history.snapshots, snapshot.workflowId.isEmpty = false →
    ∃ last ∈ history.latest, last.workflowId = snapshot.workflowId

/-! ## What is told does not depend on the order -/

/-- The tasks can be counted in any order. -/
instance : RightCommutative countStatus where
  right_comm := by
    intro counts first second
    simp only [countStatus, Dict.modify, List.map_map]
    refine List.map_congr_left fun entry _ => ?_
    simp only [Function.comp_apply]
    by_cases isFirst : entry.1 = taskStatus first.status
    · by_cases isSecond : entry.1 = taskStatus second.status
      · simp only [if_pos isFirst, if_pos isSecond]
      · simp only [if_pos isFirst, if_neg isSecond]
    · by_cases isSecond : entry.1 = taskStatus second.status
      · simp only [if_neg isFirst, if_pos isSecond]
      · simp only [if_neg isFirst, if_neg isSecond]

/-- Tasks in another order are told of alike. -/
theorem SameTasks.summary_eq
    {first second : Snapshot}
    (same : SameTasks first second) :
    first.summary = second.summary := by
  have views (column : Column) : (first.views column).Perm (second.views column) :=
    ((same.taskNodes.map _).flatMap_right _).map _
  have shown : first.summary.shown = second.summary.shown := by
    funext column
    have empty : first.views column = [] ↔ second.views column = [] := by
      rw [← List.length_eq_zero_iff, ← List.length_eq_zero_iff, (views column).length_eq]
    simp only [Snapshot.summary, columnTotal_perm column (views column), empty]
  have counts : first.summary.tasksByStatus = second.summary.tasksByStatus :=
    (same.taskNodes.map _).foldl_eq _
  have finished : first.summary.tasksTotalFinished = second.summary.tasksTotalFinished :=
    same.taskNodes.countP_eq _
  have status : first.summary.status = second.summary.status :=
    congrArg runStatus same.status
  rw [Summary.mk.injEq]
  exact ⟨status, finished, counts, shown⟩

theorem SameRuns.summaries_perm
    {first second : List Snapshot}
    (same : SameRuns first second) :
    (first.map Snapshot.summary).Perm (second.map Snapshot.summary) := by
  obtain ⟨middle, perm, tasks⟩ := same
  refine (perm.map _).trans (List.Perm.of_eq ?_)
  clear perm
  induction tasks with
  | nil => rfl
  | cons here _ inductionHypothesis =>
      rw [List.map_cons, List.map_cons, here.summary_eq, inductionHypothesis]

theorem SameRuns.workflowIds
    {first second : List Snapshot}
    (same : SameRuns first second)
    (workflowId : PyStr) :
    (∃ snapshot ∈ first, snapshot.workflowId = workflowId) ↔
      ∃ snapshot ∈ second, snapshot.workflowId = workflowId := by
  obtain ⟨middle, perm, tasks⟩ := same
  have mapped : (first.map Snapshot.workflowId).Perm (second.map Snapshot.workflowId) := by
    refine (perm.map _).trans (List.Perm.of_eq ?_)
    clear perm
    induction tasks with
    | nil => rfl
    | cons here _ inductionHypothesis =>
        rw [List.map_cons, List.map_cons, here.workflowId, inductionHypothesis]
  rw [← List.mem_map, ← List.mem_map]
  exact mapped.mem_iff

theorem Uniform.perm
    {column : Column}
    {first second : List (Option Numeric)}
    (uniform : Uniform column first)
    (same : first.Perm second) :
    Uniform column second := by
  rcases uniform with ⟨numbers, addable⟩ | ⟨noStart, others⟩
  · exact .inl ⟨fun view inside => numbers view (same.mem_iff.mpr inside),
      addable.perm ((same.filterMap id).cons _)⟩
  · exact .inr ⟨noStart, fun view inside => others view (same.mem_iff.mpr inside)⟩

/-! ## Syncing -/

/-- A contribution that is kept is the one of the last snapshot. -/
theorem Known.set
    {runs : List (PyStr × Contribution)}
    {last : List (PyStr × Snapshot)}
    (known : Known runs last)
    {contribution : Contribution}
    {snapshot : Snapshot}
    (tells : contribution.Tells snapshot.summary)
    (runId : PyStr) :
    Known (Dict.set runs runId contribution) (Dict.set last runId snapshot) := by
  induction known with
  | nil => exact .cons ⟨rfl, tells⟩ .nil
  | @cons run entry runs last here later inductionHypothesis =>
      obtain ⟨name, kept⟩ := run
      obtain ⟨other, shown⟩ := entry
      obtain ⟨same, told⟩ := here
      change name = other at same
      subst same
      by_cases found : name = runId
      · rw [Dict.set, Dict.set, if_pos found, if_pos found]
        exact .cons ⟨rfl, tells⟩ later
      · rw [Dict.set, Dict.set, if_neg found, if_neg found]
        exact .cons ⟨rfl, told⟩ inductionHypothesis

/-- Snapshots that are uniform are synced, and the last ones are known. -/
theorem syncs_spec
    {metrics : GlobalMetrics}
    {before : List (PyStr × Snapshot)}
    {snapshots : List Snapshot}
    (known : Known metrics.runs before)
    (uniform : ∀ snapshot ∈ snapshots, snapshot.Uniform) :
    ∃ next, snapshots.foldlM syncRun metrics = .ok next ∧
      Known next.runs (latestRuns before snapshots) ∧
      next.workflowIds = (snapshots.map Snapshot.workflowId).foldl addWorkflow
        metrics.workflowIds := by
  induction snapshots generalizing metrics before with
  | nil => exact ⟨metrics, rfl, known, rfl⟩
  | cons snapshot rest inductionHypothesis =>
      obtain ⟨here, later⟩ := List.forall_mem_cons.mp uniform
      obtain ⟨contribution, computed, workflow, tells⟩ := runContribution_spec here
      have synced : syncRun metrics snapshot = .ok ⟨addWorkflow metrics.workflowIds
          contribution.workflowId, Dict.set metrics.runs snapshot.runId.val contribution⟩ :=
        bind_eq_ok.mpr ⟨contribution, computed, rfl⟩
      obtain ⟨next, stepped, isKnown, workflows⟩ :=
        @inductionHypothesis ⟨_, _⟩ _ (known.set tells snapshot.runId.val) later
      refine ⟨next, ?_, isKnown, ?_⟩
      · rw [List.foldlM_cons, synced]
        exact stepped
      · rw [workflows, workflow]
        rfl

/-- The workflows that are known: each once. -/
theorem foldl_addWorkflow
    (added workflowIds : List PyStr) :
    (workflowIds.Nodup → (added.foldl addWorkflow workflowIds).Nodup) ∧
      ∀ workflowId, workflowId ∈ added.foldl addWorkflow workflowIds ↔
        workflowId ∈ workflowIds ∨ workflowId ∈ added ∧ workflowId.isEmpty = false := by
  induction added generalizing workflowIds with
  | nil => simp
  | cons first rest inductionHypothesis =>
      obtain ⟨nodup, mem⟩ := inductionHypothesis (addWorkflow workflowIds first)
      rw [List.foldl_cons]
      unfold addWorkflow at nodup mem ⊢
      refine ⟨fun distinct => nodup ?_, fun workflowId => (mem workflowId).trans ?_⟩
      · split
        · exact distinct
        · exact distinct.insert
      · split
        · next empty =>
          rw [List.mem_cons]
          constructor
          · rintro (known | ⟨later, full⟩)
            · exact .inl known
            · exact .inr ⟨.inr later, full⟩
          · rintro (known | ⟨rfl | later, full⟩)
            · exact .inl known
            · rw [empty] at full
              cases full
            · exact .inr ⟨later, full⟩
        · next full =>
          rw [List.mem_insert_iff, List.mem_cons]
          have isFull : first.isEmpty = false := by simpa using full
          constructor
          · rintro ((rfl | known) | ⟨later, full⟩)
            · exact .inr ⟨.inl rfl, isFull⟩
            · exact .inl known
            · exact .inr ⟨.inr later, full⟩
          · rintro (known | ⟨rfl | later, full⟩)
            · exact .inl (.inr known)
            · exact .inl (.inl rfl)
            · exact .inr ⟨later, full⟩

/-- The last snapshots stand under their ids, each once, and come from those that are given. -/
theorem latestRuns_spec
    (snapshots : List Snapshot) :
    ((latestRuns [] snapshots).map Prod.fst).Nodup ∧
      ∀ entry ∈ latestRuns [] snapshots,
        entry.1 = entry.2.runId.val ∧ entry.2 ∈ snapshots := by
  suffices every : ∀ before : List (PyStr × Snapshot), (before.map Prod.fst).Nodup →
      (∀ entry ∈ before, entry.1 = entry.2.runId.val) →
        ((latestRuns before snapshots).map Prod.fst).Nodup ∧
          ∀ entry ∈ latestRuns before snapshots,
            entry.1 = entry.2.runId.val ∧ (entry ∈ before ∨ entry.2 ∈ snapshots) by
    obtain ⟨nodup, entries⟩ := every [] List.nodup_nil fun _ inside =>
      absurd inside List.not_mem_nil
    refine ⟨nodup, fun entry inside => ?_⟩
    obtain ⟨same, none | given⟩ := entries entry inside
    · exact absurd none List.not_mem_nil
    · exact ⟨same, given⟩
  induction snapshots with
  | nil => exact fun before nodup same => ⟨nodup, fun entry inside =>
      ⟨same entry inside, .inl inside⟩⟩
  | cons snapshot rest inductionHypothesis =>
      intro before nodup same
      have nodupNext := Dict.nodup_set snapshot.runId.val snapshot nodup
      have kept : ∀ entry ∈ Dict.set before snapshot.runId.val snapshot,
          entry.1 = entry.2.runId.val ∧ (entry ∈ before ∨ entry.2 = snapshot) := by
        intro entry inside
        have found := (Dict.lookup_eq_some_iff nodupNext entry.1 entry.2).mpr inside
        rw [Dict.lookup_set] at found
        split at found
        · next here =>
          cases found
          exact ⟨here, .inr rfl⟩
        · have before := (Dict.lookup_eq_some_iff nodup entry.1 entry.2).mp found
          exact ⟨same entry before, .inl before⟩
      obtain ⟨distinct, entries⟩ :=
        inductionHypothesis _ nodupNext fun entry inside => (kept entry inside).1
      refine ⟨distinct, fun entry inside => ?_⟩
      obtain ⟨same, before | later⟩ := entries entry inside
      · obtain ⟨_, old | rfl⟩ := kept entry before
        · exact ⟨same, .inl old⟩
        · exact ⟨same, .inr List.mem_cons_self⟩
      · exact ⟨same, .inr (List.mem_cons_of_mem _ later)⟩

/-- Snapshots of runs that differ are all last ones. -/
theorem latestRuns_of_nodup
    {snapshots : List Snapshot}
    (distinct : (snapshots.map fun snapshot => snapshot.runId.val).Nodup) :
    latestRuns [] snapshots =
      snapshots.map fun snapshot => (snapshot.runId.val, snapshot) := by
  suffices every : ∀ before : List (PyStr × Snapshot),
      (before.map Prod.fst ++ snapshots.map fun snapshot => snapshot.runId.val).Nodup →
        latestRuns before snapshots =
          before ++ snapshots.map fun snapshot => (snapshot.runId.val, snapshot) by
    exact every [] distinct
  clear distinct
  induction snapshots with
  | nil => exact fun before _ => (List.append_nil before).symm
  | cons snapshot rest inductionHypothesis =>
      intro before distinct
      rw [List.map_cons] at distinct
      have absent : snapshot.runId.val ∉ before.map Prod.fst := fun inside =>
        (List.nodup_append.mp distinct).2.2 _ inside _ List.mem_cons_self rfl
      have added : latestRuns before (snapshot :: rest) =
          latestRuns (before ++ [(snapshot.runId.val, snapshot)]) rest := by
        rw [latestRuns, List.foldl_cons, Dict.set_of_absent absent]
        rfl
      rw [added, inductionHypothesis]
      · simp
      · simpa using distinct

/-- Metrics that know the same runs and workflows report alike. -/
theorem agree_of_known
    {first second : GlobalMetrics}
    {firstRuns secondRuns : List (PyStr × Snapshot)}
    (firstKnown : Known first.runs firstRuns)
    (secondKnown : Known second.runs secondRuns)
    (same : SameRuns (firstRuns.map Prod.snd) (secondRuns.map Prod.snd))
    (uniform : ∀ column, Uniform column
      ((firstRuns.map Prod.snd).flatMap fun snapshot => snapshot.summary.shown column))
    (workflows : first.workflowIds.Perm second.workflowIds) :
    ∃ shown again, report first = .ok shown ∧ report second = .ok again ∧ Agree shown again := by
  have summaries (runs : List (PyStr × Snapshot)) :
      (runs.map Prod.snd).map Snapshot.summary = runs.map fun entry => entry.2.summary := by
    rw [List.map_map]
    rfl
  have perm := same.summaries_perm
  rw [summaries, summaries] at perm
  have firstUniform (column : Column) : Uniform column
      ((firstRuns.map fun entry => entry.2.summary).flatMap fun summary =>
        summary.shown column) := by
    rw [← summaries, List.flatMap_map]
    exact uniform column
  obtain ⟨shown, reported, created, tells⟩ := report_spec firstKnown firstUniform
  obtain ⟨again, alsoReported, alsoCreated, alsoTells⟩ := report_spec secondKnown
    fun column => (firstUniform column).perm (perm.flatMap_right _)
  refine ⟨shown, again, reported, alsoReported, tells.agree alsoTells perm ?_⟩
  rw [created, alsoCreated, workflows.length_eq]

/-- A history that meets the condition is synced, and all its workflows are known once. -/
theorem History.run_spec
    {history : History}
    (single : ∀ snapshot ∈ history.snapshots, snapshot.Uniform) :
    ∃ metrics, history.run = .ok metrics ∧
      Known metrics.runs (latestRuns [] history.snapshots) ∧ metrics.workflowIds.Nodup ∧
      ∀ workflowId, workflowId ∈ metrics.workflowIds ↔
        (∃ snapshot ∈ history.snapshots, snapshot.workflowId = workflowId) ∧
          workflowId.isEmpty = false := by
  obtain ⟨metrics, ran, known, workflows⟩ :=
    @syncs_spec GlobalMetrics.empty [] history.snapshots .nil single
  obtain ⟨nodup, mem⟩ := foldl_addWorkflow (history.snapshots.map Snapshot.workflowId) []
  rw [History.snapshots, List.foldlM_append] at ran
  refine ⟨metrics, ran, known, ?_, fun workflowId => ?_⟩
  · rw [workflows]
    exact nodup List.nodup_nil
  · rw [workflows]
    refine (mem workflowId).trans ?_
    rw [List.mem_map]
    simp

/-- After a history that meets the condition the workflows of the last snapshots are known. -/
theorem History.Meets.workflows_iff
    {history : History}
    (meets : history.Meets)
    (workflowId : PyStr) :
    (∃ snapshot ∈ history.snapshots, snapshot.workflowId = workflowId) ∧
        workflowId.isEmpty = false ↔
      (∃ last ∈ history.latest, last.workflowId = workflowId) ∧
        workflowId.isEmpty = false := by
  refine and_congr_left fun full => ⟨?_, ?_⟩
  · rintro ⟨snapshot, inside, rfl⟩
    exact meets.workflows snapshot inside full
  · rintro ⟨last, inside, same⟩
    obtain ⟨entry, there, rfl⟩ := List.mem_map.mp inside
    exact ⟨entry.2, ((latestRuns_spec history.snapshots).2 entry there).2, same⟩

/-- What is rebuilt from the last snapshots reports alike. -/
theorem rebuild_spec
    {history : History}
    (meets : history.Meets)
    {base : GlobalMetrics}
    (nodup : base.workflowIds.Nodup)
    (known : ∀ workflowId ∈ base.workflowIds,
      (∃ last ∈ history.latest, last.workflowId = workflowId) ∧ workflowId.isEmpty = false)
    {stored : List Snapshot}
    (perm : history.latest.Perm stored) :
    ∃ rebuilt, rebuild base stored = .ok rebuilt ∧
      Known rebuilt.runs (latestRuns [] stored) ∧
      SameRuns history.latest ((latestRuns [] stored).map Prod.snd) ∧
      rebuilt.workflowIds.Nodup ∧
      ∀ workflowId, workflowId ∈ rebuilt.workflowIds ↔
        (∃ last ∈ history.latest, last.workflowId = workflowId) ∧
          workflowId.isEmpty = false := by
  obtain ⟨keys, entries⟩ := latestRuns_spec history.snapshots
  have single : ∀ snapshot ∈ stored, snapshot.Uniform := by
    intro snapshot inside
    obtain ⟨entry, there, rfl⟩ := List.mem_map.mp (perm.mem_iff.mpr inside)
    exact meets.single _ (entries entry there).2
  have distinct : (stored.map fun snapshot => snapshot.runId.val).Nodup := by
    refine (perm.map _).nodup_iff.mp ?_
    have ids : history.latest.map (fun snapshot => snapshot.runId.val) =
        (latestRuns [] history.snapshots).map Prod.fst := by
      rw [History.latest, List.map_map]
      exact List.map_congr_left fun entry inside => (entries entry inside).1.symm
    rw [ids]
    exact keys
  obtain ⟨rebuilt, ran, isKnown, workflows⟩ :=
    @syncs_spec { base with runs := [] } [] stored .nil single
  have same : (latestRuns [] stored).map Prod.snd = stored := by
    rw [latestRuns_of_nodup distinct, List.map_map]
    exact List.map_id stored
  obtain ⟨nodupNext, mem⟩ :=
    foldl_addWorkflow (stored.map Snapshot.workflowId) base.workflowIds
  refine ⟨rebuilt, ran, isKnown, ?_, workflows ▸ nodupNext nodup, fun workflowId => ?_⟩
  · rw [same]
    exact ⟨stored, perm, List.forall₂_same.mpr fun _ _ => ⟨rfl, rfl, .refl _⟩⟩
  · rw [workflows]
    refine (mem workflowId).trans ?_
    rw [List.mem_map]
    constructor
    · rintro (there | ⟨⟨snapshot, inside, same⟩, full⟩)
      · exact known workflowId there
      · exact ⟨⟨snapshot, perm.mem_iff.mpr inside, same⟩, full⟩
    · rintro ⟨⟨last, inside, same⟩, full⟩
      exact .inr ⟨⟨last, perm.mem_iff.mp inside, same⟩, full⟩

/-- A run of one task, which reports a number of tokens. -/
def countedRun : Snapshot where
  runId := ⟨"run", rfl⟩
  workflowId := "workflow"
  status := "running"
  taskNodes := [("task", ⟨"succeeded", .dict [("tokens_in", .int 3)]⟩)]

/-- One number in a column can be added where it has the type that the column starts with. -/
theorem uniform_counted
    {column : Column}
    {views : List (Option Numeric)}
    (same : views = match column with
      | .tokensIn => [some (.int 3)]
      | .tokensOut => [some (.int 0)]
      | .costUsd => [some (.float (.finite 0))]
      | .model _ _ => []) :
    Uniform column views := by
  subst same
  left
  cases column with
  | costUsd => exact ⟨by simp, fun _ => ⟨fits_zero, fits_zero⟩⟩
  | _ =>
      refine ⟨by simp, ?_⟩
      rintro ⟨value, inside, float⟩
      simp only [Column.summands, Column.start, Option.getD_some, Option.getD_none,
        List.filterMap_cons, List.filterMap_nil, id, List.mem_cons, List.not_mem_nil,
        or_false] at inside
      rcases inside with rfl | rfl <;> cases float

theorem countedRun_uniform : countedRun.Uniform := by
  refine ⟨fun node inside => ?_, fun column => uniform_counted (by cases column <;> rfl)⟩
  cases List.mem_singleton.mp inside
  intro entries cost same number
  cases same
  cases number

theorem countedRun_meets : History.Meets ⟨[], [countedRun]⟩ where
  single := fun snapshot inside => by
    cases List.mem_singleton.mp inside
    exact countedRun_uniform
  together := fun column => uniform_counted (by
    cases column with
    | costUsd => decide +kernel
    | _ => rfl)
  workflows := fun snapshot inside _ => ⟨snapshot, inside, rfl⟩

/-- A run whose tasks report a text and a number under one key of a model. -/
def mixedRun : Snapshot where
  runId := ⟨"run", rfl⟩
  workflowId := "workflow"
  status := "running"
  taskNodes :=
    [("first", ⟨"succeeded", .dict [("by_model", .dict [("m", .dict [("k", .str "x")])])]⟩),
      ("second", ⟨"succeeded", .dict [("by_model", .dict [("m", .dict [("k", .int 1)])])]⟩)]

end Maze.Metrics.Global
