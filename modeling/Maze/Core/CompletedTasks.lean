import Maze.Core.DynamicRun

namespace Maze.Core.CompletedTasks

open Maze.Python
open Maze.Library.Transition

/-!
# Completed tasks of a dynamic run

The operations on a dynamic run, in any order, with a task finishing or failing
only if it was submitted. `mark_finished` leaves a task in `submitted_tasks`, and
the sweeps that end a run fail everything that is in that set; so a completed
task stays completed exactly as long as no sweep follows its completion.
-/

/-- The operations on a dynamic run. -/
inductive Operation where
  | append (request : DynamicRun.AppendRequest) (now : Time)
  | start (taskId : TaskId) (now : Time)
  | finish (taskId : TaskId) (faultTolerance : PyVal) (now : Time)
  | retry (taskId : TaskId) (error faultTolerance : PyVal) (now : Time)
  | fail (taskId : TaskId) (reason faultTolerance : PyVal) (now : Time)
  | cancel (reason : PyVal) (now : Time)
  | interrupt (reason : PyVal) (now : Time)
  | timeOut (now : Time)
  | finalize (result : PyVal) (now : Time)

/-- The run after an operation, whether or not the operation raised. -/
def perform
    (render : Time → PyStr)
    (run : DynamicRun) :
    Operation → DynamicRun
  | .append request now => (run.appendTask render request now).state
  | .start taskId now => run.markStarted taskId now
  | .finish taskId faultTolerance now =>
      (run.markFinished taskId faultTolerance now).1
  | .retry taskId error faultTolerance now =>
      run.markRetrying taskId error faultTolerance now
  | .fail taskId reason faultTolerance now =>
      run.markFailed taskId reason faultTolerance now
  | .cancel reason now => (run.cancel render reason now).state
  | .interrupt reason now => (run.interrupt reason now).1
  | .timeOut now => (run.markTimedOutIfNeeded render now).1
  | .finalize result now => (run.finalize render result now).state

/-- The task of the operation was submitted, if the operation needs that. -/
def admitted
    (run : DynamicRun) :
    Operation → Bool
  | .finish taskId _ _ | .fail taskId _ _ _ =>
      run.isTerminal || taskId ∈ run.submittedTasks
  | _ => true

/-- One admitted operation. -/
def step?
    (render : Time → PyStr)
    (run : DynamicRun)
    (operation : Operation) :
    Option DynamicRun :=
  if admitted run operation then
    some (perform render run operation)
  else
    none

/-- No task has both completed and failed. -/
def Disjoint
    (run : DynamicRun) : Prop :=
  ∀ taskId ∈ run.completedTasks, taskId ∉ run.failedTasks

/-- What is claimed of a run: completed tasks stay completed in every snapshot. -/
structure KeepsCompleted
    (render : Time → PyStr)
    (run : DynamicRun)
    (operations : List Operation) : Prop where
  disjoint : EveryState (step? render) Disjoint run operations
  reported :
    ∀ earlier later rest before after,
      operations = earlier ++ later ++ rest →
      run? (step? render) run earlier = some before →
      run? (step? render) before later = some after →
      ∀ taskId ∈ before.completedTasks, after.taskStatus taskId = .completed

/-- The operation sweeps the active tasks of the run into the failed ones. -/
def sweeps
    (run : DynamicRun) :
    Operation → Bool
  | .append _ now | .timeOut now | .finalize _ now => run.deadlinePassed now
  | .cancel _ _ | .interrupt _ _ => !run.isTerminal
  | _ => false

/--
The operation does not end an active run after a task has completed, and does not
fail a completed task.
-/
def SparesCompleted
    (run : DynamicRun)
    (operation : Operation) : Prop :=
  (sweeps run operation = true → run.completedTasks = []) ∧
    match operation with
    | .fail taskId _ _ _ =>
        run.isTerminal = false → taskId ∉ run.completedTasks
    | _ => True

/-! ## What an operation does to the sets -/

/-- The active tasks have failed and the run is over. -/
structure Swept
    (before after : DynamicRun) : Prop where
  failed : after.failedTasks = before.activeTaskIds ∪ before.failedTasks
  completed : after.completedTasks = before.completedTasks
  ended : after.isTerminal = true

/-- Nothing has failed; completed and submitted tasks have only become more. -/
structure Quiet
    (before after : DynamicRun) : Prop where
  failed : after.failedTasks = before.failedTasks
  completed :
    ∀ taskId ∈ before.completedTasks, taskId ∈ after.completedTasks
  submitted :
    after.isTerminal = false →
      ∀ taskId ∈ before.submittedTasks, taskId ∈ after.submittedTasks
  new :
    ∀ taskId ∈ after.completedTasks,
      taskId ∈ before.completedTasks ∨
        before.isTerminal = false ∧ taskId ∈ after.submittedTasks
  live : after.isTerminal = false → before.isTerminal = false
  finalized :
    after.finalized = true → before.finalized = true ∨ after.isTerminal = true

theorem Quiet.refl
    (run : DynamicRun) :
    Quiet run run where
  failed := rfl
  completed := fun _ member => member
  submitted := fun _ _ member => member
  new := fun _ member => .inl member
  live := id
  finalized := .inl

theorem swept_timedOutRun
    (render : Time → PyStr)
    (run : DynamicRun)
    (now : Time) :
    Swept run (run.timedOutRun render now) :=
  ⟨rfl, rfl, rfl⟩

/-- A sweep that takes effect fails the active tasks. -/
theorem swept_of_sweeps
    (render : Time → PyStr)
    {run : DynamicRun}
    {operation : Operation}
    (unfinalized : run.finalized = true → run.isTerminal = true)
    (effective : sweeps run operation = true) :
    Swept run (perform render run operation) := by
  cases operation with
  | append request now =>
      obtain ⟨raised, checked⟩ :=
        DynamicRun.checkCanMutate_of_passed render effective
      simp only [perform, DynamicRun.appendTask, checked]
      exact swept_timedOutRun render run now
  | finalize result now =>
      have live := DynamicRun.isTerminal_of_deadlinePassed effective
      have notFinalized : run.finalized = false := by
        cases flag : run.finalized with
        | false =>
            rfl
        | true =>
            rw [unfinalized flag] at live
            cases live
      obtain ⟨raised, checked⟩ :=
        DynamicRun.checkCanMutate_of_passed render effective
      simp only [perform, DynamicRun.finalize, notFinalized, checked]
      exact swept_timedOutRun render run now
  | timeOut now =>
      simp only [perform,
        DynamicRun.markTimedOutIfNeeded_of_passed render effective]
      exact swept_timedOutRun render run now
  | cancel reason now =>
      have live : run.isTerminal = false := by
        simpa [sweeps] using effective
      have notCanceled : run.status ≠ .canceled := by
        intro canceled
        simp [DynamicRun.isTerminal, canceled, RunStatus.isTerminal] at live
      cases passed : run.deadlinePassed now with
      | true =>
          obtain ⟨raised, checked⟩ :=
            DynamicRun.checkCanMutate_of_passed render passed
          simp only [perform, DynamicRun.cancel, notCanceled, checked, if_false]
          exact swept_timedOutRun render run now
      | false =>
          have checked := DynamicRun.checkCanMutate_of_live render passed live
          simp only [perform, DynamicRun.cancel, notCanceled, checked, if_false]
          exact ⟨rfl, rfl, rfl⟩
  | interrupt reason now =>
      have live : run.isTerminal = false := by
        simpa [sweeps] using effective
      simp only [perform, DynamicRun.interrupt, live]
      exact ⟨rfl, rfl, rfl⟩
  | start | finish | retry | fail =>
      cases effective

/-- Whether the operation is `mark_failed`. -/
def Operation.isFail : Operation → Bool
  | .fail _ _ _ _ => true
  | _ => false

/-- Adding a task fails nothing. -/
theorem quiet_addTask
    (run : DynamicRun)
    (request : DynamicRun.AppendRequest)
    (now : Time)
    (live : run.isTerminal = false) :
    Quiet run (run.addTask request now) := by
  simp only [DynamicRun.addTask]
  split
  · exact {
      failed := rfl
      completed := fun _ member => member
      submitted := fun _ _ member => List.mem_insert_of_mem member
      new := fun _ member => .inl member
      live := fun _ => live
      finalized := .inl }
  · exact {
      failed := rfl
      completed := fun _ member => member
      submitted := fun _ _ member => member
      new := fun _ member => .inl member
      live := fun _ => live
      finalized := .inl }

/-- An append that does not meet the deadline fails nothing. -/
theorem quiet_appendTask
    (render : Time → PyStr)
    (run : DynamicRun)
    (request : DynamicRun.AppendRequest)
    {now : Time}
    (waiting : run.deadlinePassed now = false) :
    Quiet run (run.appendTask render request now).state := by
  cases terminal : run.isTerminal with
  | true =>
      have checked :=
        DynamicRun.checkCanMutate_of_terminal render now terminal
      simp only [DynamicRun.appendTask, checked]
      exact .refl run
  | false =>
      have checked := DynamicRun.checkCanMutate_of_live render waiting terminal
      simp only [DynamicRun.appendTask, checked]
      split
      · exact .refl run
      · split
        · exact .refl run
        · split
          · exact .refl run
          · split
            · exact quiet_addTask run request now terminal
            · exact .refl run

/-- Finishing a submitted task fails nothing. -/
theorem quiet_markFinished
    (run : DynamicRun)
    (taskId : TaskId)
    (faultTolerance : PyVal)
    (now : Time)
    (submitted : run.isTerminal = true ∨ taskId ∈ run.submittedTasks) :
    Quiet run (run.markFinished taskId faultTolerance now).1 := by
  cases terminal : run.isTerminal with
  | true =>
      simp only [DynamicRun.markFinished, terminal]
      exact .refl run
  | false =>
      have member : taskId ∈ run.submittedTasks := by
        simpa [terminal] using submitted
      simp only [DynamicRun.markFinished, terminal]
      exact {
        failed := rfl
        completed := fun _ before => List.mem_insert_of_mem before
        submitted := fun _ _ before => List.mem_union_iff.mpr (.inr before)
        new := by
          intro other after
          rcases List.mem_insert_iff.mp after with rfl | before
          · exact .inr ⟨terminal, List.mem_union_iff.mpr (.inr member)⟩
          · exact .inl before
        live := fun _ => terminal
        finalized := .inl }

/-- Finalizing without meeting the deadline fails nothing. -/
theorem quiet_finalize
    (render : Time → PyStr)
    (run : DynamicRun)
    (result : PyVal)
    {now : Time}
    (waiting : run.deadlinePassed now = false) :
    Quiet run (run.finalize render result now).state := by
  unfold DynamicRun.finalize
  split
  · exact .refl run
  · cases terminal : run.isTerminal with
    | true =>
        simp only [DynamicRun.checkCanMutate_of_terminal render now terminal]
        exact .refl run
    | false =>
        simp only [DynamicRun.checkCanMutate_of_live render waiting terminal]
        split
        · exact {
            failed := rfl
            completed := fun _ member => member
            submitted := fun _ _ member => member
            new := fun _ member => .inl member
            live := fun _ => terminal
            finalized := fun _ => .inr rfl }
        · exact .refl run

/-- Starting or retrying a task fails nothing. -/
theorem quiet_markStarted
    (run : DynamicRun)
    (taskId : TaskId)
    (now : Time) :
    Quiet run (run.markStarted taskId now) := by
  cases terminal : run.isTerminal with
  | true =>
      simp only [DynamicRun.markStarted, terminal]
      exact .refl run
  | false =>
      simp only [DynamicRun.markStarted, terminal]
      exact {
        failed := rfl
        completed := fun _ member => member
        submitted := fun _ _ member => member
        new := fun _ member => .inl member
        live := fun _ => terminal
        finalized := .inl }

@[inherit_doc quiet_markStarted]
theorem quiet_markRetrying
    (run : DynamicRun)
    (taskId : TaskId)
    (error faultTolerance : PyVal)
    (now : Time) :
    Quiet run (run.markRetrying taskId error faultTolerance now) := by
  cases terminal : run.isTerminal with
  | true =>
      simp only [DynamicRun.markRetrying, terminal]
      exact .refl run
  | false =>
      simp only [DynamicRun.markRetrying, terminal]
      exact {
        failed := rfl
        completed := fun _ member => member
        submitted := fun _ _ member => member
        new := fun _ member => .inl member
        live := fun _ => terminal
        finalized := .inl }

/-- An operation that neither sweeps nor fails a task fails nothing. -/
theorem quiet_of_not_sweeps
    (render : Time → PyStr)
    {run : DynamicRun}
    {operation : Operation}
    (allowed : admitted run operation = true)
    (calm : sweeps run operation = false)
    (notFail : operation.isFail = false) :
    Quiet run (perform render run operation) := by
  cases operation with
  | append request now =>
      exact quiet_appendTask render run request calm
  | start taskId now =>
      exact quiet_markStarted run taskId now
  | finish taskId faultTolerance now =>
      refine quiet_markFinished run taskId faultTolerance now ?_
      simpa [admitted] using allowed
  | retry taskId error faultTolerance now =>
      exact quiet_markRetrying run taskId error faultTolerance now
  | fail =>
      cases notFail
  | cancel reason now =>
      have terminal : run.isTerminal = true := by
        simpa [sweeps] using calm
      simp only [perform, DynamicRun.cancel,
        DynamicRun.checkCanMutate_of_terminal render now terminal]
      split <;> exact .refl run
  | interrupt reason now =>
      have terminal : run.isTerminal = true := by
        simpa [sweeps] using calm
      simp only [perform, DynamicRun.interrupt, terminal, if_true]
      exact .refl run
  | timeOut now =>
      simp only [perform,
        DynamicRun.markTimedOutIfNeeded_of_not_passed render calm]
      exact .refl run
  | finalize result now =>
      exact quiet_finalize render run result calm

/-! ## The invariant and one step -/

/-- While a run is active nothing has failed and completed tasks were submitted. -/
structure Invariant
    (run : DynamicRun) : Prop where
  unfailed : run.isTerminal = false → run.failedTasks = []
  submitted :
    run.isTerminal = false →
      ∀ taskId ∈ run.completedTasks, taskId ∈ run.submittedTasks
  finalized : run.finalized = true → run.isTerminal = true
  disjoint : Disjoint run

theorem invariant_new
    (runId : PyStr)
    (maxTasks : Int)
    (timeoutSeconds : Option Time)
    (fileContext : PyVal)
    (now : Time) :
    Invariant (.new runId maxTasks timeoutSeconds fileContext now) := by
  constructor <;> simp [DynamicRun.new, Disjoint]

theorem terminal_of_over
    {before after : DynamicRun}
    (swept : Swept before after)
    (live : after.isTerminal = false) :
    False := by
  rw [swept.ended] at live
  cases live

/-- A sweep of an active run keeps it disjoint only if nothing has completed. -/
theorem disjoint_iff_of_swept
    {before after : DynamicRun}
    (holds : Invariant before)
    (live : before.isTerminal = false)
    (swept : Swept before after) :
    Disjoint after ↔ before.completedTasks = [] := by
  constructor
  · intro disjoint
    refine List.eq_nil_iff_forall_not_mem.mpr fun taskId completed => ?_
    have submitted := holds.submitted live taskId completed
    refine disjoint taskId (swept.completed ▸ completed) ?_
    simp [swept.failed, DynamicRun.activeTaskIds, submitted]
  · intro nothing taskId completed
    rw [swept.completed, nothing] at completed
    cases completed

theorem invariant_of_swept
    {before after : DynamicRun}
    (swept : Swept before after)
    (disjoint : Disjoint after) :
    Invariant after where
  unfailed := fun live => (terminal_of_over swept live).elim
  submitted := fun live => (terminal_of_over swept live).elim
  finalized := fun _ => swept.ended
  disjoint := disjoint

theorem invariant_of_quiet
    {before after : DynamicRun}
    (holds : Invariant before)
    (quiet : Quiet before after) :
    Invariant after where
  unfailed := by
    intro live
    rw [quiet.failed, holds.unfailed (quiet.live live)]
  submitted := by
    intro live taskId completed
    rcases quiet.new taskId completed with earlier | ⟨_, submitted⟩
    · exact quiet.submitted live taskId
        (holds.submitted (quiet.live live) taskId earlier)
    · exact submitted
  finalized := by
    intro finalized
    rcases quiet.finalized finalized with earlier | ended
    · cases live : after.isTerminal with
      | true =>
          rfl
      | false =>
          have terminal := holds.finalized earlier
          rw [quiet.live live] at terminal
          cases terminal
    · exact ended
  disjoint := by
    intro taskId completed
    rw [quiet.failed]
    rcases quiet.new taskId completed with earlier | ⟨live, _⟩
    · exact holds.disjoint taskId earlier
    · simp [holds.unfailed live]

/-- An active run stays active or fails nothing unless the operation sweeps. -/
theorem live_of_sweeps
    {run : DynamicRun}
    {operation : Operation}
    (effective : sweeps run operation = true) :
    run.isTerminal = false := by
  cases operation with
  | append | timeOut | finalize =>
      exact DynamicRun.isTerminal_of_deadlinePassed effective
  | cancel | interrupt =>
      simpa [sweeps] using effective
  | start | finish | retry | fail =>
      cases effective

/-- Failing a task of an active run keeps it disjoint unless it has completed. -/
theorem disjoint_iff_of_markFailed
    {run : DynamicRun}
    (holds : Invariant run)
    (live : run.isTerminal = false)
    (taskId : TaskId)
    (reason faultTolerance : PyVal)
    (now : Time) :
    Disjoint (run.markFailed taskId reason faultTolerance now) ↔
      taskId ∉ run.completedTasks := by
  have failed :
      (run.markFailed taskId reason faultTolerance now).failedTasks =
        [taskId] := by
    simp [DynamicRun.markFailed, live, holds.unfailed live]
  have completed :
      (run.markFailed taskId reason faultTolerance now).completedTasks =
        run.completedTasks := by
    simp [DynamicRun.markFailed, live]
  simp only [Disjoint, failed, completed, List.mem_singleton]
  constructor
  · intro disjoint member
    exact disjoint taskId member rfl
  · rintro spared other member rfl
    exact spared member

theorem markFailed_terminal
    (run : DynamicRun)
    (taskId : TaskId)
    (reason faultTolerance : PyVal)
    (now : Time) :
    (run.markFailed taskId reason faultTolerance now).isTerminal = true := by
  unfold DynamicRun.markFailed
  split
  · assumption
  · simp only [DynamicRun.isTerminal]
    split <;> rfl

/-- An operation leaves the run disjoint exactly if it spares completed tasks. -/
theorem disjoint_perform_iff
    (render : Time → PyStr)
    {run : DynamicRun}
    {operation : Operation}
    (holds : Invariant run)
    (allowed : admitted run operation = true) :
    Disjoint (perform render run operation) ↔ SparesCompleted run operation := by
  cases effective : sweeps run operation with
  | true =>
      have live := live_of_sweeps effective
      have swept := swept_of_sweeps render holds.finalized effective
      have notFail : ∀ taskId reason faultTolerance now,
          operation ≠ .fail taskId reason faultTolerance now := by
        rintro taskId reason faultTolerance now rfl
        cases effective
      rw [disjoint_iff_of_swept holds live swept]
      cases operation <;> simp_all [SparesCompleted]
  | false =>
      cases operation with
      | fail taskId reason faultTolerance now =>
          cases terminal : run.isTerminal with
          | true =>
              simp [perform, DynamicRun.markFailed, terminal, SparesCompleted,
                holds.disjoint, effective]
          | false =>
              rw [perform, disjoint_iff_of_markFailed holds terminal]
              simp [SparesCompleted, effective, terminal]
      | append | start | finish | retry | cancel | interrupt | timeOut | finalize =>
          have quiet := quiet_of_not_sweeps render allowed effective rfl
          have disjoint := (invariant_of_quiet holds quiet).disjoint
          simp [disjoint, SparesCompleted, effective]

theorem perform_of_step
    {render : Time → PyStr}
    {run next : DynamicRun}
    {operation : Operation}
    (stepped : step? render run operation = some next) :
    admitted run operation = true ∧ next = perform render run operation := by
  simp only [step?, Option.ite_none_right_eq_some, Option.some.injEq] at stepped
  exact ⟨stepped.1, stepped.2.symm⟩

@[inherit_doc disjoint_perform_iff]
theorem disjoint_step_iff
    (render : Time → PyStr)
    {run next : DynamicRun}
    {operation : Operation}
    (holds : Invariant run)
    (stepped : step? render run operation = some next) :
    (∀ other, step? render run operation = some other → Disjoint other) ↔
      SparesCompleted run operation := by
  obtain ⟨allowed, rfl⟩ := perform_of_step stepped
  rw [← disjoint_perform_iff render holds allowed, stepped]
  constructor
  · intro every
    exact every _ rfl
  · rintro disjoint _ ⟨⟩
    exact disjoint

/-- An operation that spares completed tasks keeps the invariant. -/
theorem invariant_step
    (render : Time → PyStr)
    {run next : DynamicRun}
    {operation : Operation}
    (holds : Invariant run)
    (spares : SparesCompleted run operation)
    (stepped : step? render run operation = some next) :
    Invariant next := by
  obtain ⟨allowed, rfl⟩ := perform_of_step stepped
  have disjoint := (disjoint_perform_iff render holds allowed).mpr spares
  cases effective : sweeps run operation with
  | true =>
      exact invariant_of_swept
        (swept_of_sweeps render holds.finalized effective) disjoint
  | false =>
      cases operation with
      | fail taskId reason faultTolerance now =>
          have ended := markFailed_terminal run taskId reason faultTolerance now
          constructor
          · intro live
            rw [perform, ended] at live
            cases live
          · intro live
            rw [perform, ended] at live
            cases live
          · intro _
            exact ended
          · exact disjoint
      | append | start | finish | retry | cancel | interrupt | timeOut | finalize =>
          exact invariant_of_quiet holds
            (quiet_of_not_sweeps render allowed effective rfl)

/-- Once completed, and finalized only if over. -/
structure Remembers
    (taskIds : List TaskId)
    (run : DynamicRun) : Prop where
  completed : ∀ taskId ∈ taskIds, taskId ∈ run.completedTasks
  finalized : run.finalized = true → run.isTerminal = true

/-- No operation forgets a completed task. -/
theorem remembers_step
    (render : Time → PyStr)
    {taskIds : List TaskId}
    {run next : DynamicRun}
    {operation : Operation}
    (remembers : Remembers taskIds run)
    (stepped : step? render run operation = some next) :
    Remembers taskIds next := by
  obtain ⟨allowed, rfl⟩ := perform_of_step stepped
  cases effective : sweeps run operation with
  | true =>
      have swept := swept_of_sweeps render remembers.finalized effective
      exact ⟨swept.completed ▸ remembers.completed, fun _ => swept.ended⟩
  | false =>
      cases operation with
      | fail failedId reason faultTolerance now =>
          refine ⟨?_, fun _ => markFailed_terminal run failedId reason _ now⟩
          simp only [perform, DynamicRun.markFailed]
          split <;> exact remembers.completed
      | append | start | finish | retry | cancel | interrupt | timeOut | finalize =>
          have quiet := quiet_of_not_sweeps render allowed effective rfl
          constructor
          · intro taskId member
            exact quiet.completed taskId (remembers.completed taskId member)
          · intro finalized
            rcases quiet.finalized finalized with earlier | ended
            · by_contra live
              rw [Bool.not_eq_true] at live
              have terminal := remembers.finalized earlier
              rw [quiet.live live] at terminal
              cases terminal
            · exact ended

/-- A task that has completed and not failed is reported as completed. -/
theorem taskStatus_of_completed
    {run : DynamicRun}
    {taskId : TaskId}
    (completed : taskId ∈ run.completedTasks)
    (disjoint : Disjoint run) :
    run.taskStatus taskId = .completed := by
  simp [DynamicRun.taskStatus, disjoint taskId completed, completed]

/-! ## Whole runs -/

/-- In a run that stays disjoint, later snapshots report completed tasks. -/
theorem keepsCompleted_of_disjoint
    (render : Time → PyStr)
    {run : DynamicRun}
    {operations : List Operation}
    (holds : Invariant run)
    (disjoint : EveryState (step? render) Disjoint run operations) :
    KeepsCompleted render run operations := by
  refine ⟨disjoint, ?_⟩
  intro earlier later rest before after split reached reachedLater taskId completed
  have started : Remembers [] run := ⟨by simp, holds.finalized⟩
  have known : Remembers [] before :=
    run?_invariant
      (fun _ _ _ remembers stepped => remembers_step render remembers stepped)
      started reached
  have remembers : Remembers before.completedTasks before :=
    ⟨fun _ member => member, known.finalized⟩
  have kept : Remembers before.completedTasks after :=
    run?_invariant
      (fun _ _ _ remembers stepped => remembers_step render remembers stepped)
      remembers reachedLater
  have whole : run? (step? render) run (earlier ++ later) = some after := by
    rw [run?_append, reached]
    exact reachedLater
  exact taskStatus_of_completed (kept.completed taskId completed)
    (disjoint (earlier ++ later) rest after split whole)

/--
For every sequence of admitted operations on a new dynamic run, completed tasks
never fail and are reported as completed by every later snapshot if and only if
no operation ends the active run by a sweep after a task has completed, and none
fails a completed task.
-/
theorem completedTasks_kept_iff
    (render : Time → PyStr)
    (runId : PyStr)
    (maxTasks : Int)
    (timeoutSeconds : Option Time)
    (fileContext : PyVal)
    (created : Time)
    (operations : List Operation) :
    KeepsCompleted render (.new runId maxTasks timeoutSeconds fileContext created)
        operations ↔
      EveryStep (step? render) SparesCompleted
        (.new runId maxTasks timeoutSeconds fileContext created) operations := by
  have initially := invariant_new runId maxTasks timeoutSeconds fileContext created
  have steps :
      EveryStep (step? render)
          (fun run operation =>
            ∀ next, step? render run operation = some next → Disjoint next)
          (.new runId maxTasks timeoutSeconds fileContext created) operations ↔
        EveryStep (step? render) SparesCompleted
          (.new runId maxTasks timeoutSeconds fileContext created) operations :=
    everyStep_iff_of_invariant
      (fun _ _ _ holds spares stepped => invariant_step render holds spares stepped)
      (fun _ _ _ holds stepped => disjoint_step_iff render holds stepped)
      initially operations
  constructor
  · intro keeps
    exact steps.mp (everyState_iff.mp keeps.disjoint).2
  · intro spares
    exact keepsCompleted_of_disjoint render initially
      (everyState_iff.mpr ⟨initially.disjoint, steps.mpr spares⟩)

/-- One task is appended and completes, and then the run is cancelled. -/
def cancelAfterCompletion : List Operation :=
  [.append ⟨"task", "task", none, [], none⟩ 1,
    .start "task" 2,
    .finish "task" .null 3,
    .cancel .null 4]

/-- The completed task of this run ends up among the failed ones. -/
theorem cancelAfterCompletion_fails_completed :
    ¬ ∀ (render : Time → PyStr) (runId : PyStr) (maxTasks : Int)
        (timeoutSeconds : Option Time) (fileContext : PyVal) (created : Time)
        (operations : List Operation),
      KeepsCompleted render (.new runId maxTasks timeoutSeconds fileContext created)
        operations := by
  intro claim
  have keeps :=
    claim (fun _ => "0") "run" 100 none .null 0 cancelAfterCompletion
  have reported :=
    keeps.reported
      [.append ⟨"task", "task", none, [], none⟩ 1, .start "task" 2,
        .finish "task" .null 3]
      [.cancel .null 4] [] _ _ rfl rfl rfl "task" (by decide)
  exact absurd reported (by decide)

end Maze.Core.CompletedTasks
