import Maze.Scheduler.LeaseOwnership

namespace Maze.Scheduler.WorkflowRegistry

open Maze.Python
open Maze.Library
open Maze.Library.Transition
open Maze.Scheduler.TaskLeases (State Task Assessment)

/-!
# The workflows of the scheduler, as Core sees them

Core sends tasks of a run to the scheduler, asks it to stop a run, and takes the
answer for the promise that no task of the run is dispatched any more. Three
collections of the scheduler bear on that promise: the workflows it has received a
task of, the tasks that are registered with the workflow manager, and the marks of
stopped workflows. A task is registered before it is dispatched, and it stays
registered until its workflow ends.

The registry is what is left of the scheduler if only these are looked at. Every run
of the scheduler is a run of the registry.
-/

/-- The workflows that have been received, the registered tasks and the stop marks. -/
structure Registry where
  heard : List Identifier
  registered : List (Identifier × Identifier)
  stopped : List Identifier
  deriving DecidableEq

namespace Registry

/-- The registry of a scheduler that has just started. -/
def initial : Registry where
  heard := []
  registered := []
  stopped := []

/-- `_stopped_workflows().add`. -/
def markStopped
    (registry : Registry)
    (workflowId : Identifier) :
    Registry :=
  { registry with stopped := workflowId :: registry.stopped }

/-- `WorkflowRuntimeManager.clear_workflow`. -/
def clearWorkflow
    (registry : Registry)
    (workflowId : Identifier) :
    Registry :=
  { registry with
    registered :=
      registry.registered.filter fun task => task.1 ≠ workflowId }

/-- A workflow is stopped, cleared, rejected or finally failed. -/
def endWorkflow
    (registry : Registry)
    (workflowId : Identifier) :
    Registry :=
  (registry.markStopped workflowId).clearWorkflow workflowId

/-- No task of the workflow is registered, and none will be. -/
structure Ended
    (registry : Registry)
    (workflowId : Identifier) : Prop where
  stopped : workflowId ∈ registry.stopped
  unregistered : ∀ taskId, (workflowId, taskId) ∉ registry.registered

end Registry

/-- What happens to the registry. -/
inductive Action where
  /-- A task of the workflow is queued. -/
  | receive (workflowId : Identifier)
  /-- `_submit_thread`: `add_task`. -/
  | register (workflowId taskId : Identifier)
  /-- `_retry_or_fail_task` withdraws the mark of a task that is to be retried. -/
  | retry (workflowId taskId : Identifier)
  /-- The workflow ends. -/
  | endWorkflow (workflowId : Identifier)
  deriving DecidableEq

/-- One change of the registry. -/
def step?
    (registry : Registry) :
    Action → Option Registry
  | .receive workflowId =>
      if workflowId ∈ registry.stopped then
        none
      else
        some { registry with heard := workflowId :: registry.heard }
  | .register workflowId taskId =>
      if workflowId ∈ registry.heard ∧ workflowId ∉ registry.stopped then
        some
          { registry with
            registered := (workflowId, taskId) :: registry.registered }
      else
        none
  | .retry workflowId taskId =>
      if (workflowId, taskId) ∈ registry.registered then
        some
          { registry with
            stopped := registry.stopped.filter fun other => other ≠ workflowId }
      else
        none
  | .endWorkflow workflowId => some (registry.endWorkflow workflowId)

/-! ## Ended workflows -/

theorem ended_endWorkflow
    (registry : Registry)
    (workflowId : Identifier) :
    (registry.endWorkflow workflowId).Ended workflowId where
  stopped := List.mem_cons_self
  unregistered taskId inside := by
    simp [Registry.endWorkflow, Registry.clearWorkflow] at inside

theorem Registry.Ended.endWorkflow
    {registry : Registry}
    {workflowId : Identifier}
    (ended : registry.Ended workflowId)
    (other : Identifier) :
    (registry.endWorkflow other).Ended workflowId where
  stopped := List.mem_cons_of_mem other ended.stopped
  unregistered taskId inside :=
    ended.unregistered taskId (List.mem_of_mem_filter inside)

/-- A mark is withdrawn only for a registered task, so an ended workflow keeps its. -/
theorem ended_step
    {registry next : Registry}
    {action : Action}
    {workflowId : Identifier}
    (ended : registry.Ended workflowId)
    (stepped : step? registry action = some next) :
    next.Ended workflowId := by
  cases action with
  | receive other =>
      obtain ⟨_, ⟨⟩⟩ := Option.ite_none_left_eq_some.mp stepped
      exact ⟨ended.stopped, ended.unregistered⟩
  | register other taskId =>
      obtain ⟨⟨_, unmarked⟩, ⟨⟩⟩ := Option.ite_none_right_eq_some.mp stepped
      refine ⟨ended.stopped, fun wanted inside => ?_⟩
      rcases List.mem_cons.mp inside with same | inside
      · exact unmarked ((Prod.mk.inj same).1 ▸ ended.stopped)
      · exact ended.unregistered wanted inside
  | retry other taskId =>
      obtain ⟨registered, ⟨⟩⟩ := Option.ite_none_right_eq_some.mp stepped
      refine ⟨List.mem_filter.mpr ⟨ended.stopped, ?_⟩, ended.unregistered⟩
      simp only [decide_eq_true_eq]
      rintro rfl
      exact ended.unregistered taskId registered
  | endWorkflow other =>
      obtain rfl := Option.some.inj stepped
      exact ended.endWorkflow other

/-- A workflow that has ended stays so, whatever the scheduler does. -/
theorem ended_run
    {registry final : Registry}
    {actions : List Action}
    {workflowId : Identifier}
    (ended : registry.Ended workflowId)
    (executed : run? step? registry actions = some final) :
    final.Ended workflowId :=
  run?_invariant (fun _ _ _ => ended_step) ended executed

/-! ## What the registry sees of a scheduler -/

/-- The workflows of the runtimes, the registered tasks and the marks. -/
structure View where
  workflowOf : ℕ → Option Identifier
  workflows : Table Identifier (Table Identifier ℕ)
  stopped : Identifier → Prop

/-- What is seen of the scheduler. -/
def view (state : State) : View where
  workflowOf := state.workflowOf
  workflows := state.workflows
  stopped workflowId := workflowId ∈ state.stoppedWorkflows

/-- The runtime is registered for the task of the workflow. -/
def registeredAs
    (state : State)
    (workflowId taskId : Identifier)
    (x : ℕ) : Prop :=
  ((state.workflows.get? workflowId).bind fun workflow => workflow.get? taskId) =
    some x

namespace View

@[inherit_doc registeredAs]
def Registered
    (seen : View)
    (workflowId taskId : Identifier)
    (x : ℕ) : Prop :=
  ((seen.workflows.get? workflowId).bind fun workflow => workflow.get? taskId) =
    some x

/-- The workflow is marked. -/
def markStopped (seen : View) (workflowId : Identifier) : View :=
  { seen with stopped := fun other => other = workflowId ∨ seen.stopped other }

/-- The mark of the workflow is withdrawn. -/
def unmarkStopped (seen : View) (workflowId : Identifier) : View :=
  { seen with stopped := fun other => other ≠ workflowId ∧ seen.stopped other }

/-- The workflow is marked and its tasks are no longer registered. -/
def endWorkflow (seen : View) (workflowId : Identifier) : View :=
  { seen.markStopped workflowId with workflows := seen.workflows.erase workflowId }

theorem unmarkStopped_markStopped
    (seen : View)
    (workflowId : Identifier) :
    (seen.markStopped workflowId).unmarkStopped workflowId =
      seen.unmarkStopped workflowId := by
  have same :
      ∀ other,
        (other ≠ workflowId ∧ (other = workflowId ∨ seen.stopped other)) =
          (other ≠ workflowId ∧ seen.stopped other) :=
    fun other => propext (and_congr_right fun different => or_iff_right different)
  simp only [unmarkStopped, markStopped, same]

end View

/-- The registry holds what has been received, registered and marked. -/
structure Shows
    (seen : View)
    (registry : Registry) : Prop where
  heard :
    ∀ x workflowId, seen.workflowOf x = some workflowId →
      workflowId ∈ registry.heard
  registered :
    ∀ workflowId taskId,
      (workflowId, taskId) ∈ registry.registered ↔
        ∃ x, seen.Registered workflowId taskId x
  stopped : ∀ workflowId, workflowId ∈ registry.stopped ↔ seen.stopped workflowId
  named :
    ∀ workflowId taskId x, seen.Registered workflowId taskId x →
      seen.workflowOf x = some workflowId

/-- The registry can follow the scheduler from the one view to the other. -/
def Followed (before after : View) : Prop :=
  ∀ registry, Shows before registry →
    ∃ actions next, run? step? registry actions = some next ∧ Shows after next

theorem Followed.refl (seen : View) : Followed seen seen :=
  fun registry shows_ => ⟨[], registry, rfl, shows_⟩

theorem Followed.trans
    {first second third : View}
    (earlier : Followed first second)
    (later : Followed second third) :
    Followed first third := by
  intro registry shows_
  obtain ⟨actions, middle, executed, shown⟩ := earlier registry shows_
  obtain ⟨more, last, continued, shownLast⟩ := later middle shown
  refine ⟨actions ++ more, last, ?_, shownLast⟩
  rw [run?_append, executed]
  exact continued

/-- The registry does nothing where it sees nothing. -/
theorem Followed.unseen
    {before after : View}
    (same : after = before) :
    Followed before after :=
  same ▸ .refl before

theorem followed_endWorkflow
    (seen : View)
    (workflowId : Identifier) :
    Followed seen (seen.endWorkflow workflowId) := by
  have erased :
      ∀ other taskId x,
        (seen.endWorkflow workflowId).Registered other taskId x ↔
          other ≠ workflowId ∧ seen.Registered other taskId x := by
    intro other taskId x
    simp only [View.Registered, View.endWorkflow, Table.get?_erase]
    split
    · next same => simp [same]
    · next different => simp [different]
  intro registry shows_
  refine ⟨[.endWorkflow workflowId], registry.endWorkflow workflowId, rfl, ?_⟩
  exact
    { heard := shows_.heard
      registered := fun other taskId => by
        simp only [Registry.endWorkflow, Registry.clearWorkflow, Registry.markStopped,
          List.mem_filter, shows_.registered, decide_eq_true_eq, erased, exists_and_left]
        exact and_comm
      stopped := fun other => List.mem_cons.trans (or_congr_right (shows_.stopped other))
      named := fun other taskId x registered =>
        shows_.named other taskId x ((erased other taskId x).mp registered).2 }

/-- A mark may be withdrawn for a registered task, or where there was none. -/
theorem followed_unmarkStopped
    {seen : View}
    {workflowId : Identifier}
    (allowed :
      seen.stopped workflowId → ∃ taskId x, seen.Registered workflowId taskId x) :
    Followed seen (seen.unmarkStopped workflowId) := by
  intro registry shows_
  by_cases marked : seen.stopped workflowId
  · obtain ⟨taskId, x, registered⟩ := allowed marked
    have known := (shows_.registered workflowId taskId).mpr ⟨x, registered⟩
    refine ⟨[.retry workflowId taskId],
      { registry with
        stopped := registry.stopped.filter fun other => other ≠ workflowId },
      by simp [step?, known], { shows_ with stopped := fun other => ?_ }⟩
    simp only [List.mem_filter, shows_.stopped, decide_eq_true_eq]
    exact and_comm
  · refine ⟨[], registry, rfl, { shows_ with stopped := fun other => ?_ }⟩
    rw [shows_.stopped]
    refine (and_iff_right_of_imp fun inside same => ?_).symm
    exact marked (same ▸ inside)

/-! ## What the operations of the scheduler change -/

section Operations

variable
  {strings : Strings}
  {state next : State}
  {x : ℕ}
  {task named : Task}
  {error : PyDict}
  {placement : TaskLeases.Placement}
  {refusal : Option (PyStr × Assessment)}
  {outcome : TaskLeases.RunOutcome}

theorem view_modifyTask
    {change : Task → Task}
    (keeps : ∀ task, (change task).workflowId = task.workflowId)
    (state : State)
    (x : ℕ) :
    view (state.modifyTask x change) = view state := by
  have same : (state.modifyTask x change).workflowOf = state.workflowOf := by
    funext y
    simp only [State.workflowOf, State.modifyTask, Table.get?_modify]
    split
    · cases state.tasks.get? y with
      | none => rfl
      | some task => simp [keeps task]
    · rfl
  simp only [view, same]
  rfl

theorem view_take
    (state : State)
    (x : ℕ) :
    view (state.modifyTask x fun task => { task with place := .taken }) = view state :=
  view_modifyTask (fun _ => by rfl) state x

theorem view_handOver
    (state : State)
    (x : ℕ)
    (recovery : TaskLeases.PendingRecovery) :
    view (state.handOver x recovery) = view state := by
  have moved :
      view (state.modifyTask x fun task => { task with status := .recovering }) =
        view state :=
    view_modifyTask (fun _ => by rfl) state x
  exact moved

theorem view_removeModelWaiters
    (workflowId : Identifier)
    (state : State) :
    view (state.removeModelWaiters workflowId) = view state := by
  have same :
      (state.removeModelWaiters workflowId).workflowOf = state.workflowOf := by
    funext x
    simp only [State.workflowOf, State.removeModelWaiters, Table.get?_mapValues]
    cases state.tasks.get? x with
    | none => rfl
    | some task =>
        simp only [Option.map_some, Option.some.injEq]
        split <;> rfl
  simp only [view, same]
  rfl

theorem view_releaseTasks
    (tasks : List ℕ)
    (state : State) :
    view (tasks.foldl (fun state x => state.releaseTask x) state) = view state := by
  induction tasks generalizing state with
  | nil => rfl
  | cons x rest inductionHypothesis =>
      exact inductionHypothesis (state.releaseTask x)

theorem view_markStopped
    (workflowId : Identifier)
    (state : State) :
    view (state.markStopped workflowId) = (view state).markStopped workflowId := by
  have same :
      ∀ other,
        (other ∈ (state.markStopped workflowId).stoppedWorkflows) =
          (other = workflowId ∨ other ∈ state.stoppedWorkflows) := by
    intro other
    by_cases here : other = workflowId <;> simp [State.markStopped, here]
  simp only [view, same]
  rfl

theorem view_unmarkStopped
    (workflowId : Identifier)
    (state : State) :
    view (state.unmarkStopped workflowId) = (view state).unmarkStopped workflowId := by
  have same :
      ∀ other,
        (other ∈ (state.unmarkStopped workflowId).stoppedWorkflows) =
          (other ≠ workflowId ∧ other ∈ state.stoppedWorkflows) := by
    intro other
    simp only [State.unmarkStopped, List.mem_filter, decide_eq_true_eq, and_comm]
  simp only [view, same]
  rfl

/-- A workflow that is marked and cancelled has ended. -/
theorem view_cancelWorkflow
    (workflowId : Identifier)
    {marked : State}
    {seen : View}
    (same : view marked = seen.markStopped workflowId) :
    view (marked.cancelWorkflow workflowId) = seen.endWorkflow workflowId := by
  have cleared :
      view ((marked.removeModelWaiters workflowId).clearWorkflow workflowId) =
        seen.endWorkflow workflowId := by
    have waiters := (view_removeModelWaiters workflowId marked).trans same
    have workflows : marked.workflows = seen.workflows := congrArg View.workflows same
    rw [View.endWorkflow, ← waiters, ← workflows]
    rfl
  exact (view_releaseTasks _ _).trans cleared

theorem view_endWorkflow
    (workflowId : Identifier)
    {base : State}
    {seen : View}
    (same : view base = seen) :
    view ((base.markStopped workflowId).cancelWorkflow workflowId) =
      seen.endWorkflow workflowId :=
  view_cancelWorkflow workflowId (by rw [view_markStopped, same])

theorem view_clearWorkflowRequest
    (workflowId : Identifier)
    (state : State) :
    view (state.clearWorkflowRequest workflowId) =
      (view state).endWorkflow workflowId := by
  have marked := (view_removeModelWaiters workflowId (state.markStopped workflowId)).trans
    (view_markStopped workflowId state)
  rw [View.endWorkflow, ← marked]
  rfl

/-- A failure ends the workflow of the task or withdraws its mark. -/
theorem view_retryOrFailTask
    (found : state.tasks.get? x = some task)
    (error : PyDict)
    (assessment : Assessment) :
    view (state.retryOrFailTask x error assessment) =
        (view state).endWorkflow task.workflowId ∨
      view (state.retryOrFailTask x error assessment) =
        (view state).unmarkStopped task.workflowId := by
  have recorded :
      view (state.modifyTask x (TaskLeases.recordOutcome assessment)) = view state :=
    view_modifyTask (fun _ => by rfl) state x
  have withdrawn :
      view (((state.modifyTask x (TaskLeases.recordOutcome assessment)).markStopped
        task.workflowId).unmarkStopped task.workflowId) =
          (view state).unmarkStopped task.workflowId := by
    rw [view_unmarkStopped, view_markStopped, recorded, View.unmarkStopped_markStopped]
  unfold State.retryOrFailTask
  rw [found]
  dsimp only
  split
  · split
    · exact .inl (view_endWorkflow _ recorded)
    · exact .inr ((view_modifyTask (fun _ => by rfl) _ x).trans withdrawn)
    · split
      · next submitted handed =>
        split at handed
        · cases handed
        · rw [TaskLeases.submitRecovery_eq] at handed
          split at handed
          · cases handed
          · obtain rfl := Option.some.inj handed
            exact .inr ((view_handOver _ x _).trans withdrawn)
      · refine .inl (view_cancelWorkflow _ ?_)
        rw [view_modifyTask (fun _ => by rfl), view_markStopped, recorded]
  · exact .inl (view_endWorkflow _ recorded)

/-- A failure whose error is not retryable ends the workflow of the task. -/
theorem retryOrFailTask_followed
    (found : state.tasks.get? x = some task)
    (assessment : Assessment)
    (final : error.get "retryable" = .bool false) :
    Followed (view state) (view (state.retryOrFailTask x error assessment)) := by
  rw [TaskLeases.retryOrFailTask_final found assessment final,
    view_endWorkflow _ (view_modifyTask (fun _ => by rfl) state x)]
  exact followed_endWorkflow _ _

/-! ## Steps of the scheduler -/

theorem failIfTimedOut_followed
    (timedOut : ℕ → Option (PyStr × Assessment))
    (state : State)
    (x : ℕ) :
    Followed (view state) (view (state.failIfTimedOut timedOut x)) := by
  unfold State.failIfTimedOut
  split
  · next task message assessment found _ =>
    split
    · exact retryOrFailTask_followed found assessment
        (TaskLeases.makeErrorEnvelope_final (by simp [TaskLeases.schedulerErrors]) _ _ _)
    · exact .refl _
  · exact .refl _

theorem drainRecovery_followed
    (state : State)
    (recovery : TaskLeases.PendingRecovery) :
    Followed (view state) (view (state.drainRecovery recovery)) := by
  unfold State.drainRecovery
  split
  · exact .refl _
  · next info assessment _ =>
    have failed :
        ∀ released : State, view released = view state → released.tasks = state.tasks →
          state.isValid recovery = true →
            Followed (view state)
              (view (released.retryOrFailTask recovery.task
                (exceptionToErrorEnvelope "resource_cleanup_failed" info .null
                  assessment.timestamp)
                assessment)) := by
      intro released same tasks valid
      cases found : state.tasks.get? recovery.task with
      | none => simp [State.isValid, found] at valid
      | some task =>
          rw [← same]
          exact retryOrFailTask_followed (by rw [tasks, found]) assessment
            (TaskLeases.cleanupFailed_final info _)
    refine Followed.trans ?_ (.unseen rfl)
    split
    · next valid =>
      split
      · exact failed _ rfl rfl valid
      · exact failed state rfl rfl valid
    · exact .refl _
  · dsimp only
    split
    · exact .unseen (view_modifyTask (fun _ => by rfl) _ _)
    · exact .unseen rfl

theorem foldl_followed
    {Item : Type}
    {body : State → Item → State}
    (each : ∀ state item, Followed (view state) (view (body state item)))
    (items : List Item)
    (state : State) :
    Followed (view state) (view (items.foldl body state)) := by
  induction items generalizing state with
  | nil => exact .refl _
  | cons item rest inductionHypothesis =>
      exact (each state item).trans (inductionHypothesis (body state item))

theorem workflowOf_of_found
    (found : state.tasks.get? x = some task) :
    state.workflowOf x = some task.workflowId := by
  rw [State.workflowOf, found, Option.map_some]

/-- A new registration is the registration of a task that has been received. -/
theorem addTask_followed
    (found : state.workflowOf x = some task.workflowId)
    (unmarked : task.workflowId ∉ state.stoppedWorkflows)
    (added : state.addTask x task = some next) :
    Followed (view state) (view next) ∧ next.tasks = state.tasks := by
  unfold State.addTask at added
  dsimp only at added
  split at added
  · next absent =>
    obtain rfl := Option.some.inj added
    refine ⟨fun registry shows_ => ?_, rfl⟩
    set after : State :=
      { state with
        workflows :=
          state.workflows.set task.workflowId
            (((state.workflows.get? task.workflowId).getD .empty).set task.taskId x) }
    have registers :
        ∀ workflowId taskId y,
          (view after).Registered workflowId taskId y ↔
            (workflowId = task.workflowId ∧ taskId = task.taskId ∧ y = x) ∨
              (view state).Registered workflowId taskId y := by
      intro workflowId taskId y
      simp only [View.Registered, view, after, Table.get?_set]
      by_cases same : workflowId = task.workflowId
      · subst same
        simp only [if_pos, Option.bind_some, Table.get?_set, true_and]
        cases known : state.workflows.get? task.workflowId with
        | none =>
            by_cases sameTask : taskId = task.taskId <;> simp [sameTask, eq_comm]
        | some workflow =>
            rw [known, Option.getD_some] at absent
            by_cases sameTask : taskId = task.taskId <;> simp [sameTask, absent, eq_comm]
      · simp [same]
    have heard := shows_.heard x task.workflowId found
    have free : task.workflowId ∉ registry.stopped := fun inside =>
      unmarked ((shows_.stopped _).mp inside)
    refine ⟨[.register task.workflowId task.taskId],
      { registry with
        registered := (task.workflowId, task.taskId) :: registry.registered },
      by simp only [run?_cons, step?, if_pos (And.intro heard free)]; rfl,
      { heard := shows_.heard
        registered := fun other name => ?_
        stopped := shows_.stopped
        named := fun other name y registered => ?_ }⟩
    · simp only [List.mem_cons, Prod.mk.injEq, shows_.registered, registers,
        exists_or, exists_and_left, exists_eq, and_true]
    · rcases (registers other name y).mp registered with ⟨rfl, _, rfl⟩ | registered
      · exact found
      · exact shows_.named other name y registered
  · split at added
    · obtain rfl := Option.some.inj added
      exact ⟨.refl _, rfl⟩
    · cases added

theorem failQueued_followed
    (found : state.tasks.get? x = some task)
    (message : PyStr)
    (assessment : Assessment) :
    Followed (view state) (view (state.failQueued x message assessment)) := by
  have popped :
      view
          (state.modifyTask x fun task =>
            { task with
              status := .ready
              place := .taken }) =
        view state :=
    view_modifyTask (fun _ => by rfl) state x
  rw [← popped]
  have there :
      (state.modifyTask x fun task =>
          { task with
            status := .ready
            place := .taken }).tasks.get? x =
        some
          { task with
            status := .ready
            place := .taken } := by
    simp [State.modifyTask, found]
  exact retryOrFailTask_followed there assessment
    (TaskLeases.makeErrorEnvelope_final (by simp [TaskLeases.schedulerErrors]) _ _ _)

/-- A runtime that is received is one of a workflow that has been heard of. -/
theorem receiveTask_followed
    (unmarked : task.workflowId ∉ state.stoppedWorkflows)
    (absent : state.tasks.contains x = false) :
    Followed (view state) (view { state with tasks := state.tasks.set x task }) := by
  have unknown : state.tasks.get? x = none := by
    simpa [Table.contains] using absent
  have known :
      ∀ y workflowId,
        (view { state with tasks := state.tasks.set x task }).workflowOf y =
            some workflowId ↔
          (y = x ∧ workflowId = task.workflowId) ∨
            state.workflowOf y = some workflowId := by
    intro y workflowId
    by_cases here : y = x <;> simp [view, State.workflowOf, here, unknown, eq_comm]
  intro registry shows_
  have free : task.workflowId ∉ registry.stopped := fun inside =>
    unmarked ((shows_.stopped _).mp inside)
  refine ⟨[.receive task.workflowId],
    { registry with heard := task.workflowId :: registry.heard },
    by simp only [run?_cons, step?, if_neg free]; rfl,
    { shows_ with
      heard := fun y other found => ?_
      named := fun other taskId y registered =>
        (known y other).mpr (.inr (shows_.named other taskId y registered)) }⟩
  rcases (known y other).mp found with ⟨_, rfl⟩ | found
  · exact List.mem_cons_self
  · exact List.mem_cons_of_mem _ (shows_.heard y other found)

/-- A task that cannot be started fails with an error that is not retryable. -/
theorem runTaskWithLease_followed
    (task : Task)
    (found : state.tasks.get? x = some task)
    (named : Task)
    (placement : TaskLeases.Placement)
    (candidate : ResourceManager.Candidate)
    (outcome : TaskLeases.RunOutcome) :
    Followed (view state)
      (view (state.runTaskWithLease x named placement candidate outcome)) := by
  have schedulerError : ("scheduler_error" : PyStr) ∈ TaskLeases.schedulerErrors := by
    simp [TaskLeases.schedulerErrors]
  have final := TaskLeases.exceptionToErrorEnvelope_final schedulerError
  cases outcome with
  | started => exact .unseen (view_modifyTask (fun _ => by rfl) state x)
  | observerRaises info assessment =>
      have released : (state.release (some placement.leaseId)).tasks.get? x = some task :=
        found
      exact retryOrFailTask_followed released assessment (final _ _ _)
  | runTaskRaises info assessment =>
      have begun : view (state.modifyTask x (TaskLeases.beginTask placement)) = view state :=
        view_modifyTask (fun _ => by rfl) state x
      have there :
          ((state.modifyTask x (TaskLeases.beginTask placement)).release
              (some placement.leaseId)).tasks.get? x =
            some (TaskLeases.beginTask placement task) := by
        simp [State.release, State.modifyTask, found]
      rw [← begun]
      exact retryOrFailTask_followed there assessment (final _ _ _)

theorem placeTask_followed
    (found : state.tasks.get? x = some task)
    (placed :
      state.placeTask? strings x named placement refusal outcome = some next) :
    Followed (view state) (view next) := by
  unfold State.placeTask? at placed
  dsimp only at placed
  split at placed
  · cases placed
  · split at placed
    · obtain rfl := Option.some.inj placed
      exact .unseen (view_modifyTask (fun _ => by rfl) _ x)
    · next message assessment =>
      obtain rfl := Option.some.inj placed
      refine Followed.trans ?_ (failQueued_followed (by exact found) message assessment)
      exact .unseen rfl
  · next candidate _ =>
    obtain rfl := Option.some.inj placed
    refine Followed.trans ?_ (runTaskWithLease_followed { task with place := .taken }
      ?_ named placement candidate outcome)
    · exact .unseen (view_take state x)
    · simp [State.modifyTask, found]

/-- The submit loop registers the head before it looks for a node. -/
theorem dispatch_followed
    (found : state.tasks.get? x = some task)
    (unmarked : task.workflowId ∉ state.stoppedWorkflows)
    (dispatched : state.dispatch? strings x task placement refusal outcome = some next) :
    Followed (view state) (view next) := by
  unfold State.dispatch? at dispatched
  dsimp only at dispatched
  rw [Option.bind_eq_some_iff] at dispatched
  obtain ⟨registered, added, placed⟩ := dispatched
  have ready :
      view (state.modifyTask x fun task => { task with status := .ready }) = view state :=
    view_modifyTask (fun _ => by rfl) state x
  have there := (congrFun (congrArg View.workflowOf ready) x).trans
    (workflowOf_of_found found)
  obtain ⟨registers, tasks⟩ := addTask_followed there unmarked added
  have current :
      registered.tasks.get? x = some { task with status := .ready } := by
    rw [tasks]
    simp [State.modifyTask, found]
  rw [← ready]
  exact registers.trans (placeTask_followed current placed)

/-- The failure of a published task may withdraw the mark: it is registered. -/
theorem failAttempt_followed
    (published : state.publishedTask? x = some task)
    (error : PyDict)
    (assessment : Assessment) :
    Followed (view state) (view (state.retryOrFailTask x error assessment)) := by
  obtain ⟨found, passes⟩ := Option.filter_eq_some_iff.mp published
  simp only [Bool.and_eq_true, decide_eq_true_eq] at passes
  obtain ⟨⟨workflowId, workflow, taskId, there, listed⟩, _⟩ :=
    (TaskLeases.mem_runningTasks state x).mp passes.2
  intro registry shows_
  have registered : (view state).Registered workflowId taskId x := by
    rw [View.Registered, show (view state).workflows = state.workflows from rfl, there]
    exact listed
  have named : state.workflowOf x = some workflowId :=
    shows_.named workflowId taskId x registered
  rw [workflowOf_of_found found, Option.some.injEq] at named
  rcases view_retryOrFailTask found error assessment with ended | withdrawn
  · rw [ended]
    exact followed_endWorkflow _ _ registry shows_
  · rw [withdrawn]
    exact followed_unmarkStopped (fun _ => ⟨taskId, x, named ▸ registered⟩) registry shows_

/-- Every step of the scheduler is followed by the registry. -/
theorem step_followed
    {action : TaskLeases.Action}
    (stepped : TaskLeases.step? strings state action = some next) :
    Followed (view state) (view next) := by
  cases action with
  | receiveTask x task =>
      obtain ⟨⟨_, unmarked, absent⟩, ⟨⟩⟩ := Option.ite_none_right_eq_some.mp stepped
      exact receiveTask_followed unmarked absent
  | rejectTask workflowId =>
      obtain rfl := Option.some.inj stepped
      rw [view_endWorkflow workflowId rfl]
      exact followed_endWorkflow _ _
  | stopWorkflow workflowId =>
      obtain rfl := Option.some.inj stepped
      rw [view_endWorkflow workflowId rfl]
      exact followed_endWorkflow _ _
  | clearWorkflow workflowId =>
      obtain rfl := Option.some.inj stepped
      rw [view_clearWorkflowRequest]
      exact followed_endWorkflow _ _
  | discardStopped x =>
      simp only [TaskLeases.step?] at stepped
      split at stepped
      · obtain ⟨_, ⟨⟩⟩ := Option.ite_none_right_eq_some.mp stepped
        exact .unseen (view_modifyTask (fun _ => by rfl) state x)
      · cases stepped
  | exceedCapacity x message assessment =>
      simp only [TaskLeases.step?] at stepped
      split at stepped
      · next task queued =>
        obtain ⟨_, ⟨⟩⟩ := Option.ite_none_left_eq_some.mp stepped
        exact failQueued_followed (Option.filter_eq_some_iff.mp queued).1 message
          assessment
      · cases stepped
  | waitForModel x =>
      simp only [TaskLeases.step?] at stepped
      split at stepped
      · obtain ⟨_, ⟨⟩⟩ := Option.ite_none_left_eq_some.mp stepped
        exact .unseen (view_modifyTask (fun _ => by rfl) state x)
      · cases stepped
  | supersede x =>
      simp only [TaskLeases.step?] at stepped
      split at stepped
      · obtain ⟨_, ⟨⟩⟩ := Option.ite_none_left_eq_some.mp stepped
        exact .unseen (view_modifyTask (fun _ => by rfl) state x)
      · cases stepped
  | dispatch x placement refusal outcome =>
      simp only [TaskLeases.step?] at stepped
      split at stepped
      · next task queued =>
        simp only [Option.ite_none_left_eq_some, not_or] at stepped
        obtain ⟨⟨unmarked, _⟩, dispatched⟩ := stepped
        exact dispatch_followed (Option.filter_eq_some_iff.mp queued).1 unmarked
          dispatched
      · cases stepped
  | publishDispatch x =>
      obtain rfl := Option.some.inj stepped
      exact .unseen (view_modifyTask (fun _ => by rfl) state x)
  | wakeModelWaiter x =>
      simp only [TaskLeases.step?] at stepped
      split at stepped
      · obtain ⟨_, ⟨⟩⟩ := Option.ite_none_right_eq_some.mp stepped
        exact .unseen (view_modifyTask (fun _ => by split <;> rfl) state x)
      · cases stepped
  | failModelWaiter x errorType message assessment =>
      simp only [TaskLeases.step?] at stepped
      split at stepped
      · next task found =>
        obtain ⟨_, stepped⟩ := Option.ite_none_right_eq_some.mp stepped
        have there :
            (state.modifyTask x fun task => { task with place := .taken }).tasks.get? x =
              some { task with place := .taken } := by
          simp [State.modifyTask, found]
        split at stepped
        · obtain rfl := Option.some.inj stepped
          exact .unseen (view_take state x)
        · obtain rfl := Option.some.inj stepped
          rw [← view_take state x]
          exact retryOrFailTask_followed there assessment
            (makeErrorEnvelope_retryable _ _ _ _ _)
      · cases stepped
  | finishTask x =>
      simp only [TaskLeases.step?] at stepped
      split at stepped
      · obtain rfl := Option.some.inj stepped
        have finished :
            view (state.modifyTask x fun task => { task with status := .finished }) =
              view state :=
          view_modifyTask (fun _ => by rfl) state x
        exact .unseen finished
      · cases stepped
  | failAttempt x error assessment =>
      simp only [TaskLeases.step?] at stepped
      split at stepped
      · next task published =>
        obtain rfl := Option.some.inj stepped
        exact failAttempt_followed published error assessment
      · cases stepped
  | failTimedOutTasks timedOut =>
      obtain rfl := Option.some.inj stepped
      exact foldl_followed (failIfTimedOut_followed timedOut) _ state
  | enqueueRetry x =>
      simp only [TaskLeases.step?] at stepped
      split at stepped
      · obtain ⟨_, ⟨⟩⟩ := Option.ite_none_right_eq_some.mp stepped
        exact .unseen (view_modifyTask (fun _ => by rfl) state x)
      · cases stepped
  | completeCleanup identity result =>
      obtain rfl := Option.some.inj stepped
      exact .unseen rfl
  | drainRecoveries =>
      obtain rfl := Option.some.inj stepped
      rw [State.drainRecoveries]
      refine Followed.trans ?_ (foldl_followed drainRecovery_followed _ _)
      exact .unseen rfl
  | callResourceManager action =>
      simp only [TaskLeases.step?, Option.ite_none_right_eq_some,
        Option.map_eq_some_iff] at stepped
      obtain ⟨_, manager, _, rfl⟩ := stepped
      exact .unseen rfl

end Operations

/-! ## Runs of the scheduler -/

theorem shows_initial
    (head : ResourceManager.HeadNode)
    (schedulingPolicy : SchedulingPolicy) :
    Shows (view (TaskLeases.initial head schedulingPolicy)) .initial where
  heard x workflowId found := by
    simp [view, TaskLeases.initial, State.workflowOf] at found
  registered workflowId taskId := by
    simp [view, TaskLeases.initial, View.Registered, Registry.initial]
  stopped workflowId := Iff.rfl
  named workflowId taskId x registered := by
    simp [view, TaskLeases.initial, View.Registered] at registered

/-- Every run of the scheduler is followed by a run of the registry. -/
theorem run_followed
    {strings : Strings}
    {state final : State}
    {actions : List TaskLeases.Action}
    (executed : run? (TaskLeases.step? strings) state actions = some final) :
    Followed (view state) (view final) :=
  run?_invariant (fun _ _ _ earlier stepped => Followed.trans earlier (step_followed stepped))
    (.refl _) executed

/--
A workflow that is marked as stopped and of which no task is registered stays so,
whatever the scheduler does next, even if failed attempts of it are still retried.
-/
theorem ended_workflow_stays_ended
    {strings : Strings}
    {head : ResourceManager.HeadNode}
    {schedulingPolicy : SchedulingPolicy}
    {state final : State}
    {actions later : List TaskLeases.Action}
    {workflowId : Identifier}
    (executed :
      run? (TaskLeases.step? strings) (TaskLeases.initial head schedulingPolicy)
        actions = some state)
    (marked : workflowId ∈ state.stoppedWorkflows)
    (cleared : ∀ taskId x, ¬ registeredAs state workflowId taskId x)
    (continued : run? (TaskLeases.step? strings) state later = some final) :
    workflowId ∈ final.stoppedWorkflows ∧
      ∀ taskId x, ¬ registeredAs final workflowId taskId x := by
  obtain ⟨_, registry, _, shown⟩ :=
    run_followed executed .initial (shows_initial head schedulingPolicy)
  have ended : registry.Ended workflowId :=
    ⟨(shown.stopped workflowId).mpr marked, fun taskId inside => by
      obtain ⟨x, registered⟩ := (shown.registered workflowId taskId).mp inside
      exact cleared taskId x registered⟩
  obtain ⟨moves, last, moved, shownLast⟩ := run_followed continued registry shown
  have kept := ended_run ended moved
  exact ⟨(shownLast.stopped workflowId).mp kept.stopped, fun taskId x registered =>
    kept.unregistered taskId ((shownLast.registered workflowId taskId).mpr ⟨x, registered⟩)⟩

/-- The workflow is stopped while a failed attempt of it is cleaned up. -/
def stoppedDuringRecovery : List TaskLeases.Action :=
  TaskLeases.dispatchActions ++
    [.failAttempt 0 TaskLeases.outOfMemory (TaskLeases.reanchored .modelInstance),
      .stopWorkflow TaskLeases.someRun]

/-- The cleanup ends, and the attempt comes back. -/
def recoveryEnds : List TaskLeases.Action :=
  [.completeCleanup TaskLeases.callerAttempt TaskLeases.cleanupRaised, .drainRecoveries]

/-- The failed attempt of a stopped workflow is not retried. -/
theorem stopped_recovery_stays_ended :
    ∃ state final,
      run? (TaskLeases.step? ResourceManager.plainStrings) state recoveryEnds =
          some final ∧
        TaskLeases.someRun ∈ final.stoppedWorkflows ∧
          ∀ taskId x, ¬ registeredAs final TaskLeases.someRun taskId x := by
  have stopped :
      ((run? (TaskLeases.step? ResourceManager.plainStrings)
          (TaskLeases.initial ResourceManager.plainHead .default)
          stoppedDuringRecovery).any fun state =>
        decide (TaskLeases.someRun ∈ state.stoppedWorkflows) &&
          (state.workflows.get? TaskLeases.someRun).isNone &&
          (run? (TaskLeases.step? ResourceManager.plainStrings) state
            recoveryEnds).isSome) = true := by
    decide +kernel
  obtain ⟨state, executed, holds⟩ := (Option.any_eq_true _ _).mp stopped
  simp only [Bool.and_eq_true, decide_eq_true_eq, Option.isNone_iff_eq_none] at holds
  obtain ⟨⟨marked, cleared⟩, continues⟩ := holds
  obtain ⟨final, continued⟩ := Option.isSome_iff_exists.mp continues
  have unregistered : ∀ taskId x, ¬ registeredAs state TaskLeases.someRun taskId x := by
    intro taskId x registered
    rw [registeredAs, cleared] at registered
    cases registered
  exact ⟨state, final, continued,
    ended_workflow_stays_ended executed marked unregistered continued⟩

end Maze.Scheduler.WorkflowRegistry
