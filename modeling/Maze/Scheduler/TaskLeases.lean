import Maze.Library.Transition
import Maze.Scheduler.TaskRuntime
import Maze.Scheduler.ResourceManager

namespace Maze.Scheduler.TaskLeases

open Maze.Python
open Maze.Library
open Maze.Library.Transition

/-!
# The tasks of the scheduler and their leases

The submit, supervisor and receive threads under the scheduler's lock: a task is
registered with its workflow and dispatched on a lease of the resource manager,
it finishes or fails, and a failure for lack of GPU memory hands its lease to the
recovery coordinator. Stopping, clearing, rejecting and finally failing a
workflow take its tasks out of the workflow manager at any of these points.

A step is what a thread does under one hold of the lock, or one effect of the
message flush. The order of the ready queues is left open: any queued task may be
the next one. What Ray, the model instances and the diagnosis of a failure decide
is part of the action.
-/

/-- `task.status`. -/
inductive Status where
  | ready
  | pending
  | running
  | recovering
  | retrying
  | finished
  deriving DecidableEq

/-- Which collection of the scheduler waits for the task. -/
inductive Place where
  /-- One of the ready queues. -/
  | queued
  /-- The model-wait set. -/
  | modelWaiting
  /-- The message flush, which queues the task once `task_retry` is sent. -/
  | retrySent
  /-- None of them. -/
  | taken
  deriving DecidableEq

/-- A runtime with what decides about its dispatch and its lease. -/
structure Task extends TaskRuntime where
  request : ResourceRequest
  modelAnchor : PyDict
  status : Status
  dispatchPublished : Bool
  place : Place

/-- `(task.attempt, task.dispatch_id, task.lease_id)`. -/
structure AttemptIdentity where
  attempt : ℕ
  dispatchId : Option Identifier
  leaseId : Option Identifier
  deriving DecidableEq

/-- The identity of the attempt that the task is at. -/
def Task.identity (task : Task) : AttemptIdentity :=
  ⟨task.attempt, task.dispatchId, task.leaseId⟩

/-- `repair["scope"]`. -/
inductive RecoveryScope where
  | task
  | modelInstance
  deriving DecidableEq

/-- The outcome of `apply_repair_action`. -/
inductive RepairAction where
  | notApplied
  | applied (request : ResourceRequest)
  | resourceReanchor
      (scope : RecoveryScope)
      (request : ResourceRequest)
      (instanceCleanup : Except ExceptionInfo Unit)

/-- What `_retry_or_fail_task` learns about a failure besides the error. -/
structure Assessment where
  memoryFailure : Option PyDict
  recoverable : Bool
  repairAction : RepairAction
  timestamp : PyStr
  metrics : PyVal
  timing : AttemptTiming

/-- How the cleanup of a recovery has ended. -/
inductive CleanupResult where
  | returned
  | raised (info : ExceptionInfo) (assessment : Assessment)

/-- `PendingRecovery`; the task is named by its runtime. -/
structure PendingRecovery where
  task : ℕ
  identity : AttemptIdentity
  error : PyDict
  scope : RecoveryScope
  request : ResourceRequest
  future : Option CleanupResult

/--
The scheduler. Runtimes are told apart by a number. No code reads the last two
fields: `unverified` keeps the recoveries that were dropped because their cleanup
had raised, `issuedLeases` the ids that have been drawn.
-/
structure State where
  resourceManager : ResourceManager
  tasks : Table ℕ Task
  workflows : Table Identifier (Table Identifier ℕ)
  stoppedWorkflows : List Identifier
  recoveries : List PendingRecovery
  unverified : List PendingRecovery
  issuedLeases : List PyStr

/-! ## The workflow manager -/

/-- Change a runtime. -/
def State.modifyTask
    (x : ℕ)
    (change : Task → Task)
    (state : State) :
    State :=
  { state with tasks := state.tasks.modify x change }

/-- Whether the runtime has the status `running`. -/
def State.isRunning
    (state : State)
    (x : ℕ) :
    Bool :=
  match state.tasks.get? x with
  | none => false
  | some task => task.status = .running

/-- `WorkflowRuntime.get_running_tasks`. -/
def State.runningIn
    (state : State)
    (workflow : Table Identifier ℕ) :
    List ℕ :=
  (workflow.entries.map Prod.snd).filter state.isRunning

/-- The running tasks that `cancel_workflow` returns. -/
def State.runningOf
    (state : State)
    (workflowId : Identifier) :
    List ℕ :=
  match state.workflows.get? workflowId with
  | none => []
  | some workflow => state.runningIn workflow

/-- `WorkflowRuntimeManager.get_running_tasks`. -/
def State.runningTasks (state : State) : List ℕ :=
  state.workflows.entries.flatMap fun entry => state.runningIn entry.2

/-- Whether the runtime is the one registered for its task. -/
def State.isRegistered
    (state : State)
    (x : ℕ)
    (task : Task) :
    Bool :=
  ((state.workflows.get? task.workflowId).bind fun workflow =>
    workflow.get? task.taskId) = some x

/-- `add_task`; `none` if another runtime is registered for the task. -/
def State.addTask
    (x : ℕ)
    (task : Task)
    (state : State) :
    Option State :=
  let workflow := (state.workflows.get? task.workflowId).getD Table.empty
  match workflow.get? task.taskId with
  | none =>
      some
        { state with
          workflows := state.workflows.set task.workflowId
            (workflow.set task.taskId x) }
  | some other => if other = x then some state else none

/-! ## Leases and the end of a workflow -/

/-- `release_lease`. -/
def State.release
    (leaseId : Option Identifier)
    (state : State) :
    State :=
  { state with
    resourceManager :=
      state.resourceManager.releaseLease (leaseId.map Subtype.val) }

/-- `task.lease_id`. -/
def State.leaseOf
    (state : State)
    (x : ℕ) :
    Option Identifier :=
  (state.tasks.get? x).bind fun task => task.leaseId

/-- What `release_task_resource` does for one of its tasks. -/
def State.releaseTask
    (x : ℕ)
    (state : State) :
    State :=
  state.release (state.leaseOf x)

/-- `release_dag_context`. -/
def State.releaseDagContext
    (workflowId : Identifier)
    (state : State) :
    State :=
  { state with
    resourceManager :=
      { state.resourceManager with
        dagContexts :=
          state.resourceManager.dagContexts.release workflowId.val } }

/-- `_stopped_workflows().add`. -/
def State.markStopped
    (workflowId : Identifier)
    (state : State) :
    State :=
  { state with
    stoppedWorkflows :=
      workflowId :: state.stoppedWorkflows.filter fun other =>
        other ≠ workflowId }

/-- `_stopped_workflows().discard`. -/
def State.unmarkStopped
    (workflowId : Identifier)
    (state : State) :
    State :=
  { state with
    stoppedWorkflows :=
      state.stoppedWorkflows.filter fun other => other ≠ workflowId }

/-- `_remove_model_waiters_for_workflow`. -/
def State.removeModelWaiters
    (workflowId : Identifier)
    (state : State) :
    State :=
  { state with
    tasks := state.tasks.mapValues fun _ task =>
      if task.workflowId = workflowId ∧ task.place = .modelWaiting then
        { task with place := .taken }
      else
        task }

/-- `WorkflowRuntimeManager.clear_workflow`. -/
def State.clearWorkflow
    (workflowId : Identifier)
    (state : State) :
    State :=
  { state with workflows := state.workflows.erase workflowId }

/--
The workflow is cancelled and the leases of its running tasks are released: what
`_stop_workflow_request`, `_terminate_rejected_workflow` and a final failure have
in common.
-/
def State.cancelWorkflow
    (workflowId : Identifier)
    (state : State) :
    State :=
  let state := state.removeModelWaiters workflowId
  let cancelled := state.runningOf workflowId
  let state := state.clearWorkflow workflowId
  (cancelled.foldl (fun state x => state.releaseTask x) state).releaseDagContext
    workflowId

/-- `_clear_workflow_request`. -/
def State.clearWorkflowRequest
    (workflowId : Identifier)
    (state : State) :
    State :=
  (((state.markStopped workflowId).removeModelWaiters workflowId).clearWorkflow
    workflowId).releaseDagContext workflowId

/-! ## Failures -/

/-- `prepare_cleanup`: only the cleanup of a model instance can be refused. -/
def prepareCleanup
    (scope : RecoveryScope)
    (instanceCleanup : Except ExceptionInfo Unit) :
    Except ExceptionInfo Unit :=
  match scope with
  | .task => .ok ()
  | .modelInstance => instanceCleanup

/-- The most recoveries that may be pending. -/
def maxRecoveries : ℕ := 16

/-- `RecoveryCoordinator.submit`. -/
def State.submitRecovery
    (x : ℕ)
    (task : Task)
    (error : PyDict)
    (scope : RecoveryScope)
    (request : ResourceRequest)
    (state : State) :
    Option State :=
  if maxRecoveries ≤ state.recoveries.length then
    none
  else
    some
      { state.modifyTask x fun task => { task with status := .recovering } with
        recoveries :=
          state.recoveries ++ [⟨x, task.identity, error, scope, request, none⟩] }

/-- `_retry_or_fail_task` records the metrics and the timing of the attempt. -/
def recordOutcome
    (assessment : Assessment)
    (task : Task) :
    Task :=
  { task with
    lastMetrics := assessment.metrics
    lastAttemptTiming := some assessment.timing }

/-- `schedule_retry`; the task is queued once the message has been sent. -/
def scheduleRetry
    (request : ResourceRequest)
    (task : Task) :
    Task :=
  { task with
    request := request
    status := .retrying
    place := .retrySent }

/-- `_retry_or_fail_task`. -/
def State.retryOrFailTask
    (x : ℕ)
    (error : PyDict)
    (assessment : Assessment)
    (state : State) :
    State :=
  match state.tasks.get? x with
  | none => state
  | some task =>
      let workflowId := task.workflowId
      let error :=
        enrichErrorForTask error task.toTaskRuntime assessment.memoryFailure
          assessment.timestamp
      let state :=
        (state.modifyTask x (recordOutcome assessment)).markStopped workflowId
      if task.shouldRetry error && assessment.recoverable then
        match assessment.repairAction with
        | .notApplied => state.cancelWorkflow workflowId
        | .applied request =>
            ((state.unmarkStopped workflowId).release task.leaseId).modifyTask x
              (scheduleRetry request)
        | .resourceReanchor scope request instanceCleanup =>
            let submitted :=
              match prepareCleanup scope instanceCleanup with
              | .error _ => none
              | .ok _ =>
                  (state.unmarkStopped workflowId).submitRecovery x task error scope
                    request
            match submitted with
            | some submitted => submitted
            | none =>
                -- The nested call marks the workflow again and cannot retry:
                -- `resource_cleanup_failed` is not retryable by default.
                (state.modifyTask x fun task =>
                  { task with
                    maxRetries := 0
                    lastMetrics := .null }).cancelWorkflow workflowId
      else
        state.cancelWorkflow workflowId

/-! ## The recovery coordinator -/

/-- `valid`: the attempt of the recovery is still that of a registered task. -/
def State.isValid
    (state : State)
    (recovery : PendingRecovery) :
    Bool :=
  match state.tasks.get? recovery.task with
  | none => false
  | some task =>
      state.isRegistered recovery.task task &&
        task.identity = recovery.identity

/-- Whether the workflow of the runtime is marked as stopped. -/
def State.isStopped
    (state : State)
    (x : ℕ) :
    Bool :=
  match state.tasks.get? x with
  | none => false
  | some task => task.workflowId ∈ state.stoppedWorkflows

/-- What `_drain_resource_recoveries` does with one completed recovery. -/
def State.drainRecovery
    (state : State)
    (recovery : PendingRecovery) :
    State :=
  match recovery.future with
  | none => state
  | some (.raised info assessment) =>
      let failed :=
        if state.isValid recovery then
          let released :=
            if recovery.scope = .modelInstance then
              state.release recovery.identity.leaseId
            else
              state
          released.retryOrFailTask recovery.task
            (exceptionToErrorEnvelope "resource_cleanup_failed" info .null
              assessment.timestamp)
            assessment
        else
          state
      { failed with unverified := recovery :: failed.unverified }
  | some .returned =>
      let released := state.release recovery.identity.leaseId
      if state.isValid recovery && !state.isStopped recovery.task then
        released.modifyTask recovery.task (scheduleRetry recovery.request)
      else
        released

/-- The recoveries whose cleanup has ended. -/
def State.completedRecoveries (state : State) : List PendingRecovery :=
  state.recoveries.filter fun recovery => recovery.future.isSome

/-- `_drain_resource_recoveries`. -/
def State.drainRecoveries (state : State) : State :=
  state.completedRecoveries.foldl State.drainRecovery
    { state with
      recoveries :=
        state.recoveries.filter fun recovery => recovery.future.isNone }

/-! ## The deadlines of attempts -/

/-- What `_fail_timed_out_tasks` does with one of the running tasks. -/
def State.failIfTimedOut
    (timedOut : ℕ → Option (PyStr × Assessment))
    (state : State)
    (x : ℕ) :
    State :=
  match state.tasks.get? x, timedOut x with
  | some task, some (message, assessment) =>
      if task.dispatchPublished ∧ task.status = .running then
        state.retryOrFailTask x
          (makeErrorEnvelope "timeout" message none (.int task.attempt)
            assessment.timestamp)
          assessment
      else
        state
  | _, _ => state

/-- `_fail_timed_out_tasks`. -/
def State.failTimedOutTasks
    (timedOut : ℕ → Option (PyStr × Assessment))
    (state : State) :
    State :=
  state.runningTasks.foldl (State.failIfTimedOut timedOut) state

/-! ## Dispatching -/

/-- Whether the task runs on a model instance. -/
def requiresModelRoute (task : Task) : Bool :=
  (ResourceManager.requiredModel task.modelAnchor).truthy

/-- `_task_execution_resources`: a routed task needs no GPU of its own. -/
def executionResources (task : Task) : ResourceRequest :=
  if requiresModelRoute task then
    { task.request with
      gpu := 0
      gpuMem := 0
      gpuMem_nonneg := nothing_nonneg
      gpu_le_one := no_gpu_le_one }
  else
    task.request

/-- What a dispatch draws and meets. -/
structure Placement where
  dispatchId : Identifier
  leaseId : Identifier
  localModels : PyVal
  rayNodes : Option (Table PyStr RayNode)

/-- The call of `select_node`. -/
def selectCall
    (task : Task)
    (placement : Placement) :
    ResourceManager.SelectCall where
  request := executionResources task
  reservationKind := .task
  modelAnchor := if requiresModelRoute task then [] else task.modelAnchor
  workflowId := some task.workflowId.val
  localModels := placement.localModels
  rayNodes := placement.rayNodes
  leaseId := placement.leaseId.val

/-- How `_run_task_with_lease` ends. -/
inductive RunOutcome where
  | started
  | observerRaises (info : ExceptionInfo) (assessment : Assessment)
  | runTaskRaises (info : ExceptionInfo) (assessment : Assessment)

/-- `begin_attempt`. -/
def beginTask
    (placement : Placement)
    (task : Task) :
    Task :=
  { task with
    toTaskRuntime := task.beginAttempt placement.dispatchId placement.leaseId }

/-- The task has started on the node that was selected. -/
def startAttempt
    (placement : Placement)
    (candidate : ResourceManager.Candidate)
    (task : Task) :
    Task :=
  { beginTask placement task with
    selectedNode := some
      ⟨candidate.nodeId, candidate.node.nodeIp, candidate.selectedGpuId⟩
    status := .running
    dispatchPublished := false }

/-- `_run_task_with_lease` and what the submit loop does if it raises. -/
def State.runTaskWithLease
    (x : ℕ)
    (task : Task)
    (placement : Placement)
    (candidate : ResourceManager.Candidate)
    (outcome : RunOutcome)
    (state : State) :
    State :=
  match outcome with
  | .started => state.modifyTask x (startAttempt placement candidate)
  | .observerRaises info assessment =>
      let released := state.release (some placement.leaseId)
      released.retryOrFailTask x
        (exceptionToErrorEnvelope "scheduler_error" info (.int task.attempt)
          assessment.timestamp)
        assessment
  | .runTaskRaises info assessment =>
      let begun := state.modifyTask x (beginTask placement)
      (begun.release (some placement.leaseId)).retryOrFailTask x
        (exceptionToErrorEnvelope "scheduler_error" info (.int (task.attempt + 1))
          assessment.timestamp)
        assessment

/-- A task that asks for more than any GPU has is given up. -/
def State.failQueued
    (x : ℕ)
    (message : PyStr)
    (assessment : Assessment)
    (state : State) :
    State :=
  let popped :=
    state.modifyTask x fun task =>
      { task with
        status := .ready
        place := .taken }
  popped.retryOrFailTask x
    (makeErrorEnvelope "resource_capacity_exceeded" message none .null
      assessment.timestamp)
    assessment

/--
The submit loop for a head that is registered. A refusal makes the task wait, unless
its request exceeds the capacity of every GPU.
-/
def State.placeTask?
    (strings : Strings)
    (x : ℕ)
    (task : Task)
    (placement : Placement)
    (refusal : Option (PyStr × Assessment))
    (outcome : RunOutcome)
    (state : State) :
    Option State :=
  let selected :=
    state.resourceManager.selectNode strings (selectCall task placement)
  let state := { state with resourceManager := selected.2 }
  match selected.1 with
  | .error _ => none
  | .ok none =>
      match refusal with
      | none => some (state.modifyTask x fun task => { task with status := .pending })
      | some (message, assessment) => some (state.failQueued x message assessment)
  | .ok (some candidate) =>
      some <|
        State.runTaskWithLease x task placement candidate outcome
          { state.modifyTask x fun task => { task with place := .taken } with
            issuedLeases := placement.leaseId.val :: state.issuedLeases }

/-- The submit loop for a head whose workflow is not stopped. -/
def State.dispatch?
    (strings : Strings)
    (x : ℕ)
    (task : Task)
    (placement : Placement)
    (refusal : Option (PyStr × Assessment))
    (outcome : RunOutcome)
    (state : State) :
    Option State :=
  let ready := state.modifyTask x fun task => { task with status := .ready }
  (ready.addTask x task).bind fun state =>
    state.placeTask? strings x task placement refusal outcome

/-! ## Steps -/

/-- The future of a recovery that runs the cleanup of the attempt is done. -/
def endCleanup
    (identity : AttemptIdentity)
    (result : CleanupResult)
    (recovery : PendingRecovery) :
    PendingRecovery :=
  if recovery.identity = identity ∧ recovery.future.isNone then
    { recovery with future := some result }
  else
    recovery

/-- A runtime as `TaskRuntime(...)` leaves it. -/
def isNew (task : Task) : Bool :=
  task.attempt = 0 && task.dispatchId = none && task.leaseId = none &&
    task.previousAttemptIdentity = none && task.status = .ready &&
    task.place = .queued

/-- A call of the resource manager about nodes or about model instances. -/
def State.concernsOthers
    (state : State) :
    ResourceManager.Action → Bool
  | .selectNode call =>
      call.reservationKind = .instance_ &&
        call.leaseId ∉ state.issuedLeases
  | .releaseLease leaseId =>
      match leaseId.bind state.resourceManager.activeLeases.get? with
      | none => true
      | some lease => lease.reservationKind = .instance_
  | _ => true

/-- The id that the call draws for a lease. -/
def drawnLeases : ResourceManager.Action → List PyStr
  | .selectNode call => [call.leaseId]
  | _ => []

/-- The steps of the scheduler. -/
inductive Action where
  /-- `_receive_thread`: `run_task`. -/
  | receiveTask (x : ℕ) (task : Task)
  /-- `_receive_thread`: a task is rejected, `_terminate_rejected_workflow`. -/
  | rejectTask (workflowId : Identifier)
  /-- `_receive_thread`: `stop_workflow`. -/
  | stopWorkflow (workflowId : Identifier)
  /-- `_receive_thread`: `clear_workflow`. -/
  | clearWorkflow (workflowId : Identifier)
  /-- `_submit_thread`: the workflow of the head is stopped. -/
  | discardStopped (x : ℕ)
  /-- `_submit_thread`: the head exceeds the capacity of every GPU. -/
  | exceedCapacity (x : ℕ) (message : PyStr) (assessment : Assessment)
  /-- `_submit_thread`: `_wait_for_model`. -/
  | waitForModel (x : ℕ)
  /-- `_submit_thread`: another runtime of the task is registered. -/
  | supersede (x : ℕ)
  /-- `_submit_thread`: a node is selected for the head. -/
  | dispatch
      (x : ℕ)
      (placement : Placement)
      (refusal : Option (PyStr × Assessment))
      (outcome : RunOutcome)
  /-- The `start_task` message has been sent. -/
  | publishDispatch (x : ℕ)
  /-- `_wake_model_waiters`. -/
  | wakeModelWaiter (x : ℕ)
  /-- `_fail_model_waiters`. -/
  | failModelWaiter
      (x : ℕ)
      (errorType message : PyStr)
      (assessment : Assessment)
  /-- `_supervisor_thread`: the worker has returned a result. -/
  | finishTask (x : ℕ)
  /-- `_supervisor_thread`: the worker has failed. -/
  | failAttempt (x : ℕ) (error : PyDict) (assessment : Assessment)
  /-- `_supervisor_thread`: `_fail_timed_out_tasks`. -/
  | failTimedOutTasks (timedOut : ℕ → Option (PyStr × Assessment))
  /-- The `task_retry` message has been sent: `enqueue_retry`. -/
  | enqueueRetry (x : ℕ)
  /-- The cleanup of an attempt has ended. -/
  | completeCleanup (identity : AttemptIdentity) (result : CleanupResult)
  /-- `_supervisor_thread`: `_drain_resource_recoveries`. -/
  | drainRecoveries
  /-- A call of the resource manager that is not about a task. -/
  | callResourceManager (action : ResourceManager.Action)

/-- The runtime is in one of the ready queues. -/
def State.queuedTask?
    (state : State)
    (x : ℕ) :
    Option Task :=
  (state.tasks.get? x).filter fun task => task.place = .queued

/-- A running task whose start has been announced. -/
def State.publishedTask?
    (state : State)
    (x : ℕ) :
    Option Task :=
  (state.tasks.get? x).filter fun task =>
    task.dispatchPublished && x ∈ state.runningTasks

/-- One step of one thread. -/
def step?
    (strings : Strings)
    (state : State) :
    Action → Option State
  | .receiveTask x task =>
      if isNew task ∧ task.workflowId ∉ state.stoppedWorkflows ∧
          state.tasks.contains x = false then
        some { state with tasks := state.tasks.set x task }
      else
        none
  | .rejectTask workflowId | .stopWorkflow workflowId =>
      some ((state.markStopped workflowId).cancelWorkflow workflowId)
  | .clearWorkflow workflowId => some (state.clearWorkflowRequest workflowId)
  | .discardStopped x =>
      match state.queuedTask? x with
      | some task =>
          if task.workflowId ∈ state.stoppedWorkflows then
            some (state.modifyTask x fun task => { task with place := .taken })
          else
            none
      | none => none
  | .exceedCapacity x message assessment =>
      match state.queuedTask? x with
      | some task =>
          if task.workflowId ∈ state.stoppedWorkflows then
            none
          else
            some (state.failQueued x message assessment)
      | none => none
  | .waitForModel x =>
      match state.queuedTask? x with
      | some task =>
          if task.workflowId ∈ state.stoppedWorkflows ∨
              requiresModelRoute task = false then
            none
          else
            some (state.modifyTask x fun task =>
              { task with
                status := .pending
                place := .modelWaiting })
      | none => none
  | .supersede x =>
      match state.queuedTask? x with
      | some task =>
          if task.workflowId ∈ state.stoppedWorkflows ∨
              (state.addTask x task).isSome then
            none
          else
            some (state.modifyTask x fun task =>
              { task with
                status := .ready
                place := .taken })
      | none => none
  | .dispatch x placement refusal outcome =>
      match state.queuedTask? x with
      | some task =>
          if task.workflowId ∈ state.stoppedWorkflows ∨
              placement.leaseId.val ∈ state.issuedLeases then
            none
          else
            state.dispatch? strings x task placement refusal outcome
      | none => none
  | .publishDispatch x =>
      some (state.modifyTask x fun task => { task with dispatchPublished := true })
  | .wakeModelWaiter x =>
      match state.tasks.get? x with
      | some task =>
          if task.place = .modelWaiting then
            some (state.modifyTask x fun task =>
              if task.workflowId ∈ state.stoppedWorkflows then
                { task with place := .taken }
              else
                { task with
                  status := .ready
                  place := .queued })
          else
            none
      | none => none
  | .failModelWaiter x errorType message assessment =>
      match state.tasks.get? x with
      | some task =>
          if task.place = .modelWaiting then
            let state :=
              state.modifyTask x fun task => { task with place := .taken }
            if task.workflowId ∈ state.stoppedWorkflows then
              some state
            else
              some <| state.retryOrFailTask x
                (makeErrorEnvelope errorType message (some false)
                  (.int task.attempt) assessment.timestamp)
                assessment
          else
            none
      | none => none
  | .finishTask x =>
      match state.publishedTask? x with
      | some _ =>
          some ((state.modifyTask x fun task =>
            { task with status := .finished }).releaseTask x)
      | none => none
  | .failAttempt x error assessment =>
      match state.publishedTask? x with
      | some _ => some (state.retryOrFailTask x error assessment)
      | none => none
  | .failTimedOutTasks timedOut => some (state.failTimedOutTasks timedOut)
  | .enqueueRetry x =>
      match state.tasks.get? x with
      | some task =>
          if task.place = .retrySent then
            some (state.modifyTask x fun task =>
              { task with
                toTaskRuntime := task.clearAttemptIdentity
                place := .queued })
          else
            none
      | none => none
  | .completeCleanup identity result =>
      some
        { state with
          recoveries := state.recoveries.map (endCleanup identity result) }
  | .drainRecoveries => some state.drainRecoveries
  | .callResourceManager action =>
      if state.concernsOthers action then
        (ResourceManager.step? strings state.resourceManager action).map
          fun manager =>
            { state with
              resourceManager := manager
              issuedLeases := drawnLeases action ++ state.issuedLeases }
      else
        none

/-- A scheduler without tasks. -/
def initial
    (head : ResourceManager.HeadNode)
    (schedulingPolicy : SchedulingPolicy) :
    State where
  resourceManager := ResourceManager.initial head schedulingPolicy
  tasks := Table.empty
  workflows := Table.empty
  stoppedWorkflows := []
  recoveries := []
  unverified := []
  issuedLeases := []

end Maze.Scheduler.TaskLeases
