import Maze.Library.Transition
import Maze.Scheduler.TaskRuntime

namespace Maze.Scheduler.TaskLifecycle

open Maze.Python
open Maze.Core.AttemptGate
open Maze.Library.Transition

/-!
# The lifecycle of one task between the scheduler and Core

A task moves between the scheduler's ready queue, the model-wait set, its
worker and the recovery coordinator. Every message it causes reaches Core's gate
in the order in which it is sent. What the scheduler does not decide (the
placement, the error a worker reports, the diagnosis of a failure) is part of
the action.
-/

/-- Where the scheduler holds the task. -/
inductive Phase where
  | arriving
  | queued
  | modelWaiting
  | running
  | recovering
  | retrySent
  | ended
  deriving DecidableEq

/-- The outcome of `apply_repair_action`. -/
inductive RepairAction where
  | notApplied
  | applied (resources : PyVal)
  | resourceReanchor (cleanupSubmitted : Bool) (cleanupError : ExceptionInfo)

/-- What `_retry_or_fail_task` learns about a failure besides the error. -/
structure Assessment where
  memoryFailure : Option PyDict
  recoverable : Bool
  repairAction : RepairAction
  timestamp : PyStr
  metrics : PyVal
  timing : AttemptTiming

/-- The scheduler's task together with Core's gate. -/
structure System where
  task : TaskRuntime
  phase : Phase
  core : Gate

/-- What one scheduler step does to the task, and the message it sends. -/
structure Effect where
  task : TaskRuntime
  phase : Phase
  message : Option TaskMessage

/-- The steps of the scheduler that concern the task. -/
inductive Action where
  /-- `TaskRuntime(...)` succeeds and the task is queued. -/
  | construct
  /-- `TaskRuntime(...)` raises. -/
  | rejectAtConstruction (info : ExceptionInfo) (timestamp : PyStr)
  /-- No node can run the task now. -/
  | pend (decision : ScheduleDecision)
  /-- `_wait_for_model`. -/
  | waitForModel (decision : ScheduleDecision)
  /-- `_wake_model_waiters`. -/
  | wakeModelWaiter
  /-- `_fail_model_waiters`. -/
  | failModelWaiter (errorType message : PyStr) (assessment : Assessment)
  /-- The request exceeds the capacity of every eligible GPU. -/
  | exceedCapacity (message : PyStr) (assessment : Assessment)
  /-- `run_task` succeeds. -/
  | dispatch
      (dispatchId leaseId : Identifier)
      (node : SelectedNode)
      (decision : ScheduleDecision)
      (startedAt : PyVal)
  /-- `resource_observer_for_route` raises before `begin_attempt`. -/
  | observerFails
      (decision : ScheduleDecision)
      (info : ExceptionInfo)
      (assessment : Assessment)
  /-- `run_task` raises after `begin_attempt`. -/
  | runTaskFails
      (dispatchId leaseId : Identifier)
      (decision : ScheduleDecision)
      (info : ExceptionInfo)
      (assessment : Assessment)
  /-- The worker returns a result. -/
  | finish
      (result manifest metrics : PyVal)
      (timing : AttemptTiming)
  /-- The worker reports an error, is lost, is cancelled or times out. -/
  | failAttempt (error : PyDict) (assessment : Assessment)
  /-- The `task_retry` message has been sent. -/
  | enqueueRetry
  /-- The recovery of the attempt has completed. -/
  | recoveryCompleted (error : PyDict) (adjustedResources : PyVal)
  /-- The recovery of the attempt has raised. -/
  | recoveryFailed (info : ExceptionInfo) (assessment : Assessment)
  /-- The workflow is stopped or cleared. -/
  | stop

/-- The final failure: `_send_task_exception`. -/
def failTask
    (task : TaskRuntime)
    (error : PyDict) :
    Effect where
  task := task
  phase := .ended
  message := some (sendTaskException task error)

/-- `_retry_or_fail_task` records the metrics and the timing of the attempt. -/
def recordOutcome
    (task : TaskRuntime)
    (assessment : Assessment) :
    TaskRuntime :=
  { task with
    lastMetrics := assessment.metrics
    lastAttemptTiming := some assessment.timing }

/-- `_retry_or_fail_task`. -/
def retryOrFailTask
    (task : TaskRuntime)
    (error : PyDict)
    (assessment : Assessment) :
    Effect :=
  let error :=
    enrichErrorForTask error task assessment.memoryFailure assessment.timestamp
  let task := recordOutcome task assessment
  if task.shouldRetry error && assessment.recoverable then
    match assessment.repairAction with
    | .notApplied => failTask task error
    | .applied resources =>
        let task := { task with resources := resources }
        { task := task
          phase := .retrySent
          message := some (sendTaskRetry task error) }
    | .resourceReanchor true _ =>
        { task := task
          phase := .recovering
          message := none }
    | .resourceReanchor false cleanupError =>
        -- The nested call cannot retry: `resource_cleanup_failed` is not
        -- retryable by default.
        let task :=
          { task with
            maxRetries := 0
            lastMetrics := .null }
        let error :=
          exceptionToErrorEnvelope
            "resource_cleanup_failed" cleanupError .null assessment.timestamp
        failTask task
          (enrichErrorForTask error task
            assessment.memoryFailure assessment.timestamp)
  else
    failTask task error

/-- One step of the scheduler, if the task is where the step needs it. -/
def perform?
    (task : TaskRuntime)
    (phase : Phase) :
    Action → Option Effect
  | .construct =>
      if phase = .arriving then
        some ⟨task, .queued, none⟩
      else
        none
  | .rejectAtConstruction info timestamp =>
      if phase = .arriving then
        some ⟨task, .ended,
          some (sendTaskRejected (.str task.workflowId.val) (.str task.taskId.val)
            (.str task.taskKind) task.resources info timestamp)⟩
      else
        none
  | .pend decision =>
      if phase = .queued then
        some ⟨{ task with lastScheduleDecision := some decision }, .queued, none⟩
      else
        none
  | .waitForModel decision =>
      if phase = .queued then
        some ⟨{ task with lastScheduleDecision := some decision },
          .modelWaiting, none⟩
      else
        none
  | .wakeModelWaiter =>
      if phase = .modelWaiting then
        some ⟨task, .queued, none⟩
      else
        none
  | .failModelWaiter errorType message assessment =>
      if phase = .modelWaiting then
        some (retryOrFailTask task
          (makeErrorEnvelope errorType message (some false)
            (.int task.attempt) assessment.timestamp)
          assessment)
      else
        none
  | .exceedCapacity message assessment =>
      if phase = .queued then
        some (retryOrFailTask task
          (makeErrorEnvelope "resource_capacity_exceeded" message none
            .null assessment.timestamp)
          assessment)
      else
        none
  | .dispatch dispatchId leaseId node decision startedAt =>
      if phase = .queued then
        let task :=
          { (task.beginAttempt dispatchId leaseId) with
            lastScheduleDecision := some decision
            selectedNode := some node }
        some ⟨task, .running,
          some (startTaskMessage task task.queueName node startedAt)⟩
      else
        none
  | .observerFails decision info assessment =>
      if phase = .queued then
        let task := { task with lastScheduleDecision := some decision }
        some (retryOrFailTask task
          (exceptionToErrorEnvelope "scheduler_error" info
            (.int task.attempt) assessment.timestamp)
          assessment)
      else
        none
  | .runTaskFails dispatchId leaseId decision info assessment =>
      if phase = .queued then
        let task :=
          { (task.beginAttempt dispatchId leaseId) with
            lastScheduleDecision := some decision }
        some (retryOrFailTask task
          (exceptionToErrorEnvelope "scheduler_error" info
            (.int task.attempt) assessment.timestamp)
          assessment)
      else
        none
  | .finish result manifest metrics timing =>
      if phase = .running then
        some ⟨{ task with fileManifest := manifest }, .ended,
          some (finishTaskMessage task result manifest metrics timing)⟩
      else
        none
  | .failAttempt error assessment =>
      if phase = .running then
        some (retryOrFailTask task error assessment)
      else
        none
  | .enqueueRetry =>
      if phase = .retrySent then
        some ⟨task.clearAttemptIdentity, .queued, none⟩
      else
        none
  | .recoveryCompleted error adjustedResources =>
      if phase = .recovering then
        let task := { task with resources := adjustedResources }
        some ⟨task, .retrySent, some (sendTaskRetry task error)⟩
      else
        none
  | .recoveryFailed info assessment =>
      if phase = .recovering then
        some (retryOrFailTask task
          (exceptionToErrorEnvelope "resource_cleanup_failed" info
            .null assessment.timestamp)
          assessment)
      else
        none
  | .stop => some ⟨task, .ended, none⟩

/-- Core's gate after a message; a rejected message changes nothing. -/
def deliver
    (core : Gate)
    (message : TaskMessage) :
    Gate :=
  match acceptTaskAttemptEvent message.messageType message.data core with
  | .ok (some accepted) => accepted
  | _ => core

/-- One scheduler step followed by Core's handling of its message. -/
def step?
    (system : System)
    (action : Action) :
    Option System :=
  (perform? system.task system.phase action).map fun effect =>
    { task := effect.task
      phase := effect.phase
      core :=
        match effect.message with
        | some message => deliver system.core message
        | none => system.core }

end Maze.Scheduler.TaskLifecycle
