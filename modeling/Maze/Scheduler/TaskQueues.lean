import Maze.Scheduler.TaskLeases

namespace Maze.Scheduler.TaskQueues

open Maze.Python
open Maze.Library
open Maze.Library.Transition
open Maze.Scheduler.TaskLeases (Status AttemptIdentity maxRecoveries)

/-!
# Queue entries and messages of the scheduler

The containers that a task goes through, each with its entries: the ready queues, the
model-wait set, the waiters that a thread has taken out of it, the recoveries, and the
messages whose callbacks queue a task again or announce its start.

A step is what a thread does without letting another one in: one hold of the lock, of
the lock of the queues or of that of the waiters, one message that is sent, or one
callback. A thread sends its messages in order and one after the other; here any message
that waits may be the next one. Leases, routes and resources are left out, and what
Ray, the resource manager and the model instances decide is part of the action.
-/

/-- A runtime with what decides about its dispatch. -/
structure Task extends TaskRuntime where
  status : Status
  dispatchPublished : Bool

/-- The identity under which a dispatch is known: its task, its attempt and its id. -/
structure DispatchIdentity where
  workflowId : Identifier
  taskId : Identifier
  attempt : ℕ
  dispatchId : Identifier
  deriving DecidableEq

/-- The identity of the attempt that the task is at. -/
def Task.identity? (task : Task) : Option DispatchIdentity :=
  task.dispatchId.map fun dispatchId =>
    ⟨task.workflowId, task.taskId, task.attempt, dispatchId⟩

/-- The identity that the task had before its attempt was cleared. -/
def Task.previousIdentity? (task : Task) : Option DispatchIdentity :=
  task.previousAttemptIdentity.map fun previous =>
    ⟨task.workflowId, task.taskId, previous.attempt, previous.dispatchId⟩

/-- The messages to Core that concern a dispatch. -/
inductive MessageType where
  | startTask
  | finishTask
  | taskRetry
  | taskException
  deriving DecidableEq

/-- A message to Core with the identity of the dispatch that it carries. -/
structure Message where
  messageType : MessageType
  identity? : Option DispatchIdentity
  deriving DecidableEq

/-- `on_sent`. -/
inductive Callback where
  /-- `dispatch_published` of the runtime is set. -/
  | publishDispatch (x : ℕ)
  /-- `enqueue_retry`. -/
  | enqueueRetry (x : ℕ)
  deriving DecidableEq

/-- An entry of `outbound_messages`. -/
structure Outgoing where
  message : Message
  onSent : Option Callback
  deriving DecidableEq

/-- `PendingRecovery`: the runtime and the identity of its attempt. -/
structure PendingRecovery where
  task : ℕ
  identity : AttemptIdentity
  deriving DecidableEq

/-- `(task.attempt, task.dispatch_id, task.lease_id)`. -/
def Task.attemptIdentity (task : Task) : AttemptIdentity :=
  ⟨task.attempt, task.dispatchId, task.leaseId⟩

/--
The scheduler. Runtimes are told apart by a number. No code reads the last three fields:
`received` has what `max_retries` was when a runtime was made, `begun` the runtime of
every attempt that was begun, `failedLaunches` the dispatches whose launch raised.
-/
structure State where
  tasks : Table ℕ Task
  workflows : Table Identifier (Table Identifier ℕ)
  stoppedWorkflows : List Identifier
  /-- The entries of the three ready queues. -/
  taskQueues : List ℕ
  modelWaiting : List ℕ
  /-- The waiters that `_wake_model_waiters` or `_fail_model_waiters` has taken. -/
  takenWaiters : List ℕ
  recoveries : List PendingRecovery
  outboundMessages : List Outgoing
  /-- The callbacks of messages that have been sent. -/
  callbacks : List Callback
  sent : List Message
  received : Table ℕ ℕ
  begun : List ℕ
  failedLaunches : List DispatchIdentity

namespace State

/-! ## Workflows -/

/-- Change a runtime. -/
def modifyTask
    (x : ℕ)
    (change : Task → Task)
    (state : State) :
    State :=
  { state with tasks := state.tasks.modify x change }

/-- The runtime belongs to the workflow. -/
def isOf
    (state : State)
    (workflowId : Identifier)
    (x : ℕ) :
    Bool :=
  (state.tasks.get? x).any fun task => task.workflowId = workflowId

/-- Whether the runtime is the one registered for its task. -/
def isRegistered
    (state : State)
    (x : ℕ)
    (task : Task) :
    Bool :=
  ((state.workflows.get? task.workflowId).bind fun workflow =>
    workflow.get? task.taskId) = some x

/-- `add_task`; `none` if another runtime is registered for the task. -/
def addTask
    (x : ℕ)
    (task : Task)
    (state : State) :
    Option State :=
  let workflow := (state.workflows.get? task.workflowId).getD Table.empty
  match workflow.get? task.taskId with
  | none =>
      some
        { state with
          workflows := state.workflows.set task.workflowId
            (workflow.set task.taskId x) }
  | some other => if other = x then some state else none

/-- `_stopped_workflows().add`. -/
def markStopped
    (workflowId : Identifier)
    (state : State) :
    State :=
  { state with stoppedWorkflows := state.stoppedWorkflows.insert workflowId }

/-- `_stopped_workflows().discard`. -/
def unmarkStopped
    (workflowId : Identifier)
    (state : State) :
    State :=
  { state with
    stoppedWorkflows := state.stoppedWorkflows.filter (· ≠ workflowId) }

/-- `_remove_model_waiters_for_workflow`. -/
def removeModelWaiters
    (workflowId : Identifier)
    (state : State) :
    State :=
  { state with
    modelWaiting := state.modelWaiting.filter fun x => !state.isOf workflowId x }

/-- `clear_workflow` of the workflow manager; `cancel_workflow` ends with it. -/
def clearWorkflow
    (workflowId : Identifier)
    (state : State) :
    State :=
  { state with workflows := state.workflows.erase workflowId }

/-- `_send_or_defer_scheduler_event`. -/
def defer
    (message : Message)
    (onSent : Option Callback)
    (state : State) :
    State :=
  { state with
    outboundMessages := state.outboundMessages ++ [⟨message, onSent⟩] }

end State

/-! ## Failures -/

/-- How far a repair of the failure gets. -/
inductive Repair where
  | notApplied
  | applied
  /-- `resource_reanchor`; preparing the cleanup may raise. -/
  | resourceReanchor (prepared : Bool)

/-- What `_retry_or_fail_task` learns about a failure. -/
structure Failure where
  error : PyDict
  recoverable : Bool
  repair : Repair

/-- The identity that `_send_task_exception` puts into its message. -/
def exceptionIdentity?
    (task : Task)
    (error : PyDict) :
    Option DispatchIdentity :=
  if task.attempt ≠ 0 ∧ error.get "error_type" = .str "resource_capacity_exceeded" ∧
      task.dispatchId = none then
    task.previousIdentity?
  else
    task.identity?

/-- The end of `_retry_or_fail_task` for a task that is not retried. -/
def State.failFinally
    (task : Task)
    (error : PyDict)
    (state : State) :
    State :=
  ((state.removeModelWaiters task.workflowId).clearWorkflow task.workflowId).defer
    ⟨.taskException, exceptionIdentity? task error⟩ none

/-- `schedule_retry` with the message whose callback queues the task. -/
def State.scheduleRetry
    (x : ℕ)
    (task : Task)
    (state : State) :
    State :=
  (state.modifyTask x fun task => { task with status := .retrying }).defer
    ⟨.taskRetry, task.identity?⟩ (some (.enqueueRetry x))

/-- `RecoveryCoordinator.submit`. -/
def State.submitRecovery
    (x : ℕ)
    (task : Task)
    (state : State) :
    Option State :=
  if maxRecoveries ≤ state.recoveries.length then
    none
  else
    some
      { state.modifyTask x fun task => { task with status := .recovering } with
        recoveries := state.recoveries ++ [⟨x, task.attemptIdentity⟩] }

/-- The error of a recovery that could not be started. -/
def cleanupError (error : PyDict) : PyDict :=
  error.set "error_type" (.str "resource_cleanup_failed")

/-- `_retry_or_fail_task`. -/
def State.retryOrFailTask
    (x : ℕ)
    (failure : Failure)
    (state : State) :
    State :=
  match state.tasks.get? x with
  | none => state
  | some task =>
      let marked := state.markStopped task.workflowId
      if task.shouldRetry failure.error && failure.recoverable then
        match failure.repair with
        | .notApplied => marked.failFinally task failure.error
        | .applied => (marked.unmarkStopped task.workflowId).scheduleRetry x task
        | .resourceReanchor prepared =>
            let submitted :=
              if prepared then
                (marked.unmarkStopped task.workflowId).submitRecovery x task
              else
                none
            match submitted with
            | some submitted => submitted
            | none =>
                -- the nested call marks the workflow again and cannot retry
                (marked.modifyTask x fun task =>
                  { task with maxRetries := 0 }).failFinally task
                    (cleanupError failure.error)
      else
        marked.failFinally task failure.error

/-! ## Launching -/

/-- How `_run_task_with_lease` ends. -/
inductive LaunchOutcome where
  | started
  /-- The observer of the model instance raises, before the attempt begins. -/
  | observerRaises (failure : Failure)
  /-- `run_task` raises after `begin_attempt`. -/
  | runTaskRaises (failure : Failure)

/-- `begin_attempt`. -/
def State.beginAttempt
    (x : ℕ)
    (dispatchId leaseId : Identifier)
    (state : State) :
    State :=
  { state.modifyTask x fun task =>
      { task with toTaskRuntime := task.toTaskRuntime.beginAttempt dispatchId leaseId } with
    begun := x :: state.begun }

/-- The identity of the attempt that is about to begin. -/
def Task.nextIdentity
    (task : Task)
    (dispatchId : Identifier) :
    DispatchIdentity :=
  ⟨task.workflowId, task.taskId, task.attempt + 1, dispatchId⟩

/-- `_run_task_with_lease`, and what the submit loop does after it. -/
def State.runTask
    (x : ℕ)
    (task : Task)
    (dispatchId leaseId : Identifier)
    (outcome : LaunchOutcome)
    (state : State) :
    State :=
  match outcome with
  | .started =>
      ((state.beginAttempt x dispatchId leaseId).modifyTask x fun task =>
        { task with
          status := .running
          dispatchPublished := false }).defer
            ⟨.startTask, some (task.nextIdentity dispatchId)⟩
            (some (.publishDispatch x))
  | .observerRaises failure => state.retryOrFailTask x failure
  | .runTaskRaises failure =>
      { state.beginAttempt x dispatchId leaseId with
        failedLaunches :=
          task.nextIdentity dispatchId :: state.failedLaunches }.retryOrFailTask x failure

/-! ## Steps -/

/-- A runtime as `TaskRuntime(...)` leaves it. -/
def isNew (task : Task) : Bool :=
  task.attempt = 0 && task.dispatchId = none && task.previousAttemptIdentity = none &&
    task.status = .ready

/-- How the handling of a returned result ends. -/
inductive FinishOutcome where
  | finished
  /-- Something raises after the result was set. -/
  | raises (failure : Failure)

/-- The steps of the scheduler. -/
inductive Action where
  /-- `_receive_thread`: `run_task`. -/
  | receiveTask (x : ℕ) (task : Task)
  /-- `_receive_thread`: `_terminate_rejected_workflow` or `clear_workflow`. -/
  | clearWorkflow (workflowId : Identifier)
  /-- `_receive_thread`: `stop_workflow`, which may raise before it has cancelled. -/
  | stopWorkflow (workflowId : Identifier) (cancelled : Bool)
  /-- `_submit_thread`: the workflow of the head is stopped. -/
  | discardStopped (x : ℕ)
  /-- `_submit_thread`: the request exceeds the capacity, before or after `add_task`. -/
  | exceedCapacity (x : ℕ) (registering : Bool) (failure : Failure)
  /-- `_submit_thread`: `_wait_for_model`, which may find a route at last. -/
  | waitForModel (x : ℕ) (routed : Bool)
  /-- `_submit_thread`: another runtime of the task is registered. -/
  | supersede (x : ℕ)
  /-- `_submit_thread`: no node can run the head. -/
  | postpone (x : ℕ)
  /-- `_submit_thread`: a node is selected for the head. -/
  | launch (x : ℕ) (dispatchId leaseId : Identifier) (outcome : LaunchOutcome)
  /-- A waiter is taken out of the model-wait set. -/
  | takeWaiter (x : ℕ)
  /-- `_wake_model_waiters`. -/
  | wakeWaiter (x : ℕ)
  /-- `_fail_model_waiters`; its error is not retryable. -/
  | failWaiter (x : ℕ) (error : PyDict)
  /-- `_supervisor_thread`: the worker has returned a result. -/
  | finishTask (x : ℕ) (outcome : FinishOutcome)
  /-- `_supervisor_thread`: the worker has failed. -/
  | failAttempt (x : ℕ) (failure : Failure)
  /-- `_fail_timed_out_tasks` for one of the tasks that were running. -/
  | timeOut (x : ℕ) (failure : Failure)
  /-- `_drain_resource_recoveries`: the cleanup has returned. -/
  | recover (recovery : PendingRecovery)
  /-- `_drain_resource_recoveries`: the cleanup has raised. -/
  | failRecovery (recovery : PendingRecovery) (failure : Failure)
  /-- `_flush_scheduler_events`: a message is sent. -/
  | send (outgoing : Outgoing)
  /-- `_flush_scheduler_events`: the callback of a message that was sent. -/
  | callBack (callback : Callback)

namespace State

/-- A runtime with an entry in one of the ready queues. -/
def queuedTask?
    (state : State)
    (x : ℕ) :
    Option Task :=
  if x ∈ state.taskQueues then state.tasks.get? x else none

/-- A queued runtime whose workflow is not stopped. -/
def readyTask?
    (state : State)
    (x : ℕ) :
    Option Task :=
  (state.queuedTask? x).filter fun task => task.workflowId ∉ state.stoppedWorkflows

/-- `take` and `pop_head`. -/
def take
    (x : ℕ)
    (state : State) :
    State :=
  { state with taskQueues := state.taskQueues.erase x }

/-- `put` and `restore`. -/
def put
    (x : ℕ)
    (state : State) :
    State :=
  { state with taskQueues := state.taskQueues ++ [x] }

/-- `set_task_status`. -/
def setStatus
    (x : ℕ)
    (status : Status)
    (state : State) :
    State :=
  state.modifyTask x fun task => { task with status := status }

/-- A running task whose start has been announced. -/
def publishedTask?
    (state : State)
    (x : ℕ) :
    Option Task :=
  (state.tasks.get? x).filter fun task =>
    task.dispatchPublished && task.status = .running

/-- `valid`: the attempt of the recovery is still that of a registered task. -/
def recoveredTask?
    (state : State)
    (recovery : PendingRecovery) :
    Option Task :=
  (state.tasks.get? recovery.task).filter fun task =>
    state.isRegistered recovery.task task && task.attemptIdentity = recovery.identity

/-- A callback is run. -/
def runCallback
    (state : State) :
    Callback → State
  | .publishDispatch x => state.modifyTask x fun task =>
      { task with dispatchPublished := true }
  | .enqueueRetry x => (state.modifyTask x fun task =>
      { task with toTaskRuntime := task.toTaskRuntime.clearAttemptIdentity }).put x

end State

/-- One step of one thread. -/
def step?
    (state : State) :
    Action → Option State
  | .receiveTask x task =>
      if isNew task ∧ state.tasks.contains x = false then
        some ({ state with
          tasks := state.tasks.set x task
          received := state.received.set x task.maxRetries }.put x)
      else
        none
  | .clearWorkflow workflowId =>
      some (((state.markStopped workflowId).removeModelWaiters workflowId).clearWorkflow
        workflowId)
  | .stopWorkflow workflowId cancelled =>
      let removed := (state.markStopped workflowId).removeModelWaiters workflowId
      some (if cancelled then removed.clearWorkflow workflowId else removed)
  | .discardStopped x =>
      (state.queuedTask? x).bind fun task =>
        if task.workflowId ∈ state.stoppedWorkflows then some (state.take x) else none
  | .exceedCapacity x registering failure =>
      (state.readyTask? x).bind fun task =>
        let ready := state.setStatus x .ready
        (if registering then ready.addTask x task else some ready).map fun state =>
          (state.take x).retryOrFailTask x failure
  | .waitForModel x routed =>
      (state.readyTask? x).map fun _ =>
        if routed then
          ((state.setStatus x .ready).take x).put x
        else
          let taken := (state.setStatus x .pending).take x
          { taken with modelWaiting := taken.modelWaiting ++ [x] }
  | .supersede x =>
      (state.readyTask? x).bind fun task =>
        if (state.addTask x task).isSome then none
        else some ((state.setStatus x .ready).take x)
  | .postpone x =>
      (state.readyTask? x).bind fun task =>
        (state.addTask x task).map fun state => state.setStatus x .pending
  | .launch x dispatchId leaseId outcome =>
      (state.readyTask? x).bind fun task =>
        ((state.setStatus x .ready).addTask x task).map fun state =>
          (state.take x).runTask x task dispatchId leaseId outcome
  | .takeWaiter x =>
      if x ∈ state.modelWaiting then
        some { state with
          modelWaiting := state.modelWaiting.erase x
          takenWaiters := state.takenWaiters ++ [x] }
      else
        none
  | .wakeWaiter x =>
      if x ∈ state.takenWaiters then
        let taken := { state with takenWaiters := state.takenWaiters.erase x }
        (state.tasks.get? x).map fun task =>
          if task.workflowId ∈ state.stoppedWorkflows then taken
          else (taken.setStatus x .ready).put x
      else
        none
  | .failWaiter x error =>
      if x ∈ state.takenWaiters then
        let taken := { state with takenWaiters := state.takenWaiters.erase x }
        (state.tasks.get? x).map fun task =>
          if task.workflowId ∈ state.stoppedWorkflows then taken
          else taken.retryOrFailTask x ⟨error.set "retryable" (.bool false), false, .notApplied⟩
      else
        none
  | .finishTask x outcome =>
      (state.publishedTask? x).bind fun task =>
        if state.isRegistered x task then
          let finished := state.setStatus x .finished
          match outcome with
          | .finished => some (finished.defer ⟨.finishTask, task.identity?⟩ none)
          | .raises failure => some (finished.retryOrFailTask x failure)
        else
          none
  | .failAttempt x failure =>
      (state.publishedTask? x).bind fun task =>
        if state.isRegistered x task then some (state.retryOrFailTask x failure) else none
  | .timeOut x failure =>
      (state.publishedTask? x).map fun _ => state.retryOrFailTask x failure
  | .recover recovery =>
      if recovery ∈ state.recoveries then
        let drained := { state with recoveries := state.recoveries.erase recovery }
        match state.recoveredTask? recovery with
        | none => some drained
        | some task =>
            if task.workflowId ∈ state.stoppedWorkflows then some drained
            else some (drained.scheduleRetry recovery.task task)
      else
        none
  | .failRecovery recovery failure =>
      if recovery ∈ state.recoveries then
        let drained := { state with recoveries := state.recoveries.erase recovery }
        match state.recoveredTask? recovery with
        | none => some drained
        | some _ => some (drained.retryOrFailTask recovery.task failure)
      else
        none
  | .send outgoing =>
      if outgoing ∈ state.outboundMessages then
        some { state with
          outboundMessages := state.outboundMessages.erase outgoing
          callbacks := state.callbacks ++ outgoing.onSent.toList
          sent := state.sent ++ [outgoing.message] }
      else
        none
  | .callBack callback =>
      if callback ∈ state.callbacks then
        some ({ state with callbacks := state.callbacks.erase callback }.runCallback callback)
      else
        none

/-- A scheduler without tasks. -/
def initial : State where
  tasks := Table.empty
  workflows := Table.empty
  stoppedWorkflows := []
  taskQueues := []
  modelWaiting := []
  takenWaiters := []
  recoveries := []
  outboundMessages := []
  callbacks := []
  sent := []
  received := Table.empty
  begun := []
  failedLaunches := []

end Maze.Scheduler.TaskQueues
