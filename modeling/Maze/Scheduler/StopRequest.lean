import Maze.Scheduler.TaskLeases
import Maze.Scheduler.ModelIndexes

namespace Maze.Scheduler.StopRequest

open Maze.Python
open Maze.Library
open Maze.Scheduler.TaskLeases (Status)
open Maze.Scheduler.ModelInstances (LlmInstanceManager ModelKey ModelRoute)

/-!
# Stopping a workflow

`_stop_workflow_request` marks the workflow, takes its running tasks out of the runtime
tables and then releases what they hold. Any of the calls that it makes may raise, and
the request is repeated. What it has still to do is kept in `_workflow_cleanup_states`,
and the tasks in it are the ones that were running when they were taken out.

The lock of the scheduler is held from the beginning of a request to its end.
-/

/-! ## The scheduler -/

/-- A runtime with what stopping its workflow reads and writes. -/
structure Task where
  workflowId : Identifier
  status : Status
  leaseId : Option Identifier
  modelRoute : Option ModelRoute
  deriving DecidableEq

/-- An entry of `_workflow_cleanup_states`. -/
structure CleanupState where
  tasks : List ℕ
  modelRoutesReleased : Bool
  resourcesReleased : Bool
  workflowCleared : Bool
  dagReleased : Bool
  deriving DecidableEq

/--
The scheduler. Runtimes are told apart by a number. No code reads the last three fields:
`routeReleases` has the runtime of every route that was released, `leaseReleases` every
lease that was taken out of the active ones, and `dispatched` every runtime that the
submit loop has dispatched.
-/
structure State where
  resourceManager : ResourceManager
  llmInstanceManager : LlmInstanceManager
  tasks : Table ℕ Task
  workflows : Table Identifier (Table Identifier ℕ)
  stoppedWorkflows : List Identifier
  /-- `_model_waiting`; a key is the text of the model with its backend. -/
  modelWaiting : Table (PyStr × PyStr) (List ℕ)
  /-- The entries of the ready queues. -/
  taskQueues : List ℕ
  workflowCleanupStates : Table Identifier CleanupState
  routeReleases : List ℕ
  leaseReleases : List Identifier
  dispatched : List ℕ

namespace State

/-- The runtime belongs to the workflow. -/
def isOf
    (state : State)
    (workflowId : Identifier)
    (x : ℕ) :
    Bool :=
  (state.tasks.get? x).any fun task => task.workflowId = workflowId

/-- Whether the runtime has the status `running`. -/
def isRunning
    (state : State)
    (x : ℕ) :
    Bool :=
  (state.tasks.get? x).any fun task => task.status = .running

/-- The running tasks that `cancel_workflow` returns. -/
def runningOf
    (state : State)
    (workflowId : Identifier) :
    List ℕ :=
  match state.workflows.get? workflowId with
  | none => []
  | some workflow => (workflow.entries.map Prod.snd).filter state.isRunning

/-- `task.lease_id`. -/
def leaseOf
    (state : State)
    (x : ℕ) :
    Option Identifier :=
  (state.tasks.get? x).bind Task.leaseId

/-- `task.model_route`. -/
def routeOf
    (state : State)
    (x : ℕ) :
    Option ModelRoute :=
  (state.tasks.get? x).bind Task.modelRoute

/-- `_remove_model_waiters_for_workflow`. -/
def removeModelWaiters
    (workflowId : Identifier)
    (state : State) :
    State :=
  { state with
    modelWaiting := state.modelWaiting.mapValues fun _ waiting =>
      waiting.filter fun x => !state.isOf workflowId x }

/-- A waiter that is woken goes back to its queue, unless its workflow is stopped. -/
def restoreWaiter
    (state : State)
    (x : ℕ) :
    State :=
  match state.tasks.get? x with
  | none => state
  | some task =>
      if task.workflowId ∈ state.stoppedWorkflows then
        state
      else
        { state with
          tasks := state.tasks.set x { task with status := .ready }
          taskQueues := state.taskQueues ++ [x] }

/-- `_wake_model_waiters`. -/
def wakeModelWaiters
    (key : PyStr × PyStr)
    (state : State) :
    State :=
  ((state.modelWaiting.get? key).getD []).foldl restoreWaiter
    { state with modelWaiting := state.modelWaiting.erase key }

/-- The key of the waiters for the model of a route. -/
def waitingKey
    (strings : Strings)
    (key : ModelKey) :
    PyStr × PyStr :=
  (strings.str key.model, strings.lower ⟨Number.strip key.backend.chars⟩)

/-- `_release_model_route`. -/
def releaseModelRoute
    (strings : Strings)
    (now : ℚ)
    (x : ℕ)
    (state : State) :
    State :=
  match state.routeOf x with
  | none => state
  | some route =>
      { state with
        llmInstanceManager :=
          state.llmInstanceManager.releaseModelRoute route.instanceId now
        tasks := state.tasks.modify x fun task => { task with modelRoute := none }
        routeReleases := state.routeReleases ++ [x] }.wakeModelWaiters
          (waitingKey strings route.key)

/-- `release_lease` for the lease of a task. -/
def releaseLease
    (x : ℕ)
    (state : State) :
    State :=
  match state.leaseOf x with
  | none => state
  | some leaseId =>
      if state.resourceManager.activeLeases.contains leaseId.val then
        { state with
          resourceManager := state.resourceManager.releaseLease (some leaseId.val)
          leaseReleases := state.leaseReleases ++ [leaseId] }
      else
        state

/-- `release_lease` raises after the lease has been taken out of the active ones. -/
def popLease
    (x : ℕ)
    (state : State) :
    State :=
  match state.leaseOf x with
  | none => state
  | some leaseId =>
      if state.resourceManager.activeLeases.contains leaseId.val then
        { state with
          resourceManager :=
            { state.resourceManager with
              activeLeases := state.resourceManager.activeLeases.erase leaseId.val }
          leaseReleases := state.leaseReleases ++ [leaseId] }
      else
        state

/-! ## The request -/

/-- The call that raises. -/
inductive Fault where
  | clearModelWorkflowState
  /-- `cancel_workflow` raises before it has taken the tasks out. -/
  | cancelWorkflow
  /-- The route of the task at the index cannot be released. -/
  | releaseModelRoute (index : ℕ)
  /-- `release_lease` raises for the task at the index, perhaps after it has begun. -/
  | releaseLease (index : ℕ) (popped : Bool)
  | clearWorkflow
  | releaseDagContext
  deriving DecidableEq

/-- The routes of the tasks are released, up to the index that raises. -/
def releaseModelRoutes
    (strings : Strings)
    (now : ℚ) :
    Option ℕ → List ℕ → State → Bool × State
  | _, [], state => (true, state)
  | some 0, _ :: _, state => (false, state)
  | fault, x :: rest, state =>
      releaseModelRoutes strings now (fault.map Nat.pred) rest
        (state.releaseModelRoute strings now x)

/-- `release_task_resource`, up to the index that raises. -/
def releaseTaskResource :
    Option (ℕ × Bool) → List ℕ → State → Bool × State
  | _, [], state => (true, state)
  | some (0, popped), x :: _, state => (false, if popped then state.popLease x else state)
  | fault, x :: rest, state =>
      releaseTaskResource (fault.map fun (index, popped) => (index.pred, popped)) rest
        (state.releaseLease x)

/-- The entry of the workflow in `_workflow_cleanup_states` is changed. -/
def setCleanup
    (workflowId : Identifier)
    (cleanup : CleanupState)
    (state : State) :
    State :=
  { state with
    workflowCleanupStates := state.workflowCleanupStates.set workflowId cleanup }

/-- The index at which releasing the routes raises. -/
def Fault.route? : Fault → Option ℕ
  | .releaseModelRoute index => some index
  | _ => none

/-- The index at which releasing the leases raises. -/
def Fault.lease? : Fault → Option (ℕ × Bool)
  | .releaseLease index popped => some (index, popped)
  | _ => none

/-- The routes of the cancelled tasks are released. -/
def releaseRoutesStage
    (strings : Strings)
    (now : ℚ)
    (fault : Option Fault)
    (workflowId : Identifier)
    (cleanup : CleanupState)
    (state : State) :
    Bool × State :=
  if cleanup.modelRoutesReleased then
    (true, state)
  else
    let result := releaseModelRoutes strings now (fault.bind Fault.route?) cleanup.tasks state
    if result.1 then
      (true, result.2.setCleanup workflowId { cleanup with modelRoutesReleased := true })
    else
      result

/-- The leases of the cancelled tasks are released. -/
def releaseLeasesStage
    (fault : Option Fault)
    (workflowId : Identifier)
    (cleanup : CleanupState)
    (state : State) :
    Bool × State :=
  if cleanup.resourcesReleased then
    (true, state)
  else
    let result := releaseTaskResource (fault.bind Fault.lease?) cleanup.tasks state
    if result.1 then
      (true, result.2.setCleanup workflowId { cleanup with resourcesReleased := true })
    else
      result

/-- The workflow is cleared once more, if tasks of it were running. -/
def clearWorkflowStage
    (fault : Option Fault)
    (workflowId : Identifier)
    (cleanup : CleanupState)
    (state : State) :
    Bool × State :=
  if cleanup.workflowCleared then
    (true, state)
  else if fault = some .clearWorkflow then
    (false, state)
  else
    (true,
      { state with
        workflows :=
          if cleanup.tasks.isEmpty then state.workflows
          else state.workflows.erase workflowId }.setCleanup workflowId
            { cleanup with workflowCleared := true })

/-- The DAG context of the workflow is released. -/
def releaseDagStage
    (fault : Option Fault)
    (workflowId : Identifier)
    (cleanup : CleanupState)
    (state : State) :
    Bool × State :=
  if cleanup.dagReleased then
    (true, state)
  else if fault = some .releaseDagContext then
    (false, state)
  else
    (true,
      { state with
        resourceManager :=
          { state.resourceManager with
            dagContexts :=
              state.resourceManager.dagContexts.release workflowId.val } }.setCleanup
                workflowId { cleanup with dagReleased := true })

/-- A stage with what the stages before it have left in the cleanup state. -/
def thenStage
    (workflowId : Identifier)
    (stage : CleanupState → State → Bool × State)
    (result : Bool × State) :
    Bool × State :=
  match result.1, result.2.workflowCleanupStates.get? workflowId with
  | true, some cleanup => stage cleanup result.2
  | _, _ => result

/-- The cancelled tasks of the workflow, as a cleanup state. -/
def cancelWorkflow
    (workflowId : Identifier)
    (state : State) :
    State :=
  let tasks := state.runningOf workflowId
  { state with workflows := state.workflows.erase workflowId }.setCleanup workflowId
    { tasks
      modelRoutesReleased := false
      resourcesReleased := false
      workflowCleared := false
      dagReleased := false }

/-- `_stop_workflow_request` up to the point that raises; whether it succeeds. -/
def stopWorkflowRequest
    (strings : Strings)
    (now : ℚ)
    (fault : Option Fault)
    (workflowId : Identifier)
    (state : State) :
    Bool × State :=
  let marked :=
    { state with
      stoppedWorkflows := state.stoppedWorkflows.insert workflowId }.removeModelWaiters
        workflowId
  if fault = some .clearModelWorkflowState then
    (false, marked)
  else
    let cleared :=
      { marked with
        llmInstanceManager :=
          marked.llmInstanceManager.clearWorkflowState workflowId.val }
    if (cleared.workflowCleanupStates.get? workflowId).isNone ∧
        fault = some .cancelWorkflow then
      (false, cleared)
    else
      let cancelled :=
        if (cleared.workflowCleanupStates.get? workflowId).isNone then
          cleared.cancelWorkflow workflowId
        else
          cleared
      let result := [releaseRoutesStage strings now fault workflowId,
        releaseLeasesStage fault workflowId,
        clearWorkflowStage fault workflowId,
        releaseDagStage fault workflowId].foldl
          (fun result stage => thenStage workflowId stage result) (true, cancelled)
      if result.1 then
        (true, { result.2 with
          workflowCleanupStates := result.2.workflowCleanupStates.erase workflowId })
      else
        result

/-- The request is repeated until it succeeds. -/
def repeatUntilStopped
    (strings : Strings)
    (workflowId : Identifier) :
    List (ℚ × Option Fault) → State → Option State
  | [], _ => none
  | (now, fault) :: rest, state =>
      let result := state.stopWorkflowRequest strings now fault workflowId
      if result.1 then some result.2
      else repeatUntilStopped strings workflowId rest result.2

end State

end Maze.Scheduler.StopRequest
