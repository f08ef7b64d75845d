import Maze.Library.Transition
import Maze.Python.Value

namespace Maze.Core

open Maze.Python

/-!
# Dynamic runs in memory

`DynamicRun` keeps the tasks that were appended to a run while it executes, the
sets of task ids by progress, and the run's event log. An operation that raises
may already have changed the run: every operation first times the run out when
its deadline has passed. Building a task's inputs and resources is the caller's;
its failure is part of the request.
-/

/-- A point in time, in seconds. -/
abbrev Time := ℚ

/-- A task id; those the code generates are UUIDs. -/
abbrev TaskId := PyStr

/-- `DynamicRun.status`. -/
inductive RunStatus where
  | created
  | running
  | finalized
  | failed
  | canceled
  | timedOut
  | interrupted
  deriving DecidableEq

namespace RunStatus

/-- `TERMINAL_DYNAMIC_RUN_STATUSES`. -/
def isTerminal : RunStatus → Bool
  | .created | .running => false
  | _ => true

/-- The status as it is stored. -/
def text : RunStatus → String
  | .created => "created"
  | .running => "running"
  | .finalized => "finalized"
  | .failed => "failed"
  | .canceled => "canceled"
  | .timedOut => "timed_out"
  | .interrupted => "interrupted"

end RunStatus

/-- The fields of `CodeTask` that a run changes. -/
structure CodeTask where
  taskName : PyStr
  requestId : Option PyStr
  createdTime : Time
  startTime : Option Time
  finishTime : Option Time
  completed : Bool
  deriving DecidableEq

/-- One event of a run's log. -/
structure RunEvent where
  eventType : PyStr
  data : PyDict
  seq : Nat
  timestamp : PyStr
  deriving DecidableEq

/-- `DynamicRun`; a Python set of ids is a list without repetitions. -/
structure DynamicRun where
  runId : PyStr
  maxTasks : Int
  timeoutSeconds : Option Time
  fileContext : PyVal
  createdTime : Time
  updatedTime : Time
  tasks : List (TaskId × CodeTask)
  taskParents : List (TaskId × List TaskId)
  pendingTasks : List TaskId
  submittedTasks : List TaskId
  runningTasks : List TaskId
  completedTasks : List TaskId
  failedTasks : List TaskId
  taskErrors : PyDict
  taskFileManifests : PyDict
  taskFaultTolerance : PyDict
  requestIds : List (PyStr × TaskId)
  eventLog : List RunEvent
  eventSeq : Nat
  status : RunStatus
  finishedTime : Option Time
  finalized : Bool
  failed : Bool
  finalResult : PyVal
  cancelReason : PyVal
  failureReason : PyVal
  deriving DecidableEq

/-- The state of an object after a call, and what the call returned or raised. -/
structure Outcome (σ α : Type) where
  state : σ
  result : Except PyErr α

namespace DynamicRun

/-- `DynamicRun(...)`. -/
def new
    (runId : PyStr)
    (maxTasks : Int)
    (timeoutSeconds : Option Time)
    (fileContext : PyVal)
    (now : Time) :
    DynamicRun where
  runId := runId
  maxTasks := maxTasks
  timeoutSeconds := timeoutSeconds
  fileContext := fileContext
  createdTime := now
  updatedTime := now
  tasks := []
  taskParents := []
  pendingTasks := []
  submittedTasks := []
  runningTasks := []
  completedTasks := []
  failedTasks := []
  taskErrors := []
  taskFileManifests := []
  taskFaultTolerance := []
  requestIds := []
  eventLog := []
  eventSeq := 0
  status := .created
  finishedTime := none
  finalized := false
  failed := false
  finalResult := .null
  cancelReason := .null
  failureReason := .null

/-- `is_terminal`. -/
def isTerminal
    (run : DynamicRun) :
    Bool :=
  run.status.isTerminal

/-- The tasks that a cancellation, an interruption or a timeout fails. -/
def activeTaskIds
    (run : DynamicRun) :
    List TaskId :=
  run.pendingTasks ∪ run.submittedTasks ∪ run.runningTasks

/--
The sweep that `cancel`, `interrupt` and `mark_timed_out_if_needed` share: every
active task fails with the same error.
-/
def failActiveTasks
    (run : DynamicRun)
    (error : PyVal)
    (status : RunStatus)
    (now : Time) :
    DynamicRun :=
  { run with
    taskErrors :=
      run.activeTaskIds.foldl (fun errors id => errors.set id error)
        run.taskErrors
    failedTasks := run.activeTaskIds ∪ run.failedTasks
    pendingTasks := []
    submittedTasks := []
    runningTasks := []
    status := status
    finishedTime := some now
    updatedTime := now }

/-- The deadline of the run has passed and the run is still active. -/
def deadlinePassed
    (run : DynamicRun)
    (now : Time) :
    Bool :=
  match run.timeoutSeconds with
  | some timeout => !run.isTerminal && timeout < now - run.createdTime
  | none => false

/-- The error that a timed out run reports; `render` is `str` of the timeout. -/
def timeoutError
    (render : Time → PyStr)
    (timeoutSeconds : Option Time) :
    PyVal :=
  .dict
    [("error_type", .str "timeout"),
      ("message",
        .str ⟨(PyStr.ofString "Dynamic run timed out after ").chars ++
          ((timeoutSeconds.map render).getD "None").chars ++
          (PyStr.ofString " seconds").chars⟩)]

/-- `mark_timed_out_if_needed`. -/
def markTimedOutIfNeeded
    (render : Time → PyStr)
    (run : DynamicRun)
    (now : Time) :
    DynamicRun × Bool :=
  if run.deadlinePassed now then
    let error := timeoutError render run.timeoutSeconds
    ({ run.failActiveTasks error .timedOut now with failureReason := error }, true)
  else
    (run, false)

/-- `_terminal_error`. -/
def terminalError
    (run : DynamicRun) :
    PyErr :=
  if run.finalized || run.failed then
    .valueError
  else if run.status = .timedOut then
    .timeoutError
  else
    .valueError

/-- `check_can_mutate`: time the run out if needed, then refuse a terminal one. -/
def checkCanMutate
    (render : Time → PyStr)
    (run : DynamicRun)
    (now : Time) :
    Outcome DynamicRun Unit :=
  let run := (run.markTimedOutIfNeeded render now).1
  if run.isTerminal then
    ⟨run, .error run.terminalError⟩
  else
    ⟨run, .ok ()⟩

/-- A call of `append_task`, after its inputs and resources have been built. -/
structure AppendRequest where
  taskId : TaskId
  taskName : PyStr
  requestId : Option PyStr
  parents : List TaskId
  buildError : Option PyErr

/-- The request id, where it is not empty. -/
def AppendRequest.requestKey (request : AppendRequest) : Option PyStr :=
  request.requestId.filter fun requestId => !requestId.isEmpty

/-- `is_task_ready`. -/
def isTaskReady
    (run : DynamicRun)
    (taskId : TaskId) :
    Bool :=
  ((run.taskParents.lookup taskId).getD []).all
    fun parent => parent ∈ run.completedTasks

/-- The task becomes known to the run. -/
def registerTask
    (run : DynamicRun)
    (request : AppendRequest)
    (now : Time) :
    DynamicRun :=
  { run with
    tasks :=
      run.tasks ++
        [(request.taskId,
          { taskName := request.taskName
            requestId := request.requestId
            createdTime := now
            startTime := none
            finishTime := none
            completed := false })]
    taskFaultTolerance :=
      run.taskFaultTolerance.set request.taskId
        (.dict [("enabled", .bool true), ("status", .str "idle"),
          ("attempts", .list [])])
    taskParents := (request.taskId, request.parents) :: run.taskParents
    requestIds :=
      match request.requestKey with
      | some requestId => (requestId, request.taskId) :: run.requestIds
      | none => run.requestIds
    status := if run.status = .created then .running else run.status
    updatedTime := now }

/-- The bookkeeping of `append_task` once nothing can raise any more. -/
def addTask
    (run : DynamicRun)
    (request : AppendRequest)
    (now : Time) :
    DynamicRun :=
  let registered := run.registerTask request now
  if registered.isTaskReady request.taskId then
    { registered with
      submittedTasks := registered.submittedTasks.insert request.taskId }
  else
    { registered with
      pendingTasks := registered.pendingTasks ++ [request.taskId] }

/-- `append_task`; the result is the task's id and whether it existed before. -/
def appendTask
    (render : Time → PyStr)
    (run : DynamicRun)
    (request : AppendRequest)
    (now : Time) :
    Outcome DynamicRun (TaskId × Bool) :=
  let checked := run.checkCanMutate render now
  match checked.result with
  | .error raised => ⟨checked.state, .error raised⟩
  | .ok () =>
      let run := checked.state
      match request.requestKey.bind fun requestId =>
          run.requestIds.lookup requestId with
      | some taskId => ⟨run, .ok (taskId, true)⟩
      | none =>
          if run.maxTasks ≤ run.tasks.length then
            ⟨run, .error .valueError⟩
          else
            match request.buildError with
            | some raised => ⟨run, .error raised⟩
            | none =>
                if request.parents.all fun parent =>
                    parent ∈ run.tasks.map Prod.fst then
                  ⟨run.addTask request now, .ok (request.taskId, false)⟩
                else
                  ⟨run, .error .valueError⟩

/-- Apply a change to the task with the given id. -/
def updateTask
    (run : DynamicRun)
    (taskId : TaskId)
    (change : CodeTask → CodeTask) :
    List (TaskId × CodeTask) :=
  run.tasks.map fun entry =>
    if entry.1 = taskId then (entry.1, change entry.2) else entry

/-- `mark_started`. -/
def markStarted
    (run : DynamicRun)
    (taskId : TaskId)
    (now : Time) :
    DynamicRun :=
  if run.isTerminal then
    run
  else
    { run with
      tasks := run.updateTask taskId fun task => { task with startTime := some now }
      runningTasks := run.runningTasks.insert taskId
      status := if run.status = .created then .running else run.status
      updatedTime := now }

/-- `set_task_fault_tolerance` for a `None` or empty trace changes nothing. -/
def withFaultTolerance
    (traces : PyDict)
    (taskId : TaskId)
    (faultTolerance : PyVal) :
    PyDict :=
  if faultTolerance.truthy then traces.set taskId faultTolerance else traces

/-- `mark_finished`; the result is the pending tasks that became ready. -/
def markFinished
    (run : DynamicRun)
    (taskId : TaskId)
    (faultTolerance : PyVal)
    (now : Time) :
    DynamicRun × List TaskId :=
  if run.isTerminal then
    (run, [])
  else
    let run : DynamicRun :=
      { run with
        runningTasks := run.runningTasks.erase taskId
        completedTasks := run.completedTasks.insert taskId
        taskFaultTolerance :=
          withFaultTolerance run.taskFaultTolerance taskId faultTolerance
        tasks :=
          run.updateTask taskId fun task =>
            { task with completed := true, finishTime := some now } }
    let ready := run.pendingTasks.filter fun id => run.isTaskReady id
    ({ run with
        submittedTasks := ready ∪ run.submittedTasks
        pendingTasks := run.pendingTasks.filter fun id => !run.isTaskReady id
        updatedTime := now },
      ready)

/-- `mark_retrying`. -/
def markRetrying
    (run : DynamicRun)
    (taskId : TaskId)
    (error faultTolerance : PyVal)
    (now : Time) :
    DynamicRun :=
  if run.isTerminal then
    run
  else
    { run with
      runningTasks := run.runningTasks.erase taskId
      taskErrors :=
        if error = .null then run.taskErrors
        else run.taskErrors.set taskId error
      taskFaultTolerance :=
        withFaultTolerance run.taskFaultTolerance taskId faultTolerance
      updatedTime := now }

/-- `isinstance(reason, dict) and reason.get("error_type") == "timeout"`. -/
def isTimeoutReason : PyVal → Bool
  | .dict reason =>
      (PyDict.get reason "error_type").pyEq (.str "timeout")
  | _ => false

/-- `mark_failed`. -/
def markFailed
    (run : DynamicRun)
    (taskId : TaskId)
    (reason faultTolerance : PyVal)
    (now : Time) :
    DynamicRun :=
  if run.isTerminal then
    run
  else
    { run with
      runningTasks := run.runningTasks.erase taskId
      failedTasks := run.failedTasks.insert taskId
      taskErrors := run.taskErrors.set taskId reason
      taskFaultTolerance :=
        withFaultTolerance run.taskFaultTolerance taskId faultTolerance
      failed := true
      status := if isTimeoutReason reason then .timedOut else .failed
      failureReason := reason
      finishedTime := some now
      updatedTime := now }

/-- `can_finalize`. -/
def canFinalize
    (run : DynamicRun) :
    Bool :=
  (run.tasks.all fun entry =>
      entry.1 ∈ run.completedTasks ∨ entry.1 ∈ run.failedTasks) &&
    run.pendingTasks.isEmpty && run.runningTasks.isEmpty

/-- `finalize`. -/
def finalize
    (render : Time → PyStr)
    (run : DynamicRun)
    (result : PyVal)
    (now : Time) :
    Outcome DynamicRun Unit :=
  if run.finalized then
    ⟨run, .ok ()⟩
  else
    let checked := run.checkCanMutate render now
    match checked.result with
    | .error raised => ⟨checked.state, .error raised⟩
    | .ok () =>
        let run := checked.state
        if run.canFinalize then
          ⟨{ run with
              finalized := true
              status := .finalized
              finishedTime := some now
              finalResult := result
              updatedTime := now },
            .ok ()⟩
        else
          ⟨run, .error .valueError⟩

/-- `{"error_type": ..., "message": reason or default}`. -/
def endError
    (errorType default : PyStr)
    (reason : PyVal) :
    PyVal :=
  .dict
    [("error_type", .str errorType),
      ("message", reason.orElse (.str default))]

/-- `cancel`. -/
def cancel
    (render : Time → PyStr)
    (run : DynamicRun)
    (reason : PyVal)
    (now : Time) :
    Outcome DynamicRun Bool :=
  if run.status = .canceled then
    ⟨run, .ok false⟩
  else
    let checked := run.checkCanMutate render now
    match checked.result with
    | .error raised => ⟨checked.state, .error raised⟩
    | .ok () =>
        let error := endError "canceled" "Dynamic run canceled" reason
        ⟨{ checked.state.failActiveTasks error .canceled now with
            cancelReason := reason },
          .ok true⟩

/-- The message of an interruption without a reason. -/
def defaultInterruption : PyStr :=
  "Scheduler process exited before the dynamic run completed"

/-- `interrupt`. -/
def interrupt
    (run : DynamicRun)
    (reason : PyVal)
    (now : Time) :
    DynamicRun × Bool :=
  if run.isTerminal then
    (run, false)
  else
    let error := endError "interrupted" defaultInterruption reason
    ({ run.failActiveTasks error .interrupted now with failureReason := reason },
      true)

/-- `append_event`: the event carries the run's id and its current status. -/
def appendEvent
    (run : DynamicRun)
    (eventType : PyStr)
    (data : PyDict)
    (timestamp : PyStr)
    (now : Time) :
    DynamicRun × RunEvent :=
  let event : RunEvent :=
    { eventType := eventType
      data :=
        (data.set "run_id" (.str run.runId)).set "run_status"
          (.str run.status.text)
      seq := run.eventSeq + 1
      timestamp := timestamp }
  ({ run with
      eventSeq := run.eventSeq + 1
      eventLog := run.eventLog ++ [event]
      updatedTime := now },
    event)

/-- The status that a snapshot reports for a task. -/
inductive TaskStatus where
  | failed
  | completed
  | running
  | submitted
  | pending
  deriving DecidableEq

/-- The `status` entry of `_task_snapshot`. -/
def taskStatus
    (run : DynamicRun)
    (taskId : TaskId) :
    TaskStatus :=
  if taskId ∈ run.failedTasks then .failed
  else if taskId ∈ run.completedTasks then .completed
  else if taskId ∈ run.runningTasks then .running
  else if taskId ∈ run.submittedTasks then .submitted
  else .pending

/-! ## What the operations do -/

/-- The run as its passed deadline leaves it. -/
def timedOutRun
    (render : Time → PyStr)
    (run : DynamicRun)
    (now : Time) :
    DynamicRun :=
  let error := timeoutError render run.timeoutSeconds
  { run.failActiveTasks error .timedOut now with failureReason := error }

theorem isTerminal_of_deadlinePassed
    {run : DynamicRun}
    {now : Time}
    (passed : run.deadlinePassed now = true) :
    run.isTerminal = false := by
  unfold deadlinePassed at passed
  split at passed
  · simp only [Bool.and_eq_true, Bool.not_eq_true'] at passed
    exact passed.1
  · cases passed

theorem markTimedOutIfNeeded_of_passed
    (render : Time → PyStr)
    {run : DynamicRun}
    {now : Time}
    (passed : run.deadlinePassed now = true) :
    run.markTimedOutIfNeeded render now = (run.timedOutRun render now, true) := by
  simp [markTimedOutIfNeeded, passed, timedOutRun]

theorem markTimedOutIfNeeded_of_not_passed
    (render : Time → PyStr)
    {run : DynamicRun}
    {now : Time}
    (waiting : run.deadlinePassed now = false) :
    run.markTimedOutIfNeeded render now = (run, false) := by
  simp [markTimedOutIfNeeded, waiting]

/-- A passed deadline makes every mutation raise, after the run is timed out. -/
theorem checkCanMutate_of_passed
    (render : Time → PyStr)
    {run : DynamicRun}
    {now : Time}
    (passed : run.deadlinePassed now = true) :
    ∃ raised,
      run.checkCanMutate render now =
        ⟨run.timedOutRun render now, .error raised⟩ := by
  refine ⟨(run.timedOutRun render now).terminalError, ?_⟩
  simp [checkCanMutate, markTimedOutIfNeeded_of_passed render passed,
    timedOutRun, failActiveTasks, isTerminal, RunStatus.isTerminal]

/-- A terminal run refuses every mutation and stays as it is. -/
theorem checkCanMutate_of_terminal
    (render : Time → PyStr)
    {run : DynamicRun}
    (now : Time)
    (terminal : run.isTerminal = true) :
    run.checkCanMutate render now = ⟨run, .error run.terminalError⟩ := by
  have waiting : run.deadlinePassed now = false := by
    cases passed : run.deadlinePassed now with
    | false =>
        rfl
    | true =>
        rw [isTerminal_of_deadlinePassed passed] at terminal
        cases terminal
  simp [checkCanMutate, markTimedOutIfNeeded_of_not_passed render waiting,
    terminal]

/-- An active run within its deadline may be mutated. -/
theorem checkCanMutate_of_live
    (render : Time → PyStr)
    {run : DynamicRun}
    {now : Time}
    (waiting : run.deadlinePassed now = false)
    (live : run.isTerminal = false) :
    run.checkCanMutate render now = ⟨run, .ok ()⟩ := by
  simp [checkCanMutate, markTimedOutIfNeeded_of_not_passed render waiting, live]

end DynamicRun

end Maze.Core
