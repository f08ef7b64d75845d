import Maze.Library.Fallible
import Maze.Core.SchedulerMessages
import Maze.Core.EventLog
import Maze.Core.StaticRun
import Maze.Core.TaskPreparation

namespace Maze.Core

open Maze.Python
open Maze.Library.Fallible

/-!
# Core's handling of a static run

The monitor takes one scheduler message after the other. A message that carries
an attempt passes the gate and is then handled in a transaction; a finished task
leaves a continuation behind, which sends the tasks that have become ready. A
message whose handling raises `OSError` is handled again before any other, and a
message whose handling raises anything else is dropped.

The run is one whose submission has dispatched its first tasks.
-/

/-- A workflow: its tasks, and its edges in the order of their addition. -/
structure Workflow where
  tasks : List (TaskId × WorkflowTask)
  edges : List (TaskId × TaskId)
  distinct : (tasks.map Prod.fst).Nodup
  closed :
    ∀ edge ∈ edges, edge.1 ∈ tasks.map Prod.fst ∧ edge.2 ∈ tasks.map Prod.fst

namespace Workflow

/-- The ids of the tasks. -/
def taskIds (workflow : Workflow) : List TaskId :=
  workflow.tasks.map Prod.fst

/-- `graph.successors(task_id)`. -/
def successors
    (workflow : Workflow)
    (taskId : TaskId) :
    List TaskId :=
  (workflow.edges.filter fun edge => edge.1 = taskId).map Prod.snd

/-- `graph.predecessors(task_id)`. -/
def predecessors
    (workflow : Workflow)
    (taskId : TaskId) :
    List TaskId :=
  (workflow.edges.filter fun edge => edge.2 = taskId).map Prod.fst

/-- `get_start_task`. -/
def startTasks (workflow : Workflow) : List TaskId :=
  workflow.taskIds.filter fun taskId => (workflow.predecessors taskId).isEmpty

/-- `finish_task`: the tasks that are ready once the completed ones are these. -/
def readyAfter
    (workflow : Workflow)
    (completed : List TaskId)
    (taskId : TaskId) :
    List TaskId :=
  (workflow.successors taskId).filter fun successor =>
    (workflow.predecessors successor).all fun task => task ∈ completed

end Workflow

/-- A static run in Core. -/
structure StaticProcess where
  workflow : Workflow
  completedTasks : List TaskId
  run : StaticRun
  gate : AttemptGate.Gate
  /-- The run still has its queue of events. -/
  listening : Bool
  log : EventLog.Log
  /-- For each save of the run to come, whether it raises `OSError`. -/
  saves : List Bool
  /-- The tasks whose `run_task` message has gone to the scheduler. -/
  sentTasks : List TaskId
  retrying : Option SchedulerMessage

/-- What the handling of a message meets outside of the run. -/
structure Handling where
  environment : Environment
  /-- What `_publish_task_file_manifest` returns or raises. -/
  manifest : Except PyErr PyVal
  /-- What `_resource_observation_from_message` returns or raises. -/
  observation : Except PyErr PyVal
  /-- How `_persist_task_file_manifest` ends. -/
  published : Except PyErr Unit
  /-- The envelope of an `ArtifactError`. -/
  artifactError : PyVal
  write : EventLog.Write
  timestamp : PyStr
  finishWrite : EventLog.Write
  finishTimestamp : PyStr
  saves : List Bool

namespace StaticCore

open SchedulerMessage (artifactFailure finishIdentity withObservation)

/-- A call of Core on a static run. -/
abbrev CoreCall := EStateM PyErr StaticProcess

/-- Change the run in memory. -/
def changeRun (change : StaticRun → StaticRun) : CoreCall Unit :=
  modify fun process => { process with run := change process.run }

/-- An event as it is handed to the store. -/
def eventEntries (event : RunEvent) : PyDict :=
  [("type", .str event.eventType), ("data", .dict event.data),
    ("seq", .int event.seq), ("timestamp", .str event.timestamp),
    ("schema_version", .int 1)]

/-- `static_run.append_event`. -/
def appendEvent
    (eventType : PyStr)
    (data : PyDict)
    (timestamp : PyStr) :
    CoreCall RunEvent :=
  fun process =>
    let appended := process.run.appendEvent eventType data timestamp
    .ok appended.2 { process with run := appended.1 }

/-- `static_run_store.append_event_once`. -/
def appendEventOnce
    (event : RunEvent)
    (write : EventLog.Write) :
    CoreCall Unit :=
  fun process =>
    let appended :=
      EventLog.appendEventOnce .static process.log (eventEntries event) write
    match appended.2 with
    | .ok () => .ok () { process with log := appended.1 }
    | .error raised => .error raised { process with log := appended.1 }

/-- Whether the next save raises. -/
def saveFails (saves : List Bool) : Bool :=
  saves.head?.getD false

/-- `_persist_static_run`; the log of a terminal run leaves the cache. -/
def persistRun : CoreCall Unit :=
  fun process =>
    let later := { process with saves := process.saves.tail }
    if saveFails process.saves then
      .error .osError later
    else if process.run.isTerminal then
      .ok () { later with log := { later.log with cache := none } }
    else
      .ok () later

/-- The metrics that an event notes in the node of its task. -/
def noteMetrics
    (eventType : PyStr)
    (data : PyDict)
    (run : StaticRun) :
    StaticRun :=
  match data.get "task_id" with
  | .str taskId =>
      run.updateNode taskId fun node =>
        if eventType = "start_task" then
          { node with fields := node.fields.pop "metrics" }
        else
          match data.get "metrics" with
          | .dict metrics =>
              { node with fields := node.fields.set "metrics" (.dict metrics) }
          | _ => node
  | _ => run

/-- `_record_static_event`. -/
def recordStaticEvent
    (eventType : PyStr)
    (data : PyDict)
    (timestamp : PyStr)
    (write : EventLog.Write) :
    CoreCall RunEvent := do
  changeRun (noteMetrics eventType data)
  let event ← appendEvent eventType data timestamp
  appendEventOnce event write
  persistRun
  return event

/-! ## What follows from a finished task -/

/-- The continuation of a task. -/
def continuationOf (taskId : TaskId) : CoreCall FinishContinuation :=
  fun process =>
    match process.run.continuation? taskId with
    | some continuation => .ok continuation process
    | none => .error .keyError process

/-- Note something in the continuation of a task, and save the run. -/
def noteProgress
    (taskId : TaskId)
    (change : FinishContinuation → FinishContinuation) :
    CoreCall Unit := do
  changeRun fun run => run.updateContinuation taskId change
  persistRun

/-- `workflow.finish_task`, noted in the continuation. -/
def advanceWorkflow (taskId : TaskId) : CoreCall Unit :=
  fun process =>
    if taskId ∈ process.workflow.taskIds then
      let completed := process.completedTasks.insert taskId
      let ready := process.workflow.readyAfter completed taskId
      .ok ()
        { process with
          completedTasks := completed
          run := process.run.updateContinuation taskId fun continuation =>
            { continuation with
              workflowAdvanced := true
              readyTaskIds := ready
              sentTaskIds := [] } }
    else
      .error .valueError process

/-- `_task_run_payload` and `_send_scheduler_message`. -/
def sendTask
    (primitives : Primitives)
    (environment : Environment)
    (taskId : TaskId) :
    CoreCall Unit :=
  fun process =>
    match process.workflow.tasks.lookup taskId with
    | none => .error .keyError process
    | some task =>
        match TaskPreparation.prepareTaskResources primitives environment
            task with
        | .error raised => .error raised process
        | .ok _ =>
            .ok () { process with sentTasks := process.sentTasks ++ [taskId] }

/-- One task of the loop over the tasks that have become ready. -/
def dispatchReadyTask
    (primitives : Primitives)
    (environment : Environment)
    (taskId readyTaskId : TaskId) :
    CoreCall Unit := do
  let continuation ← continuationOf taskId
  if readyTaskId ∈ continuation.sentTaskIds then
    return
  else
    changeRun fun run => run.markTaskQueued readyTaskId
    persistRun
    sendTask primitives environment readyTaskId
    noteProgress taskId fun continuation =>
      { continuation with
        sentTaskIds := continuation.sentTaskIds ++ [readyTaskId] }

/-- The event that ends a succeeded run; it is made once. -/
def workflowEventOf
    (taskId : TaskId)
    (handling : Handling) :
    CoreCall RunEvent := do
  let continuation ← continuationOf taskId
  match continuation.workflowEvent with
  | some event => return event
  | none =>
      let process ← get
      let event ← appendEvent "finish_workflow"
        [("run_id", .str process.run.runId),
          ("workflow_id", .str process.run.workflowId)]
        handling.finishTimestamp
      changeRun fun run => run.updateContinuation taskId fun continuation =>
        { continuation with workflowEvent := some event }
      return event

/-- What `_continue_static_finish` does for a run that has succeeded. -/
def finishWorkflow
    (taskId : TaskId)
    (handling : Handling) :
    CoreCall Unit := do
  let event ← workflowEventOf taskId handling
  appendEventOnce event handling.finishWrite
  persistRun
  let continuation ← continuationOf taskId
  if continuation.workflowNotified then
    pure ()
  else
    noteProgress taskId fun continuation =>
      { continuation with workflowNotified := true }
  if continuation.workflowCleared then
    pure ()
  else
    noteProgress taskId fun continuation =>
      { continuation with workflowCleared := true }

/-- The steps of `_continue_static_finish` after the first check. -/
def continueFinish
    (primitives : Primitives)
    (handling : Handling)
    (taskId : TaskId)
    (continuation : FinishContinuation) :
    CoreCall Unit := do
  if continuation.taskNotified then
    pure ()
  else
    noteProgress taskId fun continuation =>
      { continuation with taskNotified := true }
  if continuation.workflowAdvanced then
    pure ()
  else
    advanceWorkflow taskId
    persistRun
  let advanced ← continuationOf taskId
  advanced.readyTaskIds.forM
    (dispatchReadyTask primitives handling.environment taskId)
  let process ← get
  if process.run.status = .succeeded then
    finishWorkflow taskId handling
  else
    pure ()
  noteProgress taskId fun continuation => { continuation with completed := true }

/-- `_continue_static_finish`. -/
def continueStaticFinish
    (primitives : Primitives)
    (handling : Handling)
    (taskId : TaskId) :
    CoreCall Unit := do
  let continuation ← continuationOf taskId
  if continuation.completed then
    persistRun
  else
    continueFinish primitives handling taskId continuation

/-- `_resume_terminal_finish_continuation`. -/
def resumeFinish
    (primitives : Primitives)
    (handling : Handling)
    (data : PyDict) :
    CoreCall Unit := do
  match data.get "task_id" with
  | .str taskId =>
      let process ← get
      match process.run.continuation? taskId with
      | some continuation =>
          if (PyVal.dict continuation.attemptIdentity).pyEq
              (.dict (finishIdentity data)) then
            continueStaticFinish primitives handling taskId
          else
            pure ()
      | none => pure ()
  | _ => pure ()

/-! ## The transactions -/

/-- `_rollback_task_attempt_event_transaction`. -/
def rollback (before after : StaticProcess) : StaticProcess :=
  { after with run := before.run, gate := before.gate }

/-- `task_nodes[task_id]["metrics"] = metrics`. -/
def setMetrics
    (taskId : TaskId)
    (metrics : PyVal) :
    CoreCall Unit :=
  fun process =>
    if (process.run.node? taskId).isSome then
      .ok ()
        { process with
          run := process.run.updateNode taskId fun node =>
            { node with fields := node.fields.set "metrics" metrics } }
    else
      .error .keyError process

/-- `task_node.mark_task_finished`; the result is the error for the outputs. -/
def markTaskFinished
    (rendering : Rendering)
    (taskId : TaskId)
    (manifest : PyVal)
    (data : PyDict) :
    CoreCall (Option PyVal) :=
  fun process =>
    let finished := process.run.markTaskFinished rendering taskId manifest data
    .ok finished.2 { process with run := finished.1 }

/-- The metrics of a message with the observation. -/
def observedMetrics
    (data : PyDict)
    (observation : PyVal) :
    CoreCall PyVal :=
  match (data.get "metrics").orElse (.dict []) with
  | .dict metrics =>
      return .dict (PyDict.set metrics "resource_observation" observation)
  | _ => throw .typeError

/-- The continuation of a task whose finish has been recorded. -/
def newContinuation
    (data : PyDict)
    (event : RunEvent) :
    FinishContinuation where
  attemptIdentity := finishIdentity data
  completed := false
  taskResult := data.get "result"
  finishEvent := event
  taskNotified := false
  workflowAdvanced := false
  readyTaskIds := []
  sentTaskIds := []
  workflowEvent := none
  workflowNotified := false
  workflowCleared := false

/-- Record a task that has finished, and begin its continuation. -/
def commitSuccess
    (handling : Handling)
    (taskId : TaskId)
    (data : PyDict)
    (manifest metrics observation : PyVal) :
    CoreCall Unit := do
  let noted := (data.set "metrics" metrics).set "resource_observation" observation
  let noted := if manifest.truthy then noted.set "file_manifest" manifest else noted
  setMetrics taskId metrics
  let event ← recordStaticEvent "finish_task" noted handling.timestamp
    handling.write
  changeRun fun run => run.setContinuation taskId (newContinuation noted event)
  returning handling.published

/-- Record a task that has finished without the final outputs of its run. -/
def commitFailure
    (handling : Handling)
    (taskId : TaskId)
    (data : PyDict)
    (outputError metrics observation : PyVal) :
    CoreCall Unit := do
  let error := withObservation outputError observation
  modify fun process =>
    let key := (process.run.runId, taskId)
    { process with
      gate :=
        match process.gate.taskAttempts key with
        | some record =>
            process.gate.remember key
              { record with eventType := .taskException, error := error }
        | none => process.gate }
  let noted := ((data.set "error" error).set "result" error).set "metrics" metrics
  let noted := (noted.set "resource_observation" observation).pop "file_manifest"
  changeRun fun run => run.markTaskFailed taskId error noted
  setMetrics taskId metrics
  let _ ← recordStaticEvent "task_exception" noted handling.timestamp
    handling.write
  return

/-- The transaction of a finished task; the result says whether it succeeded. -/
def commitFinish
    (rendering : Rendering)
    (handling : Handling)
    (taskId : TaskId)
    (data : PyDict) :
    CoreCall Bool := do
  let manifest ← returning handling.manifest
  let outputError ← markTaskFinished rendering taskId manifest data
  let observation ← returning handling.observation
  let metrics ← observedMetrics data observation
  match outputError with
  | none =>
      commitSuccess handling taskId data manifest metrics observation
      return true
  | some error =>
      commitFailure handling taskId data error metrics observation
      return false

/-- The transaction of a started task. -/
def commitStart
    (handling : Handling)
    (taskId : TaskId)
    (data : PyDict) :
    CoreCall Unit := do
  changeRun fun run => run.markTaskStarted taskId data
  let _ ← recordStaticEvent "start_task" data handling.timestamp handling.write
  return

/-- The transaction of a retried task. -/
def commitRetry
    (handling : Handling)
    (taskId : TaskId)
    (data : PyDict) :
    CoreCall Unit := do
  let observation ← returning handling.observation
  let error := withObservation (data.get "error") observation
  let noted := data.set "resource_observation" observation
  let noted :=
    match error with
    | .dict _ => noted.set "error" error
    | _ => noted
  changeRun fun run => run.markTaskRetry taskId error noted
  let _ ← recordStaticEvent "task_retry" noted handling.timestamp handling.write
  return

/-- The transaction of a failed task. -/
def commitException
    (handling : Handling)
    (taskId : TaskId)
    (data : PyDict) :
    CoreCall Unit := do
  let observation ← returning handling.observation
  let error := withObservation (AttemptGate.errorOrResult data) observation
  let noted :=
    match error with
    | .dict _ => (data.set "error" error).set "result" error
    | _ => data
  let noted := noted.set "resource_observation" observation
  changeRun fun run => run.markTaskFailed taskId error noted
  let _ ← recordStaticEvent "task_exception" noted handling.timestamp
    handling.write
  return

/-- What Core does with a message that the gate has let through. -/
def handleAccepted
    (rendering : Rendering)
    (primitives : Primitives)
    (handling : Handling)
    (messageType : AttemptGate.MessageType)
    (gate : AttemptGate.Gate)
    (taskId : TaskId)
    (data : PyDict) :
    CoreCall Unit := do
  let accept : CoreCall Unit := modify fun process => { process with gate := gate }
  match messageType with
  | .startTask =>
      restoring rollback do
        accept
        commitStart handling taskId data
  | .taskRetry =>
      restoring rollback do
        accept
        commitRetry handling taskId (data.pop "file_manifest")
  | .taskException =>
      restoring rollback do
        accept
        commitException handling taskId (data.pop "file_manifest")
  | .finishTask =>
      let succeeded ← restoring rollback do
        accept
        commitFinish rendering handling taskId data
      if succeeded then
        continueStaticFinish primitives handling taskId
      else
        pure ()

/-- A message with an attempt, from the gate on. -/
def handleAttempt
    (rendering : Rendering)
    (primitives : Primitives)
    (handling : Handling)
    (messageType : AttemptGate.MessageType)
    (data : PyDict) :
    CoreCall Unit := do
  let process ← get
  match ← returning
      (AttemptGate.acceptTaskAttemptEvent messageType data process.gate) with
  | none =>
      if messageType = .finishTask then
        resumeFinish primitives handling data
      else
        pure ()
  | some gate =>
      match data.get "task_id" with
      | .str taskId =>
          if process.listening && !process.run.isTerminal then
            handleAccepted rendering primitives handling messageType gate
              taskId data
          else
            pure ()
      | _ => throw .keyError

/-- A `task_pending` message; it passes no gate and has no transaction. -/
def handlePending
    (handling : Handling)
    (data : PyDict) :
    CoreCall Unit := do
  let process ← get
  if process.listening && !process.run.isTerminal then
    match data.get "task_id" with
    | .str taskId =>
        changeRun fun run => run.markTaskPending taskId data
        let _ ← recordStaticEvent "task_pending" data handling.timestamp
          handling.write
        return
    | _ => throw .keyError
  else
    pure ()

/-! ## The monitor -/

/-- The message is kept after `OSError` and dropped after anything else. -/
def conclude
    (message : SchedulerMessage) :
    EStateM.Result PyErr StaticProcess Unit → StaticProcess
  | .ok _ process => { process with retrying := none }
  | .error .osError process => { process with retrying := some message }
  | .error _ process => { process with retrying := none }

/-- One round of `monitor_coroutine`. -/
def handle
    (rendering : Rendering)
    (primitives : Primitives)
    (handling : Handling)
    (message : SchedulerMessage)
    (process : StaticProcess) :
    StaticProcess :=
  let process := { process with saves := handling.saves }
  match message with
  | .pending data => conclude message (handlePending handling data process)
  | .attempt messageType data =>
      match AttemptGate.acceptTaskAttemptEvent messageType data
          process.gate with
      | .error .artifactError =>
          { process with
            retrying := some (artifactFailure data handling.artifactError) }
      | _ =>
          conclude message
            (handleAttempt rendering primitives handling messageType data
              process)

/-- `stop_workflow`, without its message to the scheduler. -/
def stopWorkflow (handling : Handling) : CoreCall Unit := do
  modify fun process => { process with listening := false }
  changeRun fun run => run.markCancelled (.str "Workflow stopped")
  let process ← get
  let _ ← recordStaticEvent "cancel_workflow"
    [("run_id", .str process.run.runId),
      ("workflow_id", .str process.run.workflowId),
      ("reason", .str "Workflow stopped")]
    handling.timestamp handling.write
  return

/-- The part of `_sweep_run_deadlines` that is about the run. -/
def sweepDeadline
    (rendering : Rendering)
    (now : Time)
    (handling : Handling) :
    CoreCall Unit := do
  let process ← get
  let timedOut := process.run.markTimedOutIfNeeded rendering now
  if timedOut.2 then
    changeRun fun _ => timedOut.1
    let _ ← recordStaticEvent "timeout_workflow"
      [("run_id", .str process.run.runId),
        ("workflow_id", .str process.run.workflowId),
        ("timeout_seconds", process.run.timeoutSeconds),
        ("deadline_time", process.run.deadlineTime rendering)]
      handling.timestamp handling.write
    return
  else
    pure ()

/-- The process that a call leaves behind, however it ends. -/
def leaving
    (handling : Handling)
    (call : CoreCall Unit)
    (process : StaticProcess) :
    StaticProcess :=
  match call { process with saves := handling.saves } with
  | .ok _ after | .error _ after => after

/-- What happens to a run in Core. -/
inductive Action where
  | receive (message : SchedulerMessage) (handling : Handling)
  | retry (handling : Handling)
  | stop (handling : Handling)
  | sweep (now : Time) (handling : Handling)

/--
One step. Another message is received only when none waits to be handled again,
and it is about this run.
-/
def step?
    (rendering : Rendering)
    (primitives : Primitives)
    (process : StaticProcess) :
    Action → Option StaticProcess
  | .receive message handling =>
      if process.retrying.isNone ∧
          message.data.get "workflow_id" = .str process.run.runId then
        some (handle rendering primitives handling message process)
      else
        none
  | .retry handling =>
      process.retrying.map fun message =>
        handle rendering primitives handling message process
  | .stop handling => some (leaving handling (stopWorkflow handling) process)
  | .sweep now handling =>
      some (leaving handling (sweepDeadline rendering now handling) process)

/-! ## Submission -/

/-- The node of a task when its run is made. -/
def initialNode
    (workflow : Workflow)
    (taskId : TaskId)
    (task : WorkflowTask) :
    StaticTaskNode where
  taskId := taskId
  status :=
    if (workflow.predecessors taskId).isEmpty then .queued else .pending
  parents := workflow.predecessors taskId
  children := workflow.successors taskId
  fields :=
    [("resources", .dict task.resources), ("selected_node", .null),
      ("result_summary", .null), ("error", .null), ("attempt", .int 0),
      ("dispatch_id", .null), ("lease_id", .null), ("last_error", .null),
      ("pending_reason", .null), ("schedule_decision", .null),
      ("file_manifest", .null),
      ("fault_tolerance",
        .dict
          [("enabled", .bool true), ("status", .str "idle"),
            ("attempts", .list [])])]

/-- What a submission is given. -/
structure Submission where
  workflow : Workflow
  runId : PyStr
  workflowId : PyStr
  timeoutSeconds : PyVal
  deadline : Option Time
  finalOutputRefs : Option PyVal
  timestamp : PyStr

/-- `StaticRun(...)`. -/
def newRun (submission : Submission) : StaticRun where
  runId := submission.runId
  workflowId := submission.workflowId
  status := .created
  deadline := submission.deadline
  timeoutSeconds := submission.timeoutSeconds
  errorSummary := .null
  resultSummary := .null
  finalOutputRefs := submission.finalOutputRefs
  taskNodes :=
    (submission.workflow.tasks.insertionSort fun first second =>
      first.1.chars ≤ second.1.chars).map fun entry =>
        initialNode submission.workflow entry.1 entry.2
  eventLog := []
  eventSeq := 0
  finishContinuations := []

/-- The process that `_start_workflow` leaves behind where it returns. -/
def submitted (submission : Submission) : StaticProcess :=
  let started := (newRun submission).appendEvent "start_workflow"
    [("run_id", .str submission.runId),
      ("workflow_id", .str submission.workflowId), ("run_type", .str "static"),
      ("total_task_num", .int submission.workflow.tasks.length)]
    submission.timestamp
  { workflow := submission.workflow
    completedTasks := []
    run := started.1
    gate := AttemptGate.Gate.empty
    listening := true
    log := (EventLog.appendEventOnce .static EventLog.empty
      (eventEntries started.2) .completes).1
    saves := []
    sentTasks := submission.workflow.startTasks
    retrying := none }

end StaticCore

end Maze.Core
