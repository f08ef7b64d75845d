import Maze.Core.DynamicPersistence
import Maze.Core.SchedulerMessages
import Maze.Core.TaskPreparation
import Maze.Library.Fallible

namespace Maze.Core

open Maze.Python
open Maze.Library.Fallible

/-!
# Core's handling of a dynamic run

Tasks are appended while the run goes on. A task whose parents have completed is
sent with its append; another one is sent by the continuation of the finish that
completes its last parent. As for a static run, a message whose handling raises
`OSError` is handled again, and one whose handling raises anything else is
dropped.
-/

/-- What a continuation notes of a task that has become ready. -/
structure ReadyTask where
  taskId : TaskId
  event : Option RunEvent
  emitted : Bool
  dispatched : Bool

/-- An entry of `finish_continuations` of a dynamic run. -/
structure DynamicContinuation where
  attemptIdentity : PyDict
  completed : Bool
  notified : Bool
  ready : List ReadyTask

/-- The clock and the faults of one write to the store. -/
structure Moment where
  timestamp : PyStr
  now : Time
  faults : Faults

/-- A dynamic run in Core. -/
structure DynamicProcess where
  run : DynamicRun
  /-- What the tasks of the run are sent with. -/
  payloads : List (TaskId × WorkflowTask)
  continuations : List (TaskId × DynamicContinuation)
  gate : AttemptGate.Gate
  files : DynamicFiles
  /-- The moments of the writes to come. -/
  moments : List Moment
  /-- The tasks whose `run_task` message has gone to the scheduler. -/
  sentTasks : List TaskId
  retrying : Option SchedulerMessage

/-- What a call on a dynamic run meets outside of the run. -/
structure DynamicHandling where
  environment : Environment
  now : Time
  /-- What `_publish_task_file_manifest` returns or raises. -/
  manifest : Except PyErr PyVal
  /-- What `_resource_observation_from_message` returns or raises. -/
  observation : Except PyErr PyVal
  /-- How `_persist_task_file_manifest` ends. -/
  published : Except PyErr Unit
  /-- The envelope of an `ArtifactError`. -/
  artifactError : PyVal
  moments : List Moment

namespace DynamicMonitor

open SchedulerMessage (artifactFailure finishIdentity withObservation)

/-- A call of Core on a dynamic run. -/
abbrev MonitorCall := EStateM PyErr DynamicProcess

/-- Change the run in memory. -/
def changeRun (change : DynamicRun → DynamicRun) : MonitorCall Unit :=
  modify fun process => { process with run := change process.run }

/-- The moment of the next write. -/
def nextMoment (process : DynamicProcess) : Moment :=
  process.moments.head?.getD ⟨"", 0, ⟨.none, .none, .none⟩⟩

/-- Write to the store, and end as the writes do. -/
def writing
    (perform : DynamicProcess → Moment → Performed) :
    MonitorCall Unit :=
  fun process =>
    let performed := perform process (nextMoment process)
    let after :=
      { process with
        files := DynamicRunStore.writeAll process.files performed.writes
        moments := process.moments.tail }
    match performed.result with
    | .ok () => .ok () after
    | .error raised => .error raised after

/-- `_persist_dynamic_run`. -/
def persistRun : MonitorCall Unit :=
  writing fun process moment =>
    DynamicRunStore.attempt moment.faults.save (.snapshot process.run.snapshot)

/-- `append_event_once` and `save_run`. -/
def persistEvent (event : RunEvent) : MonitorCall Unit :=
  writing fun process moment =>
    DynamicRunStore.persistEvent process.files event process.run.snapshot
      moment.faults

/-- `append_event`. -/
def appendEvent
    (eventType : PyStr)
    (data : PyDict) :
    MonitorCall RunEvent :=
  fun process =>
    let moment := nextMoment process
    let appended :=
      process.run.appendEvent eventType data moment.timestamp moment.now
    .ok appended.2 { process with run := appended.1 }

/-- `_persist_dynamic_scheduler_event`, and `_emit_dynamic_event` of a new event. -/
def recordEvent
    (eventType : PyStr)
    (data : PyDict) :
    MonitorCall Unit := do
  let event ← appendEvent eventType data
  persistEvent event

/-- `_emit_dynamic_event` of an event that has a number. -/
def emitStored (event : RunEvent) : MonitorCall Unit := do
  let process ← get
  match process.run.eventLog.find? fun candidate => candidate.seq = event.seq with
  | some candidate =>
      if candidate = event then persistEvent candidate else throw .runtimeError
  | none => recordEvent event.eventType event.data

/-! ## What follows from a finished task -/

/-- The continuation of a task. -/
def continuationOf (taskId : TaskId) : MonitorCall DynamicContinuation :=
  fun process =>
    match process.continuations.lookup taskId with
    | some continuation => .ok continuation process
    | none => .error .keyError process

/-- Change the continuation of a task. -/
def updateContinuation
    (taskId : TaskId)
    (change : DynamicContinuation → DynamicContinuation)
    (continuations : List (TaskId × DynamicContinuation)) :
    List (TaskId × DynamicContinuation) :=
  continuations.map fun entry =>
    if entry.1 = taskId then (entry.1, change entry.2) else entry

/-- Note something in the continuation of a task. -/
def note
    (taskId : TaskId)
    (change : DynamicContinuation → DynamicContinuation) :
    MonitorCall Unit :=
  modify fun process =>
    { process with
      continuations := updateContinuation taskId change process.continuations }

/-- A change of what a continuation notes of one ready task. -/
def changeReady
    (readyTaskId : TaskId)
    (change : ReadyTask → ReadyTask)
    (continuation : DynamicContinuation) :
    DynamicContinuation :=
  { continuation with
    ready := continuation.ready.map fun ready =>
      if ready.taskId = readyTaskId then change ready else ready }

/-- What the continuation notes of a ready task. -/
def readyTaskOf (taskId readyTaskId : TaskId) : MonitorCall ReadyTask := do
  let continuation ← continuationOf taskId
  match continuation.ready.find? fun ready => ready.taskId = readyTaskId with
  | some ready => return ready
  | none => throw .keyError

/-- `_submit_dynamic_task`. -/
def submitTask
    (primitives : Primitives)
    (environment : Environment)
    (taskId : TaskId) :
    MonitorCall Unit :=
  fun process =>
    match process.payloads.lookup taskId with
    | none => .error .keyError process
    | some task =>
        match TaskPreparation.prepareTaskResources primitives environment
            task with
        | .error raised => .error raised process
        | .ok _ =>
            .ok () { process with sentTasks := process.sentTasks ++ [taskId] }

/-- The data of the event that tells that a task is ready. -/
def readyData
    (process : DynamicProcess)
    (readyTaskId : TaskId)
    (task : CodeTask) :
    PyDict :=
  [("run_id", .str process.run.runId), ("task_id", .str readyTaskId),
    ("task_name", .str task.taskName),
    ("task_kind",
      ((process.payloads.lookup readyTaskId).map fun payload =>
        PyVal.str payload.taskKind.text).getD .null)]

/-- The event that tells that a task is ready; it is made once. -/
def readyEventOf
    (taskId readyTaskId : TaskId)
    (ready : ReadyTask)
    (data : PyDict) :
    MonitorCall RunEvent :=
  match ready.event with
  | some event => return event
  | none => do
      let event ← appendEvent "task_ready" data
      note taskId
        (changeReady readyTaskId fun ready => { ready with event := some event })
      return event

/-- Tell that a task is ready, unless it has been told. -/
def announce
    (taskId readyTaskId : TaskId)
    (ready : ReadyTask)
    (event : RunEvent) :
    MonitorCall Unit :=
  if ready.emitted then
    pure ()
  else do
    emitStored event
    note taskId
      (changeReady readyTaskId fun ready => { ready with emitted := true })
    persistRun

/-- Send a ready task, unless it has been sent. -/
def dispatch
    (primitives : Primitives)
    (environment : Environment)
    (taskId readyTaskId : TaskId)
    (ready : ReadyTask) :
    MonitorCall Unit :=
  if ready.dispatched then
    pure ()
  else do
    submitTask primitives environment readyTaskId
    note taskId
      (changeReady readyTaskId fun ready => { ready with dispatched := true })
    persistRun

/-- One task of the loop over the tasks that have become ready. -/
def continueReadyTask
    (primitives : Primitives)
    (environment : Environment)
    (taskId readyTaskId : TaskId) :
    MonitorCall Unit := do
  let ready ← readyTaskOf taskId readyTaskId
  let process ← get
  match process.run.tasks.lookup readyTaskId with
  | none => throw .keyError
  | some task =>
      let event ← readyEventOf taskId readyTaskId ready
        (readyData process readyTaskId task)
      announce taskId readyTaskId ready event
      dispatch primitives environment taskId readyTaskId ready

/-- The note that everything of a continuation has been done. -/
def complete (taskId : TaskId) : MonitorCall Unit := do
  note taskId fun continuation => { continuation with completed := true }
  persistRun

/-- The note that the finish has been told. -/
def notify
    (taskId : TaskId)
    (continuation : DynamicContinuation) :
    MonitorCall Unit :=
  if continuation.notified then
    pure ()
  else do
    note taskId fun continuation => { continuation with notified := true }
    persistRun

/-- `_continue_dynamic_finish`. -/
def continueDynamicFinish
    (primitives : Primitives)
    (environment : Environment)
    (taskId : TaskId) :
    MonitorCall Unit := do
  let continuation ← continuationOf taskId
  if continuation.completed then
    persistRun
  else
    notify taskId continuation
    (continuation.ready.map ReadyTask.taskId).forM
      (continueReadyTask primitives environment taskId)
    complete taskId

/-- `_resume_terminal_finish_continuation`. -/
def resumeFinish
    (primitives : Primitives)
    (environment : Environment)
    (data : PyDict) :
    MonitorCall Unit := do
  match data.get "task_id" with
  | .str taskId =>
      let process ← get
      match process.continuations.lookup taskId with
      | some continuation =>
          if (PyVal.dict continuation.attemptIdentity).pyEq
              (.dict (finishIdentity data)) then
            continueDynamicFinish primitives environment taskId
          else
            pure ()
      | none => pure ()
  | _ => pure ()

/-! ## The transactions -/

/-- `_rollback_task_attempt_event_transaction`. -/
def rollback (before after : DynamicProcess) : DynamicProcess :=
  { after with
    run := before.run
    gate := before.gate
    continuations := before.continuations }

/-- Set the continuation of a task. -/
def setContinuation
    (taskId : TaskId)
    (continuation : DynamicContinuation)
    (continuations : List (TaskId × DynamicContinuation)) :
    List (TaskId × DynamicContinuation) :=
  (taskId, continuation) ::
    continuations.filter fun entry => entry.1 ≠ taskId

/-- The continuation of a task that has finished. -/
def newContinuation
    (data : PyDict)
    (ready : List TaskId) :
    DynamicContinuation where
  attemptIdentity := finishIdentity data
  completed := false
  notified := false
  ready := ready.map fun taskId => ⟨taskId, none, false, false⟩

/-- `set_task_file_manifest`, of the manifest that was published. -/
def setManifest
    (taskId : TaskId)
    (manifest : PyVal)
    (run : DynamicRun) :
    DynamicRun :=
  if manifest.truthy then
    { run with taskFileManifests := run.taskFileManifests.set taskId manifest }
  else
    run

/-- `mark_finished`, and the continuation of the task. -/
def finishTask
    (handling : DynamicHandling)
    (taskId : TaskId)
    (data : PyDict)
    (manifest : PyVal)
    (process : DynamicProcess) :
    DynamicProcess :=
  let finished := (setManifest taskId manifest process.run).markFinished taskId
    (data.get "fault_tolerance") handling.now
  { process with
    run := finished.1
    continuations := setContinuation taskId (newContinuation data finished.2)
      process.continuations }

/-- The transaction of a finished task. -/
def commitFinish
    (handling : DynamicHandling)
    (taskId : TaskId)
    (data : PyDict) :
    MonitorCall Unit := do
  let manifest ← returning handling.manifest
  let noted := if manifest.truthy then data.set "file_manifest" manifest else data
  let observation ← returning handling.observation
  let noted := noted.set "resource_observation" observation
  modify (finishTask handling taskId noted manifest)
  recordEvent "finish_task" noted
  returning handling.published

/-- The transaction of a started task. -/
def commitStart
    (handling : DynamicHandling)
    (taskId : TaskId)
    (data : PyDict) :
    MonitorCall Unit := do
  changeRun fun run => run.markStarted taskId handling.now
  recordEvent "start_task" data

/-- The transaction of a retried task. -/
def commitRetry
    (handling : DynamicHandling)
    (taskId : TaskId)
    (data : PyDict) :
    MonitorCall Unit := do
  let observation ← returning handling.observation
  let error := withObservation (data.get "error") observation
  let noted := data.set "resource_observation" observation
  let noted :=
    match error with
    | .dict _ => noted.set "error" error
    | _ => noted
  changeRun fun run =>
    run.markRetrying taskId error (data.get "fault_tolerance") handling.now
  recordEvent "task_retry" noted

/-- The transaction of a failed task. -/
def commitException
    (handling : DynamicHandling)
    (taskId : TaskId)
    (data : PyDict) :
    MonitorCall Unit := do
  let observation ← returning handling.observation
  let error := withObservation (AttemptGate.errorOrResult data) observation
  let noted := data.set "resource_observation" observation
  let noted :=
    match error with
    | .dict _ => (noted.set "error" error).set "result" error
    | _ => noted
  changeRun fun run =>
    run.markFailed taskId error (data.get "fault_tolerance") handling.now
  recordEvent "task_exception" noted

/-- The transaction of a message. -/
def commit
    (handling : DynamicHandling)
    (messageType : AttemptGate.MessageType)
    (taskId : TaskId)
    (data : PyDict) :
    MonitorCall Unit :=
  match messageType with
  | .startTask => commitStart handling taskId data
  | .taskRetry => commitRetry handling taskId (data.pop "file_manifest")
  | .taskException => commitException handling taskId (data.pop "file_manifest")
  | .finishTask => commitFinish handling taskId data

/-- `_handle_dynamic_scheduler_event`, with the gate that the message has passed. -/
def handleAccepted
    (primitives : Primitives)
    (handling : DynamicHandling)
    (messageType : AttemptGate.MessageType)
    (gate : AttemptGate.Gate)
    (taskId : TaskId)
    (data : PyDict) :
    MonitorCall Unit := do
  restoring rollback do
    modify fun process => { process with gate := gate }
    commit handling messageType taskId
      (data.setDefault "run_id" (data.get "workflow_id"))
  if messageType = .finishTask then
    continueDynamicFinish primitives handling.environment taskId
  else
    pure ()

/-- A message with an attempt, from the gate on. -/
def handleAttempt
    (primitives : Primitives)
    (handling : DynamicHandling)
    (messageType : AttemptGate.MessageType)
    (data : PyDict) :
    MonitorCall Unit := do
  let process ← get
  match ← returning
      (AttemptGate.acceptTaskAttemptEvent messageType data process.gate) with
  | none =>
      if messageType = .finishTask then
        resumeFinish primitives handling.environment data
      else
        pure ()
  | some gate =>
      match data.get "task_id" with
      | .str taskId =>
          if process.run.isTerminal then
            pure ()
          else
            handleAccepted primitives handling messageType gate taskId data
      | _ => throw .keyError

/-- A `task_pending` message; it passes no gate and has no transaction. -/
def handlePending (data : PyDict) : MonitorCall Unit := do
  let process ← get
  if process.run.isTerminal then
    pure ()
  else
    recordEvent "task_pending"
      (data.setDefault "run_id" (data.get "workflow_id"))

/-! ## The monitor and the calls of clients -/

/-- The message is kept after `OSError` and dropped after anything else. -/
def conclude
    (message : SchedulerMessage) :
    EStateM.Result PyErr DynamicProcess Unit → DynamicProcess
  | .ok _ process => { process with retrying := none }
  | .error .osError process => { process with retrying := some message }
  | .error _ process => { process with retrying := none }

/-- One round of `monitor_coroutine`. -/
def handle
    (primitives : Primitives)
    (handling : DynamicHandling)
    (message : SchedulerMessage)
    (process : DynamicProcess) :
    DynamicProcess :=
  let process := { process with moments := handling.moments }
  match message with
  | .pending data => conclude message (handlePending data process)
  | .attempt messageType data =>
      match AttemptGate.acceptTaskAttemptEvent messageType data
          process.gate with
      | .error .artifactError =>
          { process with
            retrying := some (artifactFailure data handling.artifactError) }
      | _ =>
          conclude message
            (handleAttempt primitives handling messageType data process)

/-- What is done to a dynamic run beside messages and appends. -/
inductive ApiCall where
  | registerTaskSpec (data : PyDict)
  | emitEvent (eventType : PyStr) (data : PyDict)
  | finalize (result : PyVal)
  | cancel (reason : PyVal)
  | timeOut (data : PyDict)
  | interrupt (reason : PyVal) (data : PyDict)

/-- The operation on the run. -/
def ApiCall.operation : ApiCall → DynamicCore.Operation
  | .registerTaskSpec data => .registerTaskSpec data
  | .emitEvent eventType data => .emitEvent eventType data
  | .finalize result => .finalize result
  | .cancel reason => .cancel reason
  | .timeOut data => .timeOut data
  | .interrupt reason data => .interrupt reason data

/-- The operation changes the run and, where it goes through, records its event. -/
def operate
    (render : Time → PyStr)
    (handling : DynamicHandling)
    (call : ApiCall) :
    MonitorCall Unit := do
  let process ← get
  let applied := DynamicCore.apply render process.run handling.now call.operation
  changeRun fun _ => applied.1
  match applied.2 with
  | some draft => recordEvent draft.eventType draft.data
  | none => pure ()

/-- `append_dynamic_task`, from `append_task` on. -/
def appendTask
    (render : Time → PyStr)
    (primitives : Primitives)
    (handling : DynamicHandling)
    (request : DynamicRun.AppendRequest)
    (payload : WorkflowTask)
    (data : PyDict) :
    MonitorCall Unit := do
  let process ← get
  let appended := process.run.appendTask render request handling.now
  changeRun fun _ => appended.state
  match appended.result with
  | .error raised => throw raised
  | .ok (_, true) => pure ()
  | .ok (taskId, false) => do
      modify fun process =>
        { process with payloads := (taskId, payload) :: process.payloads }
      recordEvent "append_task" data
      let process ← get
      if taskId ∈ process.run.submittedTasks then
        submitTask primitives handling.environment taskId
      else
        pure ()

/-- The process that a call leaves behind, however it ends. -/
def leaving
    (handling : DynamicHandling)
    (call : MonitorCall Unit)
    (process : DynamicProcess) :
    DynamicProcess :=
  match call { process with moments := handling.moments } with
  | .ok _ after | .error _ after => after

/-- What happens to a dynamic run in Core. -/
inductive Action where
  | receive (message : SchedulerMessage) (handling : DynamicHandling)
  | retry (handling : DynamicHandling)
  | append
      (request : DynamicRun.AppendRequest)
      (payload : WorkflowTask)
      (data : PyDict)
      (handling : DynamicHandling)
  | call (call : ApiCall) (handling : DynamicHandling)

/--
One step. Another message is received only when none waits to be handled again,
and it is about this run; the id of an appended task is a new UUID.
-/
def step?
    (render : Time → PyStr)
    (primitives : Primitives)
    (process : DynamicProcess) :
    Action → Option DynamicProcess
  | .receive message handling =>
      if process.retrying.isNone ∧
          message.data.get "workflow_id" = .str process.run.runId then
        some (handle primitives handling message process)
      else
        none
  | .retry handling =>
      process.retrying.map fun message =>
        handle primitives handling message process
  | .append request payload data handling =>
      if request.taskId ∈ process.run.tasks.map Prod.fst then
        none
      else
        some (leaving handling
          (appendTask render primitives handling request payload data) process)
  | .call call handling =>
      some (leaving handling (operate render handling call) process)

/-- The process of a new dynamic run. -/
def created
    (runId : PyStr)
    (maxTasks : Int)
    (timeoutSeconds : Option Time)
    (fileContext : PyVal)
    (now : Time) :
    DynamicProcess where
  run := .new runId maxTasks timeoutSeconds fileContext now
  payloads := []
  continuations := []
  gate := .empty
  files := ⟨[], [], none⟩
  moments := []
  sentTasks := []
  retrying := none

end DynamicMonitor

end Maze.Core
