import Maze.Scheduler.WorkflowRegistry
import Maze.Core.StaticRecovery

namespace Maze.Core.WorkflowDispatch

open Maze.Python
open Maze.Library
open Maze.Library.Transition
open Maze.Scheduler.WorkflowRegistry (Registry)

/-!
# The dispatch of a workflow and its cleanup

`run_workflow` saves a run before it sends anything of it: the dispatch of the run
is `prepared`, then `dispatching` while the first tasks are sent, then `active`. A
submission that fails while it is prepared ends the run at once. After that the
scheduler may hold tasks of the run, so Core asks it to stop them, and only the
answer to that request, the exit of the scheduler or too many unanswered requests
end the run and revoke what its tasks may read. A restart of Core goes on from what
is on disk.

A call of Core runs to its end before any other call begins. Every operation in it
that touches the disk, the artifact store or the scheduler may raise, before or
after it has had its effect, and Core's process may die there. What the other
handlers do to a run whose dispatch has ended is seen as changes of the run, saves
and messages. Dynamic runs have ids of their own and are left out.
-/

/-! ## Operations that may fail -/

/-- An exception: the name of its class, and `str(exc)`. -/
structure Raised where
  exceptionType : PyStr
  message : PyStr
  deriving DecidableEq

/-- How an operation ends; `took` says whether it has had its effect. -/
inductive Outcome where
  | returns
  | raises (took : Bool) (raised : Raised)
  | crashes (took : Bool)
  deriving DecidableEq

/-- The operation has had its effect. -/
def Outcome.took : Outcome → Bool
  | .returns => true
  | .raises took _ | .crashes took => took

/-- How a call ends that does not return. -/
inductive Ending where
  | raised (raised : Raised)
  /-- `WorkflowRunConflictError`. -/
  | conflict (workflowId : PyStr)
  /-- `WorkflowInitializationError`. -/
  | initialization (phase : DispatchStatus) (message : PyStr)
  | crashed
  deriving DecidableEq

/-! ## The state -/

/-- A static run in memory with `_dispatch` and `_submission_digest`. -/
structure HeldRun where
  run : StaticRun
  dispatch : Dispatch
  submissionDigest : PyStr
  encodable : run.runId.encodable = true ∧ run.workflowId.encodable = true
  deriving DecidableEq

namespace HeldRun

/-- `_static_run_snapshot`. -/
def snapshot (held : HeldRun) : StaticSnapshot :=
  held.run.snapshot held.dispatch held.submissionDigest held.encodable

/-- `_dispatch_requires_cleanup`. -/
def requiresCleanup (held : HeldRun) : Bool :=
  held.dispatch.status = .dispatching || held.dispatch.status = .cleanupPending

/-- The run is changed; its ids stay. -/
def withRun
    (held : HeldRun)
    (run : StaticRun)
    (same :
      run.runId = held.run.runId ∧ run.workflowId = held.run.workflowId) :
    HeldRun :=
  { held with
    run := run
    encodable := by
      rw [same.1, same.2]
      exact held.encodable }

end HeldRun

/-- An entry of `workflow_cleanup_retries`. -/
structure CleanupRetry where
  runId : Identifier
  workflowId : PyStr
  attempts : ℕ
  nextAttempt : Time
  deriving DecidableEq

/-- A message from Core to the scheduler. -/
inductive Message where
  | runTask (runId : Identifier) (taskId : TaskId)
  | stopWorkflow (runId : Identifier) (requestId : Option PyStr)
  | clearWorkflow (runId : Identifier)
  | shutdown
  deriving DecidableEq

/-- The message brings a task of the run. -/
def Message.starts
    (message : Message)
    (runId : Identifier) :
    Bool :=
  match message with
  | .runTask other _ => other = runId
  | _ => false

/-- The data of a `workflow_stopped` message. -/
structure Answer where
  requestId : PyStr
  runId : Identifier
  ok : Bool
  deriving DecidableEq

/--
Core, its disk and the scheduler. No code reads the last three fields: they keep the
tasks that Core has ever sent, those of them that `run_workflow` has sent, and the
submissions that have been answered with their run id.
-/
structure System where
  /-- Core's process runs. -/
  alive : Bool
  staticRuns : Table Identifier HeldRun
  cleanupRequests : Table PyStr Identifier
  cleanupRetries : Table PyStr CleanupRetry
  shutdownRequested : Bool
  /-- The ids that `uuid4` has drawn. -/
  drawn : ℕ
  /-- `run.json` of each run. -/
  stored : Table Identifier StaticSnapshot
  logs : Table Identifier EventLog.Log
  /-- The owners whose artifact capabilities have been revoked. -/
  revoked : List Identifier
  /-- The messages that the scheduler has not received yet. -/
  channel : List Message
  schedulerUp : Bool
  registry : Registry
  /-- The answers that the scheduler has sent; they may come in any order. -/
  answers : List Answer
  /-- What the scheduler has left behind is known to be gone. -/
  rayCleaned : Bool
  sentTasks : List (Identifier × TaskId)
  sentRoots : List (Identifier × TaskId)
  accepted : List (Identifier × PyStr)
  deriving DecidableEq

/-- A call of Core. -/
abbrev Call := EStateM Ending System

/-- An operation with an effect. -/
def perform
    (outcome : Outcome)
    (effect : System → System) :
    Call Unit :=
  fun system =>
    let after := if outcome.took then effect system else system
    match outcome with
    | .returns => .ok () after
    | .raises _ raised => .error (.raised raised) after
    | .crashes _ => .error .crashed after

/-- `raise` of an exception with the class and the message. -/
def raise
    {Value : Type}
    (exceptionType message : PyStr) :
    Call Value :=
  throw (.raised ⟨exceptionType, message⟩)

/-! ## The store -/

/-- How an append to an event log goes. -/
structure LogWrite where
  write : EventLog.Write
  crashes : Bool
  timestamp : PyStr
  /-- How an exception of the append prints. -/
  printed : PyErr → Raised

/-- The log of a run. -/
def System.log
    (system : System)
    (runId : Identifier) :
    EventLog.Log :=
  (system.logs.get? runId).getD EventLog.empty

/-- `save_run`; the log of a terminal run leaves the cache. -/
def storeSnapshot
    (runId : Identifier)
    (snapshot : StaticSnapshot)
    (system : System) :
    System :=
  { system with
    stored := system.stored.set runId snapshot
    logs :=
      if snapshot.status.isTerminal then
        system.logs.modify runId fun log => { log with cache := none }
      else
        system.logs }

/-- `_save_static_run_snapshot`. -/
def saveSnapshot
    (runId : Identifier)
    (snapshot : StaticSnapshot)
    (outcome : Outcome) :
    Call Unit :=
  perform outcome (storeSnapshot runId snapshot)

/-- `_persist_static_run`. -/
def persistStaticRun
    (runId : Identifier)
    (outcome : Outcome) :
    Call Unit := do
  let system ← get
  match system.staticRuns.get? runId with
  | none => return
  | some held => saveSnapshot runId held.snapshot outcome

/-- What an append leaves and how it ends. -/
def appended
    (runId : Identifier)
    (write : LogWrite)
    (written : EventLog.Log × Except PyErr Unit) :
    Call Unit :=
  fun system =>
    let after := { system with logs := system.logs.set runId written.1 }
    if write.crashes then
      .error .crashed after
    else
      match written.2 with
      | .ok () => .ok () after
      | .error failure => .error (.raised (write.printed failure)) after

/-- Change a run in memory. -/
def changeHeld
    (runId : Identifier)
    (change : HeldRun → HeldRun) :
    Call Unit :=
  modify fun system =>
    { system with staticRuns := system.staticRuns.modify runId change }

/-- `static_run._dispatch` is changed. -/
def setDispatch
    (runId : Identifier)
    (dispatch : Dispatch) :
    Call Unit :=
  changeHeld runId fun held => { held with dispatch := dispatch }

/-- The event in memory, and what is then appended to the log. -/
def HeldRun.appendEvent
    (held : HeldRun)
    (eventType : PyStr)
    (data : PyDict)
    (timestamp : PyStr) :
    HeldRun × RunEvent :=
  let event := held.run.appendEvent eventType data timestamp
  (held.withRun event.1 ⟨rfl, rfl⟩, event.2)

/-- `_record_static_event` for an event that is about no task, without the save. -/
def recordStaticEvent
    (runId : Identifier)
    (eventType : PyStr)
    (data : PyDict)
    (write : LogWrite) :
    Call Unit := do
  let system ← get
  match system.staticRuns.get? runId with
  | none => return
  | some held =>
      let event := held.appendEvent eventType data write.timestamp
      changeHeld runId fun _ => event.1
      appended runId write
        (EventLog.appendEventOnce .static (system.log runId)
          (StaticCore.eventEntries event.2) write.write)

/-! ## Failed submissions -/

/-- The status as it is stored. -/
def statusText : DispatchStatus → String
  | .prepared => "prepared"
  | .dispatching => "dispatching"
  | .active => "active"
  | .cleanupPending => "cleanup_pending"
  | .terminal => "terminal"

/-- The `error` of a dispatch. -/
def errorEnvelope (message phase causeType : PyStr) : PyVal :=
  .dict
    [("error_type", .str "workflow_initialization_failed"),
      ("message", .str message), ("phase", .str phase),
      ("cause_type", .str causeType)]

/-- `str(exc) or type(exc).__name__`. -/
def Raised.text (raised : Raised) : PyStr :=
  if raised.message.isEmpty then raised.exceptionType else raised.message

/-- `_dispatch_error`. -/
def dispatchError
    (dispatch : Dispatch)
    (raised : Raised) :
    PyVal :=
  errorEnvelope raised.text (statusText dispatch.status)
    raised.exceptionType

/-- What the end of a failed submission meets. -/
structure Finish where
  load : Outcome
  revoke : Outcome
  write : LogWrite
  save : Outcome

/-- `_revoke_dispatch_artifacts`; the result says whether the status is `revoked`. -/
def revokeDispatchArtifacts
    (runId : Identifier)
    (dispatch : Dispatch)
    (outcome : Outcome) :
    Call Dispatch :=
  match dispatch.artifactOwnerId with
  | none => return dispatch
  | some owner =>
      if owner.isEmpty ∨ dispatch.artifactStatus = .revoked then
        return dispatch
      else if owner ≠ runId.val then
        raise "ValueError" "Stored artifact owner does not match its run"
      else do
        perform outcome fun system =>
          { system with revoked := runId :: system.revoked }
        return { dispatch with artifactStatus := .revoked }

/-- The dispatch of a submission that has failed. -/
def failedDispatch
    (dispatch : Dispatch)
    (error : PyVal) :
    Dispatch :=
  { dispatch with
    status := .terminal
    error := error }

/-- `_mark_snapshot_dispatch_failed`. -/
def markSnapshotDispatchFailed
    (snapshot : StaticSnapshot)
    (dispatch : Dispatch)
    (error : PyVal) :
    StaticSnapshot :=
  let taskNodes := snapshot.taskNodes.map fun node =>
    if node.status.isActive then
      { node with
        status := .cancelled
        fields := (node.fields.set "pending_reason" .null).set "error" error }
    else
      node
  { snapshot with
    dispatch := some (failedDispatch dispatch error)
    status := .failed
    errorSummary := error
    taskNodes := taskNodes
    taskCounts := taskCounts taskNodes }

/-- The event is a `workflow_submission_failed`. -/
def isSubmissionFailure : PyVal → Bool
  | .dict entries =>
      PyDict.get entries "type" = .str "workflow_submission_failed"
  | _ => false

/-- The event of a submission that has failed, for a run that is only on disk. -/
def submissionFailure
    (snapshot : StaticSnapshot)
    (error : PyVal)
    (sequence : Int)
    (timestamp : PyStr) :
    PyDict :=
  [("type", .str "workflow_submission_failed"), ("seq", .int sequence),
    ("timestamp", .str timestamp), ("schema_version", .int 1),
    ("data",
      .dict
        [("run_id", .str snapshot.runId), ("workflow_id", .str snapshot.workflowId),
          ("run_status", .str "failed"), ("error", error)])]

/-- The snapshot with what it says about the events in the log. -/
def withEvents
    (snapshot : StaticSnapshot)
    (eventCount : Nat)
    (lastEventSeq : Int) :
    StaticSnapshot :=
  { snapshot with
    eventCount := eventCount
    lastEventSeq := lastEventSeq }

/-- `_record_snapshot_dispatch_failure`. -/
def recordSnapshotDispatchFailure
    (runId : Identifier)
    (snapshot : StaticSnapshot)
    (error : PyVal)
    (finish : Finish) :
    Call Unit := do
  let system ← get
  match EventLog.loadEvents .static (system.log runId).file with
  | .error failure => throw (.raised (finish.write.printed failure))
  | .ok events =>
      let last := StaticRecovery.lastSequence events
      if events.any isSubmissionFailure then
        saveSnapshot runId (withEvents snapshot events.length last) finish.save
      else
        let file :=
          StaticRecovery.appendEvent (system.log runId).file
            (submissionFailure snapshot error (last + 1) finish.write.timestamp)
            finish.write.write
        appended runId finish.write (⟨file.1, none⟩, file.2)
        saveSnapshot runId (withEvents snapshot (events.length + 1) (last + 1))
          finish.save

/-- `load_run` and `_validate_dispatch`. -/
def loadDispatch
    (runId : Identifier)
    (load : Outcome) :
    Call (StaticSnapshot × Dispatch) := do
  perform load id
  let system ← get
  match system.stored.get? runId with
  | none => raise "ValueError" "Static run not found"
  | some snapshot =>
      match snapshot.dispatch with
      | none => raise "ValueError" "Stored workflow dispatch state is invalid"
      | some dispatch => return (snapshot, dispatch)

/-- `_finish_workflow_dispatch_failure` for a run in memory. -/
def finishHeld
    (runId : Identifier)
    (held : HeldRun)
    (error : PyVal)
    (finish : Finish) :
    Call Unit :=
  if held.dispatch.status = .terminal then
    return
  else do
    let dispatch ← revokeDispatchArtifacts runId held.dispatch finish.revoke
    changeHeld runId fun held =>
      { held.withRun (held.run.markDispatchFailed error) ⟨rfl, rfl⟩ with
        dispatch := failedDispatch dispatch error }
    recordStaticEvent runId "workflow_submission_failed" [("error", error)]
      finish.write
    persistStaticRun runId finish.save

/-- `_finish_workflow_dispatch_failure`. -/
def finishWorkflowDispatchFailure
    (runId : Identifier)
    (error : PyVal)
    (finish : Finish) :
    Call Unit := do
  let system ← get
  match system.staticRuns.get? runId with
  | some held => finishHeld runId held error finish
  | none =>
      let (snapshot, dispatch) ← loadDispatch runId finish.load
      if dispatch.status = .terminal then
        return
      else
        let dispatch ← revokeDispatchArtifacts runId dispatch finish.revoke
        recordSnapshotDispatchFailure runId
          (markSnapshotDispatchFailed snapshot dispatch error) error finish

/-! ## Cleanup requests -/

/-- `str(uuid.uuid4())`. -/
def drawRequestId (uuid4 : ℕ → PyStr) : Call PyStr :=
  fun system => .ok (uuid4 system.drawn) { system with drawn := system.drawn + 1 }

/-- `_send_scheduler_message`. -/
def sendSchedulerMessage
    (message : Message)
    (outcome : Outcome) :
    Call Unit := do
  let system ← get
  if system.schedulerUp then
    perform outcome fun system =>
      { system with channel := system.channel ++ [message] }
  else
    raise "SchedulerUnavailableError" "scheduler process is unavailable"

/-- `_register_workflow_cleanup`. -/
def registerWorkflowCleanup
    (runId : Identifier)
    (workflowId requestId : PyStr) :
    Call CleanupRetry := do
  let system ← get
  if (system.cleanupRequests.get? requestId).any fun other => other ≠ runId then
    raise "ValueError" "Workflow cleanup request belongs to another run"
  else
    modify fun system =>
      { system with
        cleanupRequests := system.cleanupRequests.set requestId runId }
    match system.cleanupRetries.get? requestId with
    | none =>
        let retry : CleanupRetry := ⟨runId, workflowId, 0, 0⟩
        modify fun system =>
          { system with
            cleanupRetries := system.cleanupRetries.set requestId retry }
        return retry
    | some retry =>
        if retry.runId ≠ runId ∨ retry.workflowId ≠ workflowId then
          raise "ValueError" "Workflow cleanup retry belongs to another run"
        else
          return retry

/-- `_clear_workflow_cleanup`. -/
def clearWorkflowCleanup (requestId : PyStr) : Call Unit :=
  modify fun system =>
    { system with
      cleanupRequests := system.cleanupRequests.erase requestId
      cleanupRetries := system.cleanupRetries.erase requestId }

/-- `RUN_WORKFLOW_CLEANUP_RETRY_SECONDS`. -/
def cleanupRetrySeconds : Time := 1 / 4

/-- `RUN_WORKFLOW_CLEANUP_MAX_ATTEMPTS`. -/
def cleanupMaxAttempts : ℕ := 5

/-- The entry after one more attempt. -/
def CleanupRetry.attempted
    (retry : CleanupRetry)
    (now : Time) :
    CleanupRetry :=
  { retry with
    attempts := retry.attempts + 1
    nextAttempt := now + min 5 (cleanupRetrySeconds * 2 ^ retry.attempts) }

/-- What the request for a cleanup meets. -/
structure Request where
  save : Outcome
  send : Outcome
  now : Time

/-- The exceptions of a call are logged; a crash is not one of them. -/
def logging (call : Call Unit) : Call Unit :=
  tryCatch call fun ending =>
    if ending = .crashed then throw .crashed else return

/-- `_send_workflow_cleanup_request`. -/
def sendWorkflowCleanupRequest
    (runId : Identifier)
    (workflowId requestId : PyStr)
    (request : Request) :
    Call Unit := do
  let retry ← registerWorkflowCleanup runId workflowId requestId
  modify fun system =>
    { system with
      cleanupRetries :=
        system.cleanupRetries.set requestId (retry.attempted request.now) }
  logging
    (sendSchedulerMessage (.stopWorkflow runId (some requestId)) request.send)

/--
The dispatch of a run that is to be cleaned up: as it is, or noted under a new id.
`keep` notes it where it came from and saves the run.
-/
def pendingDispatch
    (uuid4 : ℕ → PyStr)
    (dispatch : Dispatch)
    (error : PyVal)
    (keep : Dispatch → Call Unit) :
    Call Dispatch :=
  if dispatch.status = .cleanupPending then
    return dispatch
  else do
    let requestId ← drawRequestId uuid4
    let pending : Dispatch :=
      { dispatch with
        status := .cleanupPending
        cleanupRequestId := some requestId
        error := error }
    keep pending
    return pending

/-- `_request_workflow_cleanup`. -/
def requestWorkflowCleanup
    (uuid4 : ℕ → PyStr)
    (runId : Identifier)
    (workflowId : PyStr)
    (dispatch : Dispatch)
    (error : PyVal)
    (keep : Dispatch → Call Unit)
    (request : Request) :
    Call Unit := do
  let pending ← pendingDispatch uuid4 dispatch error keep
  match pending.cleanupRequestId with
  | none => raise "ValueError" "Pending workflow cleanup has no request ID"
  | some requestId =>
      if requestId.isEmpty then
        raise "ValueError" "Pending workflow cleanup has no request ID"
      else
        sendWorkflowCleanupRequest runId workflowId requestId request

/-- The dispatch of a run in memory is noted and the run is saved. -/
def keepDispatch
    (runId : Identifier)
    (save : Outcome)
    (dispatch : Dispatch) :
    Call Unit := do
  setDispatch runId dispatch
  persistStaticRun runId save

/-- `_request_workflow_cleanup` for a run in memory. -/
def requestHeldCleanup
    (uuid4 : ℕ → PyStr)
    (runId : Identifier)
    (held : HeldRun)
    (error : PyVal)
    (request : Request) :
    Call Unit :=
  requestWorkflowCleanup uuid4 runId held.run.workflowId held.dispatch error
    (keepDispatch runId request.save) request

/-- The error of a dispatch that has none. -/
def unexplained : PyVal :=
  errorEnvelope "Workflow submission failed" "cleanup" "RuntimeError"

/-- The dispatch that Core goes by: that of the run in memory, else that on disk. -/
def currentDispatch
    (runId : Identifier)
    (load : Outcome) :
    Call Dispatch := do
  let system ← get
  match system.staticRuns.get? runId with
  | some held => return held.dispatch
  | none => return (← loadDispatch runId load).2

/-- `_confirm_workflow_cleanup`. -/
def confirmWorkflowCleanup
    (runId : Identifier)
    (requestId : PyStr)
    (finish : Finish) :
    Call Unit := do
  let dispatch ← currentDispatch runId finish.load
  if dispatch.status = .cleanupPending ∧
      dispatch.cleanupRequestId = some requestId then
    finishWorkflowDispatchFailure runId (dispatch.error.orElse unexplained) finish
    clearWorkflowCleanup requestId
  else
    clearWorkflowCleanup requestId

/-- `_handle_workflow_cleanup_response`. -/
def handleWorkflowCleanupResponse
    (answer : Answer)
    (finish : Finish) :
    Call Unit := do
  let system ← get
  let runId := (system.cleanupRequests.get? answer.requestId).getD answer.runId
  if answer.runId ≠ runId then
    return
  else if answer.ok then
    confirmWorkflowCleanup runId answer.requestId finish
  else
    return

/-- `_cleanup_is_pending`; what cannot be read is not pending. -/
def cleanupIsPending
    (runId : Identifier)
    (requestId : PyStr)
    (load : Outcome) :
    Call Bool := do
  let system ← get
  match system.staticRuns.get? runId with
  | some held =>
      return held.dispatch.status = .cleanupPending &&
        held.dispatch.cleanupRequestId = some requestId
  | none =>
      tryCatch
        (do
          perform load id
          return ((system.stored.get? runId).bind fun snapshot =>
            snapshot.dispatch).any fun dispatch =>
              dispatch.status = .cleanupPending &&
                dispatch.cleanupRequestId = some requestId)
        fun ending =>
          if ending = .crashed then throw .crashed else return false

/-- `request_scheduler_shutdown`. -/
def requestSchedulerShutdown (outcome : Outcome) : Call Unit := do
  let system ← get
  if system.shutdownRequested then
    return
  else
    modify fun system => { system with shutdownRequested := true }
    logging (sendSchedulerMessage .shutdown outcome)

/-- What the error of a cleanup says that was never confirmed. -/
def unconfirmed (attempts : ℕ) : PyVal :=
  errorEnvelope
    (PyStr.ofString ("Scheduler cleanup could not be confirmed after " ++
      toString attempts ++ " attempts; Scheduler shutdown requested"))
    "cleanup" "SchedulerUnavailableError"

/-- What one round of the retries meets. -/
structure Retry where
  load : Outcome
  shutdown : Outcome
  finish : Finish
  request : Request

/-- `_retry_pending_workflow_cleanups`, for one request. -/
def retryWorkflowCleanup
    (now : Time)
    (conditions : PyStr → Retry)
    (entry : PyStr × CleanupRetry) :
    Call Unit := do
  let requestId := entry.1
  let retry := entry.2
  let met := conditions requestId
  let pending ← cleanupIsPending retry.runId requestId met.load
  if !pending then
    clearWorkflowCleanup requestId
  else if now < retry.nextAttempt then
    return
  else if cleanupMaxAttempts ≤ retry.attempts then
    requestSchedulerShutdown met.shutdown
    finishWorkflowDispatchFailure retry.runId (unconfirmed retry.attempts)
      met.finish
    clearWorkflowCleanup requestId
  else
    sendWorkflowCleanupRequest retry.runId retry.workflowId requestId met.request

/-- `_retry_pending_workflow_cleanups`. -/
def retryPendingWorkflowCleanups
    (now : Time)
    (conditions : PyStr → Retry) :
    Call Unit := do
  let system ← get
  system.cleanupRetries.entries.forM (retryWorkflowCleanup now conditions)

/-! ## Submissions -/

/-- What `run_workflow` is called with, its arguments as their fingerprint. -/
structure Submission where
  runId : Identifier
  workflowId : PyStr
  digest : PyStr

/-- What the checks of `_start_workflow` build: a `StaticRun` that is new. -/
structure Prepared (submission : Submission) where
  run : StaticRun
  rootTaskIds : List TaskId
  artifactsEnabled : Bool
  privateArtifacts : Bool
  named :
    run.runId = submission.runId.val ∧ run.workflowId = submission.workflowId
  fresh : run.status = .created ∧ run.finishContinuations = []
  distinct : rootTaskIds.Nodup
  encodable : run.runId.encodable = true ∧ run.workflowId.encodable = true

/-- What a submission meets. -/
structure Start (submission : Submission) where
  load : Outcome
  checks : Except Raised (Prepared submission)
  firstSave : Outcome
  artifacts : Outcome
  payloads : TaskId → Outcome
  readySave : Outcome
  startEvent : LogWrite
  dispatchingSave : Outcome
  sends : TaskId → Outcome
  activeSave : Outcome
  finish : Finish
  request : Request

/-- The dispatch of a run that is submitted. -/
def newDispatch
    (submission : Submission)
    (prepared : Prepared submission) :
    Dispatch where
  status := .prepared
  rootTaskIds := prepared.rootTaskIds
  artifactStatus := if prepared.artifactsEnabled then .pending else .none
  artifactOwnerId :=
    if prepared.privateArtifacts then some submission.runId.val else none
  cleanupRequestId := none
  error := .null

/-- The run that is submitted; its ids are those of the submission. -/
def newRun
    (submission : Submission)
    (prepared : Prepared submission) :
    HeldRun where
  run := prepared.run
  dispatch := newDispatch submission prepared
  submissionDigest := submission.digest
  encodable := prepared.encodable

/-- The run is held and saved; it is let go if that raises. -/
def registerRun
    (runId : Identifier)
    (held : HeldRun)
    (save : Outcome) :
    Call Unit := do
  modify fun system =>
    { system with staticRuns := system.staticRuns.set runId held }
  tryCatch (persistStaticRun runId save) fun ending => do
    modify fun system =>
      { system with staticRuns := system.staticRuns.erase runId }
    throw ending

/-- Change the dispatch of a run in memory. -/
def updateDispatch
    (runId : Identifier)
    (change : Dispatch → Dispatch) :
    Call Unit :=
  changeHeld runId fun held => { held with dispatch := change held.dispatch }

/-- `run_task` for one of the first tasks. -/
def sendRootTask
    (runId : Identifier)
    (sends : TaskId → Outcome)
    (taskId : TaskId) :
    Call Unit := do
  let system ← get
  if system.schedulerUp then
    perform (sends taskId) fun system =>
      { system with
        channel := system.channel ++ [.runTask runId taskId]
        sentTasks := system.sentTasks ++ [(runId, taskId)]
        sentRoots := system.sentRoots ++ [(runId, taskId)] }
  else
    raise "SchedulerUnavailableError" "scheduler process is unavailable"

/-- One of the first tasks is queued, and its message is built. -/
def queueRootTask
    (runId : Identifier)
    (payloads : TaskId → Outcome)
    (taskId : TaskId) :
    Call Unit := do
  changeHeld runId fun held => held.withRun (held.run.markTaskQueued taskId) ⟨rfl, rfl⟩
  perform (payloads taskId) id

/-- The `try` of `_start_workflow`. -/
def dispatchRun
    (submission : Submission)
    (prepared : Prepared submission)
    (start : Start submission) :
    Call Unit := do
  let runId := submission.runId
  perform start.artifacts id
  prepared.rootTaskIds.forM (queueRootTask runId start.payloads)
  updateDispatch runId fun dispatch =>
    { dispatch with
      artifactStatus := if prepared.artifactsEnabled then .ready else .none }
  persistStaticRun runId start.readySave
  recordStaticEvent runId "start_workflow"
    [("run_id", .str runId.val), ("workflow_id", .str submission.workflowId),
      ("run_type", .str "static"),
      ("total_task_num", .int prepared.run.taskNodes.length)]
    start.startEvent
  updateDispatch runId fun dispatch => { dispatch with status := .dispatching }
  persistStaticRun runId start.dispatchingSave
  prepared.rootTaskIds.forM (sendRootTask runId start.sends)
  updateDispatch runId fun dispatch => { dispatch with status := .active }
  persistStaticRun runId start.activeSave

/-- A run whose start has failed ends, or is cleaned up if tasks of it may run. -/
def abandonDispatch
    (uuid4 : ℕ → PyStr)
    (runId : Identifier)
    (held : HeldRun)
    (error : PyVal)
    (finish : Finish)
    (request : Request) :
    Call Unit :=
  if held.dispatch.status = .prepared then
    finishWorkflowDispatchFailure runId error finish
  else
    requestHeldCleanup uuid4 runId held error request

/-- `_fail_workflow_dispatch`; it ends with the exception that Core raises. -/
def failWorkflowDispatch
    (uuid4 : ℕ → PyStr)
    (runId : Identifier)
    (raised : Raised)
    (finish : Finish)
    (request : Request) :
    Call Unit := do
  let system ← get
  match system.staticRuns.get? runId with
  | none => throw (.raised raised)
  | some held =>
      abandonDispatch uuid4 runId held (dispatchError held.dispatch raised) finish
        request
      throw (.initialization held.dispatch.status raised.text)

/-- `_start_workflow`. -/
def startWorkflow
    (uuid4 : ℕ → PyStr)
    (submission : Submission)
    (start : Start submission) :
    Call Unit := do
  let system ← get
  if system.schedulerUp then
    match start.checks with
    | .error raised => throw (.raised raised)
    | .ok prepared =>
        registerRun submission.runId (newRun submission prepared) start.firstSave
        tryCatch (dispatchRun submission prepared start) fun ending =>
          match ending with
          | .raised raised =>
              failWorkflowDispatch uuid4 submission.runId raised start.finish
                start.request
          | other => throw other
  else
    raise "SchedulerUnavailableError" "scheduler process is unavailable"

/-- `run_workflow` returns the run id. -/
def accept (submission : Submission) : Call Unit :=
  modify fun system =>
    { system with
      accepted := system.accepted ++ [(submission.runId, submission.digest)] }

/-- `run_workflow`. -/
def runWorkflow
    (uuid4 : ℕ → PyStr)
    (submission : Submission)
    (start : Start submission) :
    Call Unit := do
  let system ← get
  match system.stored.get? submission.runId with
  | some existing =>
      perform start.load id
      if existing.submissionDigest = some submission.digest then
        accept submission
      else
        throw (.conflict existing.workflowId)
  | none =>
      startWorkflow uuid4 submission start
      accept submission

/-! ## The exit of the scheduler, and restarts of Core -/

/-- The cleanup of a run is pending, whether or not the scheduler can be asked. -/
def pendCleanup
    (uuid4 : ℕ → PyStr)
    (runId : Identifier)
    (held : HeldRun)
    (reason : Raised)
    (request : Request) :
    Call Unit :=
  if held.dispatch.status = .cleanupPending then
    match held.dispatch.cleanupRequestId with
    | none => raise "ValueError" "Pending workflow cleanup has no request ID"
    | some requestId =>
        if requestId.isEmpty then
          raise "ValueError" "Pending workflow cleanup has no request ID"
        else
          discard (registerWorkflowCleanup runId held.run.workflowId requestId)
  else
    requestHeldCleanup uuid4 runId held (dispatchError held.dispatch reason) request

/-- The cleanup of a run is confirmed if nothing of the scheduler is left. -/
def confirmCleaned
    (runId : Identifier)
    (finish : Finish) :
    Call Unit := do
  let system ← get
  if system.rayCleaned then
    match (system.staticRuns.get? runId).bind fun held =>
        held.dispatch.cleanupRequestId with
    | none => return
    | some requestId => confirmWorkflowCleanup runId requestId finish
  else
    return

/-- What `_handle_scheduler_exit` does for a run whose dispatch requires cleanup. -/
def handleSchedulerExit
    (uuid4 : ℕ → PyStr)
    (runId : Identifier)
    (reason : Raised)
    (request : Request)
    (finish : Finish) :
    Call Unit := do
  let system ← get
  match system.staticRuns.get? runId with
  | none => return
  | some held =>
      if held.requiresCleanup then
        pendCleanup uuid4 runId held reason request
        confirmCleaned runId finish
      else
        return

/-- What the recovery of one run meets. -/
structure Recovery where
  /-- How `StaticRunStore.recover_interrupted_runs` goes. -/
  attempt : StaticRecovery.Attempt
  printed : PyErr → Raised
  finish : Finish
  request : Request

/-- `StaticRunStore.recover_interrupted_runs`, for one run. -/
def recoverInterruptedRun
    (conditions : Identifier → Recovery)
    (runId : Identifier) :
    Call Unit :=
  fun system =>
    match system.stored.get? runId with
    | none => .ok () system
    | some snapshot =>
        let recovered :=
          StaticRecovery.recoverRun ⟨snapshot, (system.log runId).file⟩
            (conditions runId).attempt
        let after :=
          { system with
            stored := system.stored.set runId recovered.1.snapshot
            logs := system.logs.set runId ⟨recovered.1.log, none⟩ }
        match recovered.2 with
        | .ok _ => .ok () after
        | .error failure =>
            .error (.raised ((conditions runId).printed failure)) after

/-- The dispatch of a run that is only on disk is saved. -/
def keepSnapshot
    (runId : Identifier)
    (snapshot : StaticSnapshot)
    (save : Outcome)
    (dispatch : Dispatch) :
    Call Unit :=
  saveSnapshot runId { snapshot with dispatch := some dispatch } save

/-- `_recover_incomplete_workflow_dispatches`, for one run. -/
def recoverDispatch
    (uuid4 : ℕ → PyStr)
    (conditions : Identifier → Recovery)
    (runId : Identifier) :
    Call Unit := do
  let system ← get
  match system.stored.get? runId with
  | none => return
  | some snapshot =>
      match snapshot.dispatch with
      | none => return
      | some dispatch =>
          let met := conditions runId
          let error :=
            dispatch.error.orElse
              (errorEnvelope
                "Head restarted before workflow submission completed"
                (statusText dispatch.status) "ProcessRestart")
          match dispatch.status with
          | .active | .terminal => return
          | .prepared => do
              let dispatch ←
                revokeDispatchArtifacts runId dispatch met.finish.revoke
              recordSnapshotDispatchFailure runId
                (markSnapshotDispatchFailed snapshot dispatch error) error met.finish
          | .dispatching | .cleanupPending =>
              requestWorkflowCleanup uuid4 runId snapshot.workflowId dispatch error
                (keepSnapshot runId snapshot met.request.save) met.request

/-- Core's process dies. -/
def System.crash (system : System) : System :=
  { system with
    alive := false
    staticRuns := Table.empty
    cleanupRequests := Table.empty
    cleanupRetries := Table.empty }

/-- A new process of Core with a new scheduler on a new Ray head. -/
def System.start (system : System) : System :=
  { system with
    alive := true
    staticRuns := Table.empty
    cleanupRequests := Table.empty
    cleanupRetries := Table.empty
    shutdownRequested := false
    logs := system.logs.mapValues fun _ log => { log with cache := none }
    channel := []
    schedulerUp := true
    registry := .initial
    answers := []
    rayCleaned := false }

/-- `__init__` and `init`; `listed` is what `list_runs` can read. -/
def restart
    (uuid4 : ℕ → PyStr)
    (listed : List Identifier)
    (conditions : Identifier → Recovery) :
    Call Unit := do
  listed.forM (recoverInterruptedRun conditions)
  modify System.start
  listed.forM (recoverDispatch uuid4 conditions)

/-! ## The scheduler -/

/-- How the scheduler takes a message. -/
inductive Delivery where
  | accepted
  /-- `run_task` is rejected, or `stop_workflow` raises. -/
  | failed (cleared : Bool)
  deriving DecidableEq

/-- The answer to a request that has an id. -/
def answerTo
    (runId : Identifier)
    (requestId : Option PyStr)
    (ok : Bool) :
    List Answer :=
  requestId.toList.map fun requestId => ⟨requestId, runId, ok⟩

/-- `_receive_thread`, for one message. -/
def receive
    (delivery : Delivery)
    (message : Message)
    (system : System) :
    System :=
  match message with
  | .runTask runId _ =>
      if runId ∈ system.registry.stopped then
        system
      else
        let heard :=
          { system.registry with heard := runId :: system.registry.heard }
        match delivery with
        | .accepted => { system with registry := heard }
        | .failed _ => { system with registry := heard.endWorkflow runId }
  | .stopWorkflow runId requestId =>
      match delivery with
      | .accepted =>
          { system with
            registry := system.registry.endWorkflow runId
            answers := system.answers ++ answerTo runId requestId true }
      | .failed cleared =>
          { system with
            registry :=
              if cleared then system.registry.endWorkflow runId
              else system.registry.markStopped runId
            answers := system.answers ++ answerTo runId requestId false }
  | .clearWorkflow runId =>
      { system with registry := system.registry.endWorkflow runId }
  | .shutdown => { system with schedulerUp := false }

/-! ## Steps -/

/-- The steps of the system. -/
inductive Action where
  | runWorkflow (submission : Submission) (start : Start submission)
  /-- A handler changes a run whose dispatch has ended. -/
  | changeRun (runId : Identifier) (run : StaticRun)
  /-- A handler saves such a run, as it is or as it was. -/
  | saveRun (runId : Identifier) (run : StaticRun) (outcome : Outcome)
  /-- `_continue_static_finish`: `run_task`. -/
  | sendTask (runId : Identifier) (taskId : TaskId)
  /-- `stop_workflow` without a request id, or `clear_workflow`. -/
  | sendEnd (runId : Identifier) (clear : Bool)
  /-- `stop_workflow` and `_sweep_run_deadlines` for a run that requires cleanup. -/
  | requestCleanup (runId : Identifier) (reason : Raised) (request : Request)
  /-- The monitor takes a `workflow_stopped` message. -/
  | receiveAnswer (answer : Answer) (finish : Finish)
  | retryCleanups (now : Time) (conditions : PyStr → Retry)
  | requestShutdown (outcome : Outcome)
  /-- The scheduler exits, or sets its fatal event. -/
  | exitScheduler
  /-- `_stop_local_ray_best_effort` succeeds. -/
  | cleanRay
  | handleExit
      (runId : Identifier)
      (reason : Raised)
      (request : Request)
      (finish : Finish)
  | deliver (delivery : Delivery)
  /-- A step of the scheduler by itself. -/
  | schedule (action : Scheduler.WorkflowRegistry.Action)
  | crash
  | restart (listed : List Identifier) (conditions : Identifier → Recovery)

/-- What is left when a call has ended. -/
def settle : EStateM.Result Ending System Unit → System
  | .ok _ system => system
  | .error .crashed system => system.crash
  | .error _ system => system

/-- A run in memory whose dispatch does not require cleanup. -/
def System.openRun?
    (system : System)
    (runId : Identifier) :
    Option HeldRun :=
  if system.alive then
    (system.staticRuns.get? runId).filter fun held => !held.requiresCleanup
  else
    none

/-- The scheduler may still have a message about the run to handle. -/
def System.mayHandle
    (system : System)
    (runId : Identifier)
    (held : HeldRun) :
    Bool :=
  runId ∈ system.registry.heard && !held.run.isTerminal

/-- One step of the system. -/
def step?
    (uuid4 : ℕ → PyStr)
    (system : System) :
    Action → Option System
  | .runWorkflow submission start =>
      if system.alive then
        some (settle (runWorkflow uuid4 submission start system))
      else
        none
  | .changeRun runId run =>
      (system.openRun? runId).bind fun held =>
        if same :
            run.runId = held.run.runId ∧ run.workflowId = held.run.workflowId then
          if (held.run.isTerminal → run.isTerminal) ∧
              (run.finishContinuations = [] ∨ held.run.finishContinuations ≠ [] ∨
                system.mayHandle runId held) then
            some
              { system with
                staticRuns := system.staticRuns.set runId (held.withRun run same) }
          else
            none
        else
          none
  | .saveRun runId run outcome =>
      (system.openRun? runId).bind fun held =>
        if same :
            run.runId = held.run.runId ∧ run.workflowId = held.run.workflowId then
          some (settle
            (saveSnapshot runId (held.withRun run same).snapshot outcome system))
        else
          none
  | .sendTask runId taskId =>
      (system.openRun? runId).bind fun held =>
        if system.schedulerUp ∧
            (held.run.finishContinuations ≠ [] ∨ system.mayHandle runId held) then
          some
            { system with
              channel := system.channel ++ [.runTask runId taskId]
              sentTasks := system.sentTasks ++ [(runId, taskId)] }
        else
          none
  | .sendEnd runId clear =>
      if system.alive ∧ system.schedulerUp then
        some
          { system with
            channel := system.channel ++
              [if clear then .clearWorkflow runId else .stopWorkflow runId none] }
      else
        none
  | .requestCleanup runId reason request =>
      match system.staticRuns.get? runId with
      | none => none
      | some held =>
          if system.alive ∧ held.requiresCleanup then
            some (settle (requestHeldCleanup uuid4 runId held
              (held.dispatch.error.orElse (dispatchError held.dispatch reason))
              request system))
          else
            none
  | .receiveAnswer answer finish =>
      if system.alive ∧ answer ∈ system.answers then
        some (settle (handleWorkflowCleanupResponse answer finish system))
      else
        none
  | .retryCleanups now conditions =>
      if system.alive then
        some (settle (retryPendingWorkflowCleanups now conditions system))
      else
        none
  | .requestShutdown outcome =>
      if system.alive then
        some (settle (requestSchedulerShutdown outcome system))
      else
        none
  | .exitScheduler => some { system with schedulerUp := false }
  | .cleanRay =>
      if system.schedulerUp then
        none
      else
        some
          { system with
            registry := { system.registry with registered := [] }
            rayCleaned := true }
  | .handleExit runId reason request finish =>
      if system.alive ∧ system.schedulerUp = false then
        some (settle (handleSchedulerExit uuid4 runId reason request finish system))
      else
        none
  | .deliver delivery =>
      match system.schedulerUp, system.channel with
      | true, message :: rest =>
          some (receive delivery message { system with channel := rest })
      | _, _ => none
  | .schedule action =>
      match system.rayCleaned, action with
      | true, _ | _, .receive _ => none
      | false, action =>
          (Scheduler.WorkflowRegistry.step? system.registry action).map
            fun registry => { system with registry := registry }
  | .crash => some system.crash
  | .restart listed conditions =>
      if system.alive then
        none
      else
        match restart uuid4 listed conditions system with
        | .ok _ after => some after
        | .error _ after => some after.crash

/-- A system whose store is empty and where Core has not started. -/
def System.initial : System where
  alive := false
  staticRuns := Table.empty
  cleanupRequests := Table.empty
  cleanupRetries := Table.empty
  shutdownRequested := false
  drawn := 0
  stored := Table.empty
  logs := Table.empty
  revoked := []
  channel := []
  schedulerUp := false
  registry := .initial
  answers := []
  rayCleaned := false
  sentTasks := []
  sentRoots := []
  accepted := []

end Maze.Core.WorkflowDispatch
