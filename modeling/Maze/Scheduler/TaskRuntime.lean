import Maze.Core.AttemptGate

namespace Maze.Scheduler

open Maze.Python
open Maze.Core.AttemptGate (MessageType)

/-!
# Task runtimes, error envelopes and the messages about an attempt

The part of `TaskRuntime` that identifies its attempts, the error envelopes the
scheduler builds, and the messages that `_send_task_exception`,
`_send_task_rejected`, `_send_task_retry` and the two loops send to Core.
-/

/-- `SelectedNode`. -/
structure SelectedNode where
  nodeId : PyStr
  nodeIp : PyStr
  gpuId : Option Int
  deriving DecidableEq

/-- An optional integer as JSON. -/
def optionalInt : Option Int → PyVal
  | some value => .int value
  | none => .null

/-- An optional identifier as JSON. -/
def optionalId : Option Identifier → PyVal
  | some value => .str value.val
  | none => .null

/-- The entries of a placement decision that name its outcome. -/
structure ScheduleDecision where
  selected : Bool
  reason : PyVal
  selectedNode : Option SelectedNode
  deriving DecidableEq

/-- The `selected_node` entry of a decision. -/
def SelectedNode.toVal
    (node : SelectedNode) :
    PyVal :=
  .dict
    [("node_id", .str node.nodeId),
      ("node_ip", .str node.nodeIp),
      ("gpu_id", optionalInt node.gpuId)]

/-- `task.last_schedule_decision` as it is sent. -/
def ScheduleDecision.toVal : Option ScheduleDecision → PyVal
  | none => .null
  | some decision =>
      .dict
        [("selected", .bool decision.selected),
          ("reason", decision.reason),
          ("selected_node",
            (decision.selectedNode.map SelectedNode.toVal).getD .null)]

/-- `task.last_attempt_timing`. -/
structure AttemptTiming where
  startedAt : PyVal
  finishedAt : PyVal
  durationMs : PyVal
  deriving DecidableEq

/-- The timing fields that are copied into a message. -/
def AttemptTiming.fields
    (timing : AttemptTiming) :
    PyDict :=
  let entries : PyDict :=
    [("started_at", timing.startedAt),
      ("finished_at", timing.finishedAt),
      ("duration_ms", timing.durationMs)]
  entries.filter fun entry => entry.2 ≠ .null

/-- `(attempt, dispatch_id, lease_id)` of an attempt that has ended. -/
structure PreviousAttempt where
  attempt : Nat
  dispatchId : Identifier
  leaseId : Option Identifier
  deriving DecidableEq

/-- The fields of `TaskRuntime` that its attempts read and write. -/
structure TaskRuntime where
  workflowId : Identifier
  taskId : Identifier
  taskKind : PyStr
  queueName : PyVal
  resources : PyVal
  maxRetries : Nat
  retryOn : List PyStr
  retryBackoffSeconds : PyVal
  schedulingMetadata : PyVal
  faultTolerance : PyVal
  fileManifest : PyVal
  lastMetrics : PyVal
  lastAttemptTiming : Option AttemptTiming
  lastScheduleDecision : Option ScheduleDecision
  selectedNode : Option SelectedNode
  attempt : Nat
  dispatchId : Option Identifier
  leaseId : Option Identifier
  previousAttemptIdentity : Option PreviousAttempt
  deriving DecidableEq

namespace TaskRuntime

/-- `begin_attempt`. -/
def beginAttempt
    (task : TaskRuntime)
    (dispatchId leaseId : Identifier) :
    TaskRuntime :=
  { task with
    attempt := task.attempt + 1
    dispatchId := some dispatchId
    leaseId := some leaseId
    fileManifest := .null }

/-- `clear_attempt_identity`. -/
def clearAttemptIdentity
    (task : TaskRuntime) :
    TaskRuntime :=
  { task with
    previousAttemptIdentity :=
      match task.dispatchId with
      | some dispatchId => some ⟨task.attempt, dispatchId, task.leaseId⟩
      | none => task.previousAttemptIdentity
    dispatchId := none
    leaseId := none
    selectedNode := none
    lastScheduleDecision := none }

/-- `should_retry`. -/
def shouldRetry
    (task : TaskRuntime)
    (error : PyDict) :
    Bool :=
  (task.retryOn.any fun item => (error.get "error_type").pyEq (.str item)) &&
    (error.get "retryable").truthy &&
    task.attempt ≤ task.maxRetries

end TaskRuntime

/-- `ERROR_RETRYABLE_DEFAULTS.get(error_type, False)`. -/
def retryableDefault
    (errorType : PyStr) :
    Bool :=
  errorType ∈
    (["resource_unavailable", "resource_insufficient", "node_lost",
      "artifact_error"] : List PyStr)

/-- `make_error_envelope`; `retryable` is `None` unless the caller passes it. -/
def makeErrorEnvelope
    (errorType message : PyStr)
    (retryable : Option Bool)
    (attempt : PyVal)
    (timestamp : PyStr) :
    PyDict :=
  [("error_type", .str errorType),
    ("message", .str message),
    ("retryable", .bool (retryable.getD (retryableDefault errorType))),
    ("traceback", .null),
    ("origin", .str "scheduler"),
    ("node_id", .null),
    ("node_ip", .null),
    ("attempt", attempt),
    ("timestamp", .str timestamp)]

/-- What `exception_to_error_envelope` reads off an exception. -/
structure ExceptionInfo where
  message : PyStr
  traceback : PyStr
  exceptionType : PyStr
  memoryFailure : Option PyDict

/-- `exception_to_error_envelope`. -/
def exceptionToErrorEnvelope
    (errorType : PyStr)
    (info : ExceptionInfo)
    (attempt : PyVal)
    (timestamp : PyStr) :
    PyDict :=
  let result :=
    ((makeErrorEnvelope errorType info.message none attempt timestamp).set
      "traceback" (.str info.traceback)).set
        "exception_type" (.str info.exceptionType)
  match info.memoryFailure with
  | some failure => result.set "memory_failure" (.dict failure)
  | none => result

/-- A memory failure read off the message is added unless there is one. -/
def withMemoryFailure
    (error : PyDict)
    (memoryFailure : Option PyDict) :
    PyDict :=
  match memoryFailure with
  | some failure =>
      if (error.get "memory_failure").truthy then error
      else error.set "memory_failure" (.dict failure)
  | none => error

/-- The node of the failed attempt is added unless the error names one. -/
def withFailedNode
    (error : PyDict)
    (selectedNode : Option SelectedNode) :
    PyDict :=
  match selectedNode with
  | some node =>
      (error.set "node_id" ((error.get "node_id").orElse (.str node.nodeId))).set
        "node_ip" ((error.get "node_ip").orElse (.str node.nodeIp))
  | none => error

/--
`enrich_error_for_task`. The memory failure is what
`memory_failure_from_message` finds in the text of a task without model route.
-/
def enrichErrorForTask
    (error : PyDict)
    (task : TaskRuntime)
    (memoryFailure : Option PyDict)
    (timestamp : PyStr) :
    PyDict :=
  let error := withMemoryFailure error memoryFailure
  let error := error.setDefault "timestamp" (.str timestamp)
  let error :=
    error.set "attempt" ((error.get "attempt").orElse (.int task.attempt))
  withFailedNode error task.selectedNode

/-- A message of the scheduler about one task. -/
structure TaskMessage where
  messageType : MessageType
  data : PyDict
  deriving DecidableEq

/-- `data[key] = value` if the value is truthy. -/
def setIfTruthy
    (data : PyDict)
    (key : PyStr)
    (value : PyVal) :
    PyDict :=
  if value.truthy then data.set key value else data

/-- The timing fields are copied unless they are `None`. -/
def withTiming
    (data : PyDict)
    (timing : Option AttemptTiming) :
    PyDict :=
  match timing with
  | some timing => data.update timing.fields
  | none => data

/-- The entries that `_send_task_exception` always sends. -/
def taskExceptionFields
    (task : TaskRuntime)
    (error : PyDict) :
    PyDict :=
  [("workflow_id", .str task.workflowId.val),
    ("task_id", .str task.taskId.val),
    ("task_kind", .str task.taskKind),
    ("queue_name", task.queueName),
    ("result", .dict error),
    ("error", .dict error),
    ("attempt", .int task.attempt),
    ("dispatch_id", optionalId task.dispatchId),
    ("lease_id", optionalId task.leaseId),
    ("schedule_decision", ScheduleDecision.toVal task.lastScheduleDecision),
    ("scheduling", task.schedulingMetadata),
    ("fault_tolerance", task.faultTolerance)]

/-- A manifest is sent with a failure only once it is published. -/
def withPublishedManifest
    (data : PyDict)
    (manifest : PyVal) :
    PyDict :=
  match manifest with
  | .dict fields =>
      if PyDict.get fields "published" = .bool true then
        data.set "file_manifest" manifest
      else
        data
  | _ => data

/-- The data of `_send_task_exception` before the identity is settled. -/
def taskExceptionData
    (task : TaskRuntime)
    (error : PyDict) :
    PyDict :=
  let data := taskExceptionFields task error
  let data := withPublishedManifest data task.fileManifest
  let data := setIfTruthy data "metrics" task.lastMetrics
  withTiming data task.lastAttemptTiming

/-- The entries that report a failure under the previous attempt. -/
def capacityRejectionFields
    (previous : PreviousAttempt) :
    PyDict :=
  [("attempt", .int previous.attempt),
    ("dispatch_id", .str previous.dispatchId.val),
    ("lease_id", optionalId previous.leaseId),
    ("capacity_rejection", .bool true)]

/-- `_send_task_exception`. -/
def sendTaskException
    (task : TaskRuntime)
    (error : PyDict) :
    TaskMessage :=
  let data := taskExceptionData task error
  if task.attempt = 0 then
    ⟨.taskException, data.set "pre_dispatch" (.bool true)⟩
  else if
      (error.get "error_type").pyEq (.str "resource_capacity_exceeded") ∧
        task.dispatchId = none then
    match task.previousAttemptIdentity with
    | some previous =>
        ⟨.taskException, data.update (capacityRejectionFields previous)⟩
    | none => ⟨.taskException, data⟩
  else
    ⟨.taskException, data⟩

/-- `_send_task_rejected`: the runtime could not be built. -/
def sendTaskRejected
    (workflowId taskId : PyVal)
    (taskKind resources : PyVal)
    (info : ExceptionInfo)
    (timestamp : PyStr) :
    TaskMessage :=
  let error := exceptionToErrorEnvelope "scheduler_error" info .null timestamp
  ⟨.taskException,
    [("workflow_id", workflowId),
      ("task_id", taskId),
      ("task_kind", taskKind),
      ("result", .dict error),
      ("error", .dict error),
      ("pre_dispatch", .bool true),
      ("attempt", .int 0),
      ("dispatch_id", .null),
      ("lease_id", .null),
      ("resources", resources),
      ("schedule_decision",
        .dict [("reason", .str "task_rejected_by_scheduler")])]⟩

/-- `_send_task_retry`. -/
def sendTaskRetry
    (task : TaskRuntime)
    (error : PyDict) :
    TaskMessage :=
  let data : PyDict :=
    [("workflow_id", .str task.workflowId.val),
      ("task_id", .str task.taskId.val),
      ("task_kind", .str task.taskKind),
      ("queue_name", task.queueName),
      ("error", .dict error),
      ("attempt", .int task.attempt),
      ("dispatch_id", optionalId task.dispatchId),
      ("lease_id", optionalId task.leaseId),
      ("next_attempt", .int (task.attempt + 1)),
      ("retry_backoff_seconds", task.retryBackoffSeconds),
      ("resources", task.resources),
      ("schedule_decision", ScheduleDecision.toVal task.lastScheduleDecision),
      ("scheduling", task.schedulingMetadata),
      ("fault_tolerance", task.faultTolerance)]
  let data := setIfTruthy data "metrics" task.lastMetrics
  ⟨.taskRetry, withTiming data task.lastAttemptTiming⟩

/-- The `start_task` message of `_submit_thread`. -/
def startTaskMessage
    (task : TaskRuntime)
    (queueName : PyVal)
    (node : SelectedNode)
    (startedAt : PyVal) :
    TaskMessage :=
  ⟨.startTask,
    [("workflow_id", .str task.workflowId.val),
      ("task_id", .str task.taskId.val),
      ("task_kind", .str task.taskKind),
      ("queue_name", queueName),
      ("node_ip", .str node.nodeIp),
      ("node_id", .str node.nodeId),
      ("gpu_id", optionalInt node.gpuId),
      ("attempt", .int task.attempt),
      ("dispatch_id", optionalId task.dispatchId),
      ("lease_id", optionalId task.leaseId),
      ("schedule_decision", ScheduleDecision.toVal task.lastScheduleDecision),
      ("scheduling", task.schedulingMetadata),
      ("started_at", startedAt)]⟩

/-- The `finish_task` message of `_supervisor_thread`. -/
def finishTaskMessage
    (task : TaskRuntime)
    (result manifest metrics : PyVal)
    (timing : AttemptTiming) :
    TaskMessage :=
  let data : PyDict :=
    [("workflow_id", .str task.workflowId.val),
      ("task_id", .str task.taskId.val),
      ("task_kind", .str task.taskKind),
      ("result", result),
      ("attempt", .int task.attempt),
      ("dispatch_id", optionalId task.dispatchId),
      ("lease_id", optionalId task.leaseId),
      ("node_id",
        (task.selectedNode.map fun node => PyVal.str node.nodeId).getD .null),
      ("schedule_decision", ScheduleDecision.toVal task.lastScheduleDecision),
      ("fault_tolerance", task.faultTolerance)]
  let data := data.update timing.fields
  let data := setIfTruthy data "file_manifest" manifest
  ⟨.finishTask, setIfTruthy data "metrics" metrics⟩

/-! ## Reading the messages back -/

theorem get?_withPublishedManifest
    (data : PyDict)
    (manifest : PyVal)
    {key : PyStr}
    (differ : key ≠ "file_manifest") :
    (withPublishedManifest data manifest).get? key = data.get? key := by
  unfold withPublishedManifest
  split
  · split <;> simp [differ]
  · rfl

theorem get?_setIfTruthy
    (data : PyDict)
    (value : PyVal)
    {key other : PyStr}
    (differ : key ≠ other) :
    (setIfTruthy data other value).get? key = data.get? key := by
  unfold setIfTruthy
  split <;> simp [differ]

/-- The keys that the timing of an attempt may set. -/
def timingKeys : List PyStr :=
  ["started_at", "finished_at", "duration_ms"]

theorem get?_update_timing
    (data : PyDict)
    (timing : AttemptTiming)
    {key : PyStr}
    (differ : key ∉ timingKeys) :
    (data.update timing.fields).get? key = data.get? key := by
  refine PyDict.get?_update_of_notMem data _ fun value member => differ ?_
  simp only [AttemptTiming.fields, List.mem_filter, List.mem_cons,
    Prod.mk.injEq, List.not_mem_nil, or_false] at member
  simp only [timingKeys, List.mem_cons, List.not_mem_nil, or_false]
  exact member.1.imp And.left (Or.imp And.left And.left)

theorem get?_withTiming
    (data : PyDict)
    (timing : Option AttemptTiming)
    {key : PyStr}
    (differ : key ∉ timingKeys) :
    (withTiming data timing).get? key = data.get? key := by
  cases timing with
  | none =>
      rfl
  | some timing =>
      exact get?_update_timing data timing differ

/-- The keys that a message may carry besides its fixed entries. -/
def optionalKeys : List PyStr :=
  "file_manifest" :: "metrics" :: timingKeys

theorem get_taskExceptionData
    (task : TaskRuntime)
    (error : PyDict)
    {key : PyStr}
    (fixed : key ∉ optionalKeys) :
    (taskExceptionData task error).get key =
      (taskExceptionFields task error).get key := by
  simp only [optionalKeys, List.mem_cons, not_or] at fixed
  obtain ⟨notManifest, notMetrics, notTiming⟩ := fixed
  simp only [taskExceptionData, PyDict.get]
  rw [get?_withTiming _ _ notTiming, get?_setIfTruthy _ _ notMetrics,
    get?_withPublishedManifest _ _ notManifest]

/-! ## Reading the errors back -/

theorem get?_withMemoryFailure
    (error : PyDict)
    (memoryFailure : Option PyDict)
    {key : PyStr}
    (differ : key ≠ "memory_failure") :
    (withMemoryFailure error memoryFailure).get? key = error.get? key := by
  unfold withMemoryFailure
  split
  · split <;> simp [differ]
  · rfl

theorem get?_withFailedNode
    (error : PyDict)
    (selectedNode : Option SelectedNode)
    {key : PyStr}
    (notNode : key ≠ "node_id")
    (notIp : key ≠ "node_ip") :
    (withFailedNode error selectedNode).get? key = error.get? key := by
  cases selectedNode with
  | none =>
      rfl
  | some node =>
      simp [withFailedNode, notNode, notIp]

/-- The keys that enriching an error may set. -/
def enrichedKeys : List PyStr :=
  ["memory_failure", "timestamp", "attempt", "node_id", "node_ip"]

theorem enrichErrorForTask_get
    (error : PyDict)
    (task : TaskRuntime)
    (memoryFailure : Option PyDict)
    (timestamp : PyStr)
    {key : PyStr}
    (fixed : key ∉ enrichedKeys) :
    (enrichErrorForTask error task memoryFailure timestamp).get key =
      error.get key := by
  simp only [enrichedKeys, List.mem_cons, List.not_mem_nil, or_false,
    not_or] at fixed
  obtain ⟨notFailure, notTimestamp, notAttempt, notNode, notIp⟩ := fixed
  simp only [enrichErrorForTask, PyDict.get]
  rw [get?_withFailedNode _ _ notNode notIp, PyDict.get?_set, if_neg notAttempt,
    PyDict.get?_setDefault_of_ne _ _ notTimestamp,
    get?_withMemoryFailure _ _ notFailure]

theorem makeErrorEnvelope_errorType
    (errorType message timestamp : PyStr)
    (retryable : Option Bool)
    (attempt : PyVal) :
    (makeErrorEnvelope errorType message retryable attempt timestamp).get
      "error_type" = .str errorType := by
  simp [makeErrorEnvelope, PyDict.get]

theorem makeErrorEnvelope_retryable
    (errorType message timestamp : PyStr)
    (retryable : Option Bool)
    (attempt : PyVal) :
    (makeErrorEnvelope errorType message retryable attempt timestamp).get
      "retryable" =
        .bool (retryable.getD (retryableDefault errorType)) := by
  simp [makeErrorEnvelope, PyDict.get]

theorem exceptionToErrorEnvelope_get
    (errorType timestamp : PyStr)
    (info : ExceptionInfo)
    (attempt : PyVal)
    {key : PyStr}
    (notTraceback : key ≠ "traceback")
    (notType : key ≠ "exception_type")
    (notFailure : key ≠ "memory_failure") :
    (exceptionToErrorEnvelope errorType info attempt timestamp).get key =
      (makeErrorEnvelope errorType info.message none attempt timestamp).get
        key := by
  unfold exceptionToErrorEnvelope
  cases info.memoryFailure <;>
    simp [PyDict.get, notTraceback, notType, notFailure]

/-! ## The names in the examples -/

theorem run_nonempty : PyStr.isEmpty "run" = false := rfl

theorem task_nonempty : PyStr.isEmpty "task" = false := rfl

theorem dispatch_nonempty : PyStr.isEmpty "dispatch" = false := rfl

theorem lease_nonempty : PyStr.isEmpty "lease" = false := rfl

end Maze.Scheduler
