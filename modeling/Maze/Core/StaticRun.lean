import Maze.Core.DynamicRun

namespace Maze.Core

open Maze.Python

/-!
# Static runs in memory

`StaticRun` keeps a node for every task of a workflow, the status of the run, its
event log and, for every finished task, how far Core has come with what follows
from it. Points in time are left out, except for the deadline.
-/

/-- `StaticRun.status`. -/
inductive StaticRunStatus where
  | created
  | running
  | succeeded
  | failed
  | timedOut
  | cancelled
  | interrupted
  deriving DecidableEq

namespace StaticRunStatus

/-- `TERMINAL_STATIC_RUN_STATUSES`. -/
def isTerminal : StaticRunStatus → Bool
  | .created | .running => false
  | _ => true

/-- The status as it is stored. -/
def text : StaticRunStatus → String
  | .created => "created"
  | .running => "running"
  | .succeeded => "succeeded"
  | .failed => "failed"
  | .timedOut => "timed_out"
  | .cancelled => "cancelled"
  | .interrupted => "interrupted"

end StaticRunStatus

/-- The status of a node. -/
inductive NodeStatus where
  | pending
  | queued
  | running
  | succeeded
  | failed
  | timedOut
  | cancelled
  deriving DecidableEq

/-- The node has not ended yet. -/
def NodeStatus.isActive : NodeStatus → Bool
  | .pending | .queued | .running => true
  | _ => false

/-- An entry of `task_nodes`; `fields` holds what the marks note beside the status. -/
structure StaticTaskNode where
  taskId : TaskId
  status : NodeStatus
  parents : List TaskId
  children : List TaskId
  fields : PyDict
  deriving DecidableEq

/-- An entry of `finish_continuations`. -/
structure FinishContinuation where
  attemptIdentity : PyDict
  completed : Bool
  taskResult : PyVal
  finishEvent : RunEvent
  taskNotified : Bool
  workflowAdvanced : Bool
  readyTaskIds : List TaskId
  sentTaskIds : List TaskId
  workflowEvent : Option RunEvent
  workflowNotified : Bool
  workflowCleared : Bool
  deriving DecidableEq

/-- `StaticRun`; `deadline` is what `deadline_time` returns. -/
structure StaticRun where
  runId : PyStr
  workflowId : PyStr
  status : StaticRunStatus
  deadline : Option Time
  timeoutSeconds : PyVal
  errorSummary : PyVal
  resultSummary : PyVal
  finalOutputRefs : Option PyVal
  taskNodes : List StaticTaskNode
  eventLog : List RunEvent
  eventSeq : Nat
  finishContinuations : List (TaskId × FinishContinuation)
  deriving DecidableEq

/-! ## References to outputs -/

/-- `_is_final_output_ref`, on the entries of a `dict`. -/
def isFinalOutputRef (entries : PyDict) : Bool :=
  PyDict.get entries "__maze_output_ref__" = .bool true

/-- The output of a task that a reference names; `results` are the summaries. -/
def resolveOutput
    (results : PyVal → PyVal)
    (entries : PyDict) :
    Except (PyVal × PyVal) PyVal :=
  let taskId := PyDict.get entries "task_id"
  let outputKey := PyDict.get entries "output_key"
  match results taskId, outputKey with
  | .dict result, .str key =>
      match PyDict.get? result key with
      | some output => .ok output
      | none => .error (taskId, outputKey)
  | _, _ => .error (taskId, outputKey)

mutual

/--
`_resolve_final_output_refs`; the error names the task and the output that is
missing.
-/
def resolveFinalOutputRefs
    (results : PyVal → PyVal) :
    PyVal → Except (PyVal × PyVal) PyVal
  | .dict entries =>
      if isFinalOutputRef entries then
        resolveOutput results entries
      else
        match resolveEntries results entries with
        | .ok entries => .ok (.dict entries)
        | .error missing => .error missing
  | .list items =>
      match resolveItems results items with
      | .ok items => .ok (.list items)
      | .error missing => .error missing
  | value => .ok value

/-- Resolve the references in the items of a list. -/
def resolveItems
    (results : PyVal → PyVal) :
    List PyVal → Except (PyVal × PyVal) (List PyVal)
  | [] => .ok []
  | item :: rest => do
      let item ← resolveFinalOutputRefs results item
      let rest ← resolveItems results rest
      .ok (item :: rest)

/-- Resolve the references in the entries of a `dict`. -/
def resolveEntries
    (results : PyVal → PyVal) :
    List (PyStr × PyVal) → Except (PyVal × PyVal) (List (PyStr × PyVal))
  | [] => .ok []
  | (key, value) :: rest => do
      let value ← resolveFinalOutputRefs results value
      let rest ← resolveEntries results rest
      .ok ((key, value) :: rest)

end

/-- How values are printed, and the `float` that a point in time is. -/
structure Rendering where
  repr : PyVal → PyStr
  str : PyVal → PyStr
  seconds : Time → PyVal

/-- `FinalOutputResolutionError.detail`. -/
def finalOutputDetail
    (rendering : Rendering)
    (finishingTaskId : TaskId)
    (missing : PyVal × PyVal) :
    PyVal :=
  .dict
    [("error_type", .str "final_output_resolution"),
      ("message",
        .str ⟨(PyStr.ofString "Task ").chars ++
          (rendering.str missing.1).chars ++
          (PyStr.ofString " did not return final output ").chars ++
          (rendering.repr missing.2).chars⟩),
      ("details",
        .dict
          [("finishing_task_id", .str finishingTaskId),
            ("referenced_task_id", missing.1),
            ("output_key", missing.2)])]

variable
  {taskId : TaskId}
  {change : StaticTaskNode → StaticTaskNode}
  {run : StaticRun}

namespace StaticRun

/-- `is_terminal`. -/
def isTerminal (run : StaticRun) : Bool :=
  run.status.isTerminal

/-- The node of a task. -/
def node?
    (run : StaticRun)
    (taskId : TaskId) :
    Option StaticTaskNode :=
  run.taskNodes.find? fun node => node.taskId = taskId

/-- The task has succeeded. -/
def hasSucceeded
    (run : StaticRun)
    (taskId : TaskId) :
    Bool :=
  (run.node? taskId).any fun node => node.status = .succeeded

/-- Change the node of a task. -/
def updateNode
    (run : StaticRun)
    (taskId : TaskId)
    (change : StaticTaskNode → StaticTaskNode) :
    StaticRun :=
  { run with
    taskNodes := run.taskNodes.map fun node =>
      if node.taskId = taskId then change node else node }

/-- Change every node that has not ended. -/
def updateActive
    (run : StaticRun)
    (change : StaticTaskNode → StaticTaskNode) :
    StaticRun :=
  { run with
    taskNodes := run.taskNodes.map fun node =>
      if node.status.isActive then change node else node }

/-- Set an entry unless the value is `None`. -/
def setKnown
    (fields : PyDict)
    (key : PyStr)
    (value : PyVal) :
    PyDict :=
  if value = .null then fields else fields.set key value

/-- The entry of a `dict`, and `None` for any other value. -/
def entryOf
    (value : PyVal)
    (key : PyStr) :
    PyVal :=
  match value with
  | .dict entries => PyDict.get entries key
  | _ => .null

/-- `_update_task_fault_tolerance`. -/
def withTrace
    (fields : PyDict)
    (faultTolerance : PyVal) :
    PyDict :=
  if faultTolerance.truthy then
    fields.set "fault_tolerance" faultTolerance
  else
    fields

/-- `attempt`, `dispatch_id` and `lease_id` of a message, where they are known. -/
def withAttempt
    (fields data : PyDict) :
    PyDict :=
  let fields := setKnown fields "attempt" (data.get "attempt")
  let fields := setKnown fields "dispatch_id" (data.get "dispatch_id")
  setKnown fields "lease_id" (data.get "lease_id")

/-- `mark_started`. -/
def markStarted (run : StaticRun) : StaticRun :=
  { run with
    status := if run.status = .created then .running else run.status }

/-- `mark_task_queued`. -/
def markTaskQueued
    (run : StaticRun)
    (taskId : TaskId) :
    StaticRun :=
  run.updateNode taskId fun node =>
    if node.status = .pending then { node with status := .queued } else node

/-- The entries that `mark_task_started` sets. -/
def startedFields
    (fields data : PyDict) :
    PyDict :=
  let decision := (data.get "schedule_decision").orElse (.dict [])
  let fields := fields.set "pending_reason" .null
  let fields := fields.set "schedule_decision" decision
  let fields := fields.set "declared_resources"
    (entryOf decision "declared_resources")
  let fields := fields.set "resource_decision"
    (entryOf decision "resource_decision")
  let fields :=
    if (entryOf decision "requested_resources").truthy then
      fields.set "resources" (entryOf decision "requested_resources")
    else
      fields
  let fields := fields.set "selected_node"
    (.dict
      [("node_id", data.get "node_id"), ("node_ip", data.get "node_ip"),
        ("gpu_id", data.get "gpu_id")])
  let fields := fields.set "attempt"
    ((data.get "attempt").orElse ((fields.get "attempt").orElse (.int 1)))
  let fields := fields.set "dispatch_id" (data.get "dispatch_id")
  fields.set "lease_id" (data.get "lease_id")

/-- `mark_task_started`. -/
def markTaskStarted
    (run : StaticRun)
    (taskId : TaskId)
    (data : PyDict) :
    StaticRun :=
  run.markStarted.updateNode taskId fun node =>
    { node with status := .running, fields := startedFields node.fields data }

/-- `mark_task_pending`. -/
def markTaskPending
    (run : StaticRun)
    (taskId : TaskId)
    (data : PyDict) :
    StaticRun :=
  run.updateNode taskId fun node =>
    { node with
      status := if node.status = .pending then .queued else node.status
      fields := (node.fields.set "pending_reason"
        (data.get "pending_reason")).set "schedule_decision"
          (data.get "schedule_decision") }

/-- `mark_task_retry`. -/
def markTaskRetry
    (run : StaticRun)
    (taskId : TaskId)
    (error : PyVal)
    (data : PyDict) :
    StaticRun :=
  run.updateNode taskId fun node =>
    let fields := node.fields.set "last_error" error
    let fields := (fields.set "error" .null).set "pending_reason" .null
    { node with
      status := .queued
      fields := withTrace (withAttempt fields data)
        (data.get "fault_tolerance") }

/-- `error.get("error_type") == "timeout"` for an error that is a `dict`. -/
def isTimeout (error : PyVal) : Bool :=
  (entryOf error "error_type").pyEq (.str "timeout")

/-- `mark_task_failed`, without a manifest. -/
def markTaskFailed
    (run : StaticRun)
    (taskId : TaskId)
    (error : PyVal)
    (data : PyDict) :
    StaticRun :=
  let failed := run.updateNode taskId fun node =>
    let fields := (node.fields.set "error" error).set "last_error" error
    { node with
      status := if isTimeout error then .timedOut else .failed
      fields := withTrace (withAttempt fields data)
        (data.get "fault_tolerance") }
  { failed with
    status := if isTimeout error then .timedOut else .failed
    errorSummary := error }

/-- `_all_tasks_finished`. -/
def allTasksFinished (run : StaticRun) : Bool :=
  run.taskNodes.all fun node => node.status = .succeeded

/-- `_parents_succeeded`. -/
def parentsSucceeded
    (run : StaticRun)
    (node : StaticTaskNode) :
    Bool :=
  node.parents.all run.hasSucceeded

/-- The results of the tasks, by the values that name them. -/
def resultOf
    (run : StaticRun) :
    PyVal → PyVal
  | .str taskId =>
      ((run.node? taskId).map fun node => node.fields.get "result_summary").getD
        .null
  | _ => .null

/-- The result of a succeeded run; the error names the output that is missing. -/
def finalResult
    (run : StaticRun) :
    Except (PyVal × PyVal) PyVal :=
  match run.finalOutputRefs with
  | some refs => resolveFinalOutputRefs run.resultOf refs
  | none =>
      .ok (.dict ((run.taskNodes.filter fun node =>
        node.status = .succeeded).map fun node =>
          (node.taskId, node.fields.get "result_summary")))

/-- `mark_succeeded`. -/
def markSucceeded
    (run : StaticRun) :
    Except (PyVal × PyVal) StaticRun :=
  if run.status = .succeeded then
    .ok run
  else
    match run.finalResult with
    | .ok result =>
        .ok { run with status := .succeeded, resultSummary := result }
    | .error missing => .error missing

/-- The entries that `mark_task_finished` sets. -/
def finishedFields
    (fields : PyDict)
    (manifest : PyVal)
    (data : PyDict) :
    PyDict :=
  let fields := setKnown fields "duration_ms" (data.get "duration_ms")
  let fields :=
    if (data.get "node_id").truthy then
      match (fields.get "selected_node").orElse (.dict []) with
      | .dict node =>
          fields.set "selected_node"
            (.dict (PyDict.set node "node_id" (data.get "node_id")))
      | _ => fields
    else
      fields
  let fields := withAttempt fields data
  let fields := fields.set "metrics" ((data.get "metrics").orElse (.dict []))
  let fields := fields.set "result_summary" (data.get "result")
  let fields := fields.set "file_manifest" manifest
  withTrace (fields.set "pending_reason" .null) (data.get "fault_tolerance")

/-- The node of the task has succeeded, and its children that can go are queued. -/
def finishNode
    (run : StaticRun)
    (taskId : TaskId)
    (manifest : PyVal)
    (data : PyDict) :
    StaticRun :=
  let finished := run.updateNode taskId fun node =>
    { node with
      status := .succeeded
      fields := finishedFields node.fields manifest data }
  let children := ((run.node? taskId).map StaticTaskNode.children).getD []
  { finished with
    taskNodes := finished.taskNodes.map fun node =>
      if node.taskId ∈ children ∧ node.status = .pending ∧
          finished.parentsSucceeded node then
        { node with status := .queued }
      else
        node }

/--
`mark_task_finished`; the result is the error for the final outputs. A run whose
final outputs are missing fails as if the task had not finished.
-/
def markTaskFinished
    (rendering : Rendering)
    (run : StaticRun)
    (taskId : TaskId)
    (manifest : PyVal)
    (data : PyDict) :
    StaticRun × Option PyVal :=
  match run.node? taskId with
  | none => (run, none)
  | some node =>
      if node.status = .succeeded then
        (run, none)
      else
        let finished := run.finishNode taskId manifest data
        if finished.allTasksFinished then
          match finished.markSucceeded with
          | .ok succeeded => (succeeded, none)
          | .error missing =>
              let error := finalOutputDetail rendering taskId missing
              (run.markTaskFailed taskId error data, some error)
        else
          (finished, none)

/-- `mark_cancelled`. -/
def markCancelled
    (run : StaticRun)
    (reason : PyVal) :
    StaticRun :=
  if run.isTerminal then
    run
  else
    { run.updateActive fun node => { node with status := .cancelled } with
      status := .cancelled
      errorSummary :=
        .dict [("message", reason.orElse (.str "Run cancelled"))] }

/-- The deadline of the run has passed and the run is still active. -/
def deadlinePassed
    (run : StaticRun)
    (now : Time) :
    Bool :=
  match run.deadline with
  | some deadline => !run.isTerminal && deadline < now
  | none => false

/-- `deadline_time`, as the `float` that it is. -/
def deadlineTime
    (rendering : Rendering)
    (run : StaticRun) :
    PyVal :=
  (run.deadline.map rendering.seconds).getD .null

/-- The message of a run that has timed out. -/
def timeoutMessage
    (rendering : Rendering)
    (run : StaticRun) :
    PyVal :=
  .str ⟨(PyStr.ofString "Run timed out after ").chars ++
    (rendering.str run.timeoutSeconds).chars ++
    (PyStr.ofString " seconds").chars⟩

/-- `mark_timed_out_if_needed`. -/
def markTimedOutIfNeeded
    (rendering : Rendering)
    (run : StaticRun)
    (now : Time) :
    StaticRun × Bool :=
  if run.deadlinePassed now then
    let message := timeoutMessage rendering run
    ({ run.updateActive fun node =>
        { node with
          status := .timedOut
          fields := (node.fields.set "pending_reason" .null).set "error"
            (.dict [("error_type", .str "timeout"), ("message", message)]) }
        with
        status := .timedOut
        errorSummary :=
          .dict
            [("error_type", .str "timeout"), ("message", message),
              ("timeout_seconds", run.timeoutSeconds),
              ("deadline_time", deadlineTime rendering run)] },
      true)
  else
    (run, false)

/-- `mark_interrupted`. -/
def markInterrupted
    (run : StaticRun)
    (reason : PyVal) :
    StaticRun × Bool :=
  if run.isTerminal then
    (run, false)
  else
    let message :=
      reason.orElse (.str "Head process restarted before run completed")
    ({ run.updateActive fun node =>
        { node with
          status := .cancelled
          fields := (node.fields.set "pending_reason" .null).set "error"
            (.dict [("error_type", .str "interrupted"), ("message", message)]) }
        with
        status := .interrupted
        errorSummary := .dict [("message", message)] },
      true)

/-- `_mark_static_dispatch_failed`, beside what it notes of the dispatch. -/
def markDispatchFailed
    (run : StaticRun)
    (error : PyVal) :
    StaticRun :=
  { run.updateActive fun node =>
      { node with
        status := .cancelled
        fields := (node.fields.set "pending_reason" .null).set "error" error }
    with
    status := .failed
    errorSummary := error }

/-- `append_event`. -/
def appendEvent
    (run : StaticRun)
    (eventType : PyStr)
    (data : PyDict)
    (timestamp : PyStr) :
    StaticRun × RunEvent :=
  let data := data.setDefault "run_id" (.str run.runId)
  let data := data.setDefault "workflow_id" (.str run.workflowId)
  let data := data.setDefault "run_status" (.str run.status.text)
  let event : RunEvent :=
    { eventType := eventType
      data := data
      seq := run.eventSeq + 1
      timestamp := timestamp }
  ({ run with
      eventSeq := run.eventSeq + 1
      eventLog := run.eventLog ++ [event] },
    event)

/-- The continuation of a task. -/
def continuation?
    (run : StaticRun)
    (taskId : TaskId) :
    Option FinishContinuation :=
  run.finishContinuations.lookup taskId

/-- Set the continuation of a task. -/
def setContinuation
    (run : StaticRun)
    (taskId : TaskId)
    (continuation : FinishContinuation) :
    StaticRun :=
  { run with
    finishContinuations :=
      (taskId, continuation) ::
        run.finishContinuations.filter fun entry => entry.1 ≠ taskId }

/-- Change the continuation of a task. -/
def updateContinuation
    (run : StaticRun)
    (taskId : TaskId)
    (change : FinishContinuation → FinishContinuation) :
    StaticRun :=
  { run with
    finishContinuations :=
      run.finishContinuations.map fun entry =>
        if entry.1 = taskId then (entry.1, change entry.2) else entry }

/-! ## What the marks keep -/

/-- Change every node. -/
def mapNodes
    (run : StaticRun)
    (change : StaticTaskNode → StaticTaskNode) :
    StaticRun :=
  { run with taskNodes := run.taskNodes.map change }

theorem node?_mapNodes
    (run : StaticRun)
    (named : ∀ node, (change node).taskId = node.taskId)
    (taskId : TaskId) :
    (run.mapNodes change).node? taskId = (run.node? taskId).map change := by
  have same : (fun node : StaticTaskNode => decide (node.taskId = taskId)) ∘ change =
      fun node => decide (node.taskId = taskId) := by
    funext node
    rw [Function.comp_apply, named]
  simp only [node?, mapNodes, List.find?_map, same]

theorem hasSucceeded_mapNodes
    (run : StaticRun)
    (named : ∀ node, (change node).taskId = node.taskId)
    (taskId : TaskId) :
    (run.mapNodes change).hasSucceeded taskId =
      (run.node? taskId).any fun node => (change node).status = .succeeded := by
  rw [hasSucceeded, node?_mapNodes run named]
  simp [Option.any_map]

theorem node?_taskId
    {node : StaticTaskNode}
    (found : run.node? taskId = some node) :
    node.taskId = taskId := by
  simpa using List.find?_some found

/-- The same tasks are known and have succeeded. -/
structure SameSucceeded
    (before after : StaticRun) : Prop where
  runId : after.runId = before.runId
  known : ∀ taskId, (after.node? taskId).isSome = (before.node? taskId).isSome
  succeeded : ∀ taskId, after.hasSucceeded taskId = before.hasSucceeded taskId

/-- The run has come as far as before. -/
structure SameProgress
    (before after : StaticRun) : Prop
    extends SameSucceeded before after where
  terminal : after.isTerminal = before.isTerminal
  ended : before.isTerminal = true → after.status = before.status

theorem SameSucceeded.refl (run : StaticRun) : SameSucceeded run run :=
  ⟨rfl, fun _ => rfl, fun _ => rfl⟩

theorem SameSucceeded.trans
    {first second third : StaticRun}
    (early : SameSucceeded first second)
    (late : SameSucceeded second third) :
    SameSucceeded first third where
  runId := late.runId.trans early.runId
  known := fun taskId => (late.known taskId).trans (early.known taskId)
  succeeded := fun taskId =>
    (late.succeeded taskId).trans (early.succeeded taskId)

theorem SameProgress.refl (run : StaticRun) : SameProgress run run where
  toSameSucceeded := SameSucceeded.refl run
  terminal := rfl
  ended := fun _ => rfl

theorem SameProgress.trans
    {first second third : StaticRun}
    (early : SameProgress first second)
    (late : SameProgress second third) :
    SameProgress first third where
  toSameSucceeded := early.toSameSucceeded.trans late.toSameSucceeded
  terminal := late.terminal.trans early.terminal
  ended := fun terminal =>
    (late.ended (early.terminal.trans terminal)).trans (early.ended terminal)

/-- Whatever a run notes beside its nodes and its status keeps its progress. -/
theorem sameProgress_of_nodes
    {before after : StaticRun}
    (runId : after.runId = before.runId)
    (status : after.status = before.status)
    (nodes : after.taskNodes = before.taskNodes) :
    SameProgress before after where
  runId := runId
  known := fun taskId => by simp [node?, nodes]
  succeeded := fun taskId => by simp [hasSucceeded, node?, nodes]
  terminal := by simp [isTerminal, status]
  ended := fun _ => status

/-- A change that keeps which nodes have succeeded keeps the progress. -/
theorem sameProgress_mapNodes
    (run : StaticRun)
    (named : ∀ node, (change node).taskId = node.taskId)
    (status :
      ∀ node, (change node).status = .succeeded ↔ node.status = .succeeded) :
    SameProgress run (run.mapNodes change) where
  runId := rfl
  terminal := rfl
  ended := fun _ => rfl
  known := fun taskId => by
    rw [node?_mapNodes run named]
    simp
  succeeded := fun taskId => by
    rw [hasSucceeded_mapNodes run named]
    simp only [status]
    rfl

theorem sameProgress_updateNode
    (run : StaticRun)
    (taskId : TaskId)
    (named : ∀ node, (change node).taskId = node.taskId)
    (status :
      ∀ node, (change node).status = .succeeded ↔ node.status = .succeeded) :
    SameProgress run (run.updateNode taskId change) := by
  apply sameProgress_mapNodes run
  · intro node
    split
    · exact named node
    · rfl
  · intro node
    split
    · exact status node
    · rfl

theorem sameProgress_markTaskQueued
    (run : StaticRun)
    (taskId : TaskId) :
    SameProgress run (run.markTaskQueued taskId) := by
  apply sameProgress_updateNode run taskId
  · intro node
    split <;> rfl
  · intro node
    split
    · next pending => simp [pending]
    · rfl

theorem sameProgress_markTaskPending
    (run : StaticRun)
    (taskId : TaskId)
    (data : PyDict) :
    SameProgress run (run.markTaskPending taskId data) := by
  apply sameProgress_updateNode run taskId
  · intro node
    rfl
  · intro node
    dsimp only
    split
    · next pending => simp [pending]
    · rfl

theorem sameProgress_appendEvent
    (run : StaticRun)
    (eventType : PyStr)
    (data : PyDict)
    (timestamp : PyStr) :
    SameProgress run (run.appendEvent eventType data timestamp).1 :=
  sameProgress_of_nodes rfl rfl rfl

theorem sameProgress_updateContinuation
    (run : StaticRun)
    (taskId : TaskId)
    (change : FinishContinuation → FinishContinuation) :
    SameProgress run (run.updateContinuation taskId change) :=
  sameProgress_of_nodes rfl rfl rfl

theorem sameProgress_setContinuation
    (run : StaticRun)
    (taskId : TaskId)
    (continuation : FinishContinuation) :
    SameProgress run (run.setContinuation taskId continuation) :=
  sameProgress_of_nodes rfl rfl rfl

theorem known_updateNode
    (run : StaticRun)
    (taskId : TaskId)
    (named : ∀ node, (change node).taskId = node.taskId)
    (other : TaskId) :
    ((run.updateNode taskId change).node? other).isSome =
      (run.node? other).isSome := by
  have named' : ∀ node : StaticTaskNode,
      (if node.taskId = taskId then change node else node).taskId =
        node.taskId := by
    intro node
    split
    · exact named node
    · rfl
  have mapped := node?_mapNodes run named' other
  change ((run.mapNodes _).node? other).isSome = _
  rw [mapped]
  simp

/-- A mark that leaves a task unfinished which had not finished before. -/
theorem hasSucceeded_updateNode_of_unfinished
    (run : StaticRun)
    (named : ∀ node, (change node).taskId = node.taskId)
    (unfinished : ∀ node, (change node).status ≠ .succeeded)
    (before : run.hasSucceeded taskId = false)
    (other : TaskId) :
    (run.updateNode taskId change).hasSucceeded other =
      run.hasSucceeded other := by
  have named' : ∀ node : StaticTaskNode,
      (if node.taskId = taskId then change node else node).taskId =
        node.taskId := by
    intro node
    split
    · exact named node
    · rfl
  refine (hasSucceeded_mapNodes run named' other).trans ?_
  cases found : run.node? other with
  | none =>
      simp [hasSucceeded, found]
  | some node =>
      have identified := node?_taskId found
      by_cases same : other = taskId
      · subst same
        simp [hasSucceeded, found] at before
        simp [hasSucceeded, found, identified, unfinished, before]
      · simp [hasSucceeded, found, identified, same]

/-- A mark that leaves an unfinished task unfinished keeps the progress. -/
theorem sameProgress_of_unfinished
    (run : StaticRun)
    (named : ∀ node, (change node).taskId = node.taskId)
    (unfinished : ∀ node, (change node).status ≠ .succeeded)
    (before : run.hasSucceeded taskId = false) :
    SameProgress run (run.updateNode taskId change) where
  runId := rfl
  terminal := rfl
  ended := fun _ => rfl
  known := known_updateNode run taskId named
  succeeded := hasSucceeded_updateNode_of_unfinished run named unfinished before

theorem sameProgress_markStarted (run : StaticRun) :
    SameProgress run run.markStarted where
  runId := rfl
  terminal := by
    simp only [markStarted, isTerminal]
    split
    · next created => rw [created]; rfl
    · rfl
  ended := fun terminal => by
    simp only [markStarted]
    split
    · next created =>
      rw [isTerminal, created] at terminal
      cases terminal
    · rfl
  known := fun _ => rfl
  succeeded := fun _ => rfl

theorem sameProgress_markTaskStarted
    (run : StaticRun)
    (data : PyDict)
    (unfinished : run.hasSucceeded taskId = false) :
    SameProgress run (run.markTaskStarted taskId data) :=
  (sameProgress_markStarted run).trans
    (sameProgress_of_unfinished run.markStarted (fun _ => rfl)
      (fun _ => by simp) unfinished)

theorem sameProgress_markTaskRetry
    (run : StaticRun)
    (error : PyVal)
    (data : PyDict)
    (unfinished : run.hasSucceeded taskId = false) :
    SameProgress run (run.markTaskRetry taskId error data) :=
  sameProgress_of_unfinished run (fun _ => rfl) (fun _ => by simp) unfinished

/-- After a task has finished, it has succeeded beside the ones before. -/
theorem hasSucceeded_finishNode
    (run : StaticRun)
    (taskId : TaskId)
    (manifest : PyVal)
    (data : PyDict)
    (other : TaskId) :
    (run.finishNode taskId manifest data).hasSucceeded other =
      (run.hasSucceeded other ||
        (other = taskId && (run.node? taskId).isSome)) := by
  have queued : SameProgress
      (run.updateNode taskId fun node =>
        { node with
          status := .succeeded
          fields := finishedFields node.fields manifest data })
      (run.finishNode taskId manifest data) := by
    apply sameProgress_mapNodes
    · intro node
      split <;> rfl
    · intro node
      split
      · next child => simp [child.2.1]
      · rfl
  rw [queued.succeeded]
  have named : ∀ node : StaticTaskNode,
      (if node.taskId = taskId then
        { node with
          status := .succeeded
          fields := finishedFields node.fields manifest data }
      else node).taskId = node.taskId := by
    intro node
    split <;> rfl
  refine (hasSucceeded_mapNodes run named other).trans ?_
  cases found : run.node? other with
  | none =>
      by_cases same : other = taskId
      · subst same
        simp [hasSucceeded, found]
      · simp [hasSucceeded, found, same]
  | some node =>
      have identified := node?_taskId found
      by_cases same : other = taskId
      · subst same
        simp [found, identified]
      · simp [hasSucceeded, found, identified, same]

theorem known_finishNode
    (run : StaticRun)
    (taskId : TaskId)
    (manifest : PyVal)
    (data : PyDict)
    (other : TaskId) :
    ((run.finishNode taskId manifest data).node? other).isSome =
      (run.node? other).isSome := by
  have named : ∀ node : StaticTaskNode,
      ((if node.taskId ∈ ((run.node? taskId).map StaticTaskNode.children).getD [] ∧
            node.status = .pending ∧
            (run.updateNode taskId fun node =>
              { node with
                status := .succeeded
                fields := finishedFields node.fields manifest data
              }).parentsSucceeded node then
          { node with status := .queued }
        else
          node) : StaticTaskNode).taskId = node.taskId := by
    intro node
    split <;> rfl
  have mapped := node?_mapNodes
    (run.updateNode taskId fun node =>
      { node with
        status := .succeeded
        fields := finishedFields node.fields manifest data }) named other
  change ((StaticRun.mapNodes _ _).node? other).isSome = _
  rw [mapped, Option.isSome_map]
  apply known_updateNode run taskId
  intro node
  rfl

theorem isTerminal_markTaskFailed
    (run : StaticRun)
    (taskId : TaskId)
    (error : PyVal)
    (data : PyDict) :
    (run.markTaskFailed taskId error data).isTerminal = true := by
  simp only [markTaskFailed, isTerminal]
  split <;> rfl

/-- A failure leaves every other task as it was. -/
theorem sameSucceeded_markTaskFailed
    (run : StaticRun)
    (error : PyVal)
    (data : PyDict)
    (unfinished : run.hasSucceeded taskId = false) :
    SameSucceeded run (run.markTaskFailed taskId error data) := by
  have named : ∀ node : StaticTaskNode,
      ({ node with
        status := if isTimeout error then .timedOut else .failed
        fields := withTrace (withAttempt ((node.fields.set "error" error).set
          "last_error" error) data) (data.get "fault_tolerance")
        } : StaticTaskNode).taskId = node.taskId := fun _ => rfl
  have marked := sameProgress_of_unfinished run named
    (fun _ => by dsimp only; split <;> simp) unfinished
  exact ⟨marked.runId, marked.known, marked.succeeded⟩

/-- Ending the active nodes leaves those that have succeeded. -/
theorem sameSucceeded_updateActive
    (run : StaticRun)
    (named : ∀ node, (change node).taskId = node.taskId)
    (unfinished : ∀ node, (change node).status ≠ .succeeded) :
    SameSucceeded run (run.updateActive change) := by
  refine (sameProgress_mapNodes run ?_ ?_).toSameSucceeded
  · intro node
    split
    · exact named node
    · rfl
  · intro node
    split
    · next active =>
      refine iff_of_false (unfinished node) ?_
      intro succeeded
      rw [succeeded] at active
      cases active
    · rfl

theorem sameSucceeded_markCancelled
    (run : StaticRun)
    (reason : PyVal) :
    SameSucceeded run (run.markCancelled reason) := by
  unfold markCancelled
  split
  · exact SameSucceeded.refl run
  · have named : ∀ node : StaticTaskNode,
        ({ node with status := .cancelled } : StaticTaskNode).taskId = node.taskId :=
      fun _ => rfl
    have marked := sameSucceeded_updateActive run named (fun _ => by simp)
    exact ⟨marked.runId, marked.known, marked.succeeded⟩

theorem sameSucceeded_markTimedOut
    (rendering : Rendering)
    (run : StaticRun)
    (now : Time) :
    SameSucceeded run (run.markTimedOutIfNeeded rendering now).1 := by
  unfold markTimedOutIfNeeded
  split
  · have named : ∀ (error : PyVal) (node : StaticTaskNode),
        ({ node with
          status := .timedOut
          fields := (node.fields.set "pending_reason" .null).set "error" error
          } : StaticTaskNode).taskId = node.taskId := fun _ _ => rfl
    have marked := sameSucceeded_updateActive run
      (named (.dict [("error_type", .str "timeout"),
        ("message", timeoutMessage rendering run)])) (fun _ => by simp)
    exact ⟨marked.runId, marked.known, marked.succeeded⟩
  · exact SameSucceeded.refl run

/-- The nodes of a run with a finished task, whatever has become of the run. -/
theorem markTaskFinished_finished
    (rendering : Rendering)
    {manifest : PyVal}
    {data : PyDict}
    (unfinished : run.hasSucceeded taskId = false)
    (known : (run.node? taskId).isSome = true)
    (returned :
      (run.markTaskFinished rendering taskId manifest data).2 = none) :
    (run.markTaskFinished rendering taskId manifest data).1.taskNodes =
        (run.finishNode taskId manifest data).taskNodes := by
  obtain ⟨node, found⟩ := Option.isSome_iff_exists.mp known
  have waiting : node.status ≠ .succeeded := by
    simpa [hasSucceeded, found] using unfinished
  revert returned
  unfold markTaskFinished
  simp only [found, waiting, if_false]
  split
  · cases ended : (run.finishNode taskId manifest data).markSucceeded with
    | ok succeeded =>
        intro _
        unfold markSucceeded at ended
        split at ended
        · cases ended
          rfl
        · split at ended
          · cases ended
            rfl
          · cases ended
    | error missing =>
        intro returned
        cases returned
  · intro _
    rfl

/-- One more task of the run has succeeded. -/
structure OneMore
    (before : StaticRun)
    (taskId : TaskId)
    (after : StaticRun) : Prop where
  runId : after.runId = before.runId
  known : ∀ other, (after.node? other).isSome = (before.node? other).isSome
  named : (before.node? taskId).isSome = true
  succeeded :
    ∀ other, after.hasSucceeded other =
      (before.hasSucceeded other || decide (other = taskId))

/-- Finishing a task changes neither the id nor a continuation. -/
theorem markTaskFinished_kept
    (rendering : Rendering)
    (run : StaticRun)
    (taskId : TaskId)
    (manifest : PyVal)
    (data : PyDict) :
    let marked := (run.markTaskFinished rendering taskId manifest data).1
    marked.runId = run.runId ∧
      marked.finishContinuations = run.finishContinuations := by
  unfold markTaskFinished
  split
  · exact ⟨rfl, rfl⟩
  · split
    · exact ⟨rfl, rfl⟩
    · dsimp only
      split
      · cases ended : (run.finishNode taskId manifest data).markSucceeded with
        | ok succeeded =>
            unfold markSucceeded at ended
            split at ended
            · cases ended
              exact ⟨rfl, rfl⟩
            · split at ended
              · cases ended
                exact ⟨rfl, rfl⟩
              · cases ended
        | error missing =>
            exact ⟨rfl, rfl⟩
      · exact ⟨rfl, rfl⟩

theorem oneMore_markTaskFinished
    (rendering : Rendering)
    {manifest : PyVal}
    {data : PyDict}
    (unfinished : run.hasSucceeded taskId = false)
    (returned :
      (run.markTaskFinished rendering taskId manifest data).2 = none)
    (known :
      ((run.markTaskFinished rendering taskId manifest data).1.node?
        taskId).isSome = true) :
    OneMore run taskId
      (run.markTaskFinished rendering taskId manifest data).1 := by
  have named : (run.node? taskId).isSome = true := by
    cases found : run.node? taskId with
    | some node =>
        rfl
    | none =>
        simp [markTaskFinished, found] at known
  have nodes := markTaskFinished_finished rendering unfinished named returned
  have same : ∀ other,
      (run.markTaskFinished rendering taskId manifest data).1.node? other =
        (run.finishNode taskId manifest data).node? other := fun other => by
    simp [node?, nodes]
  exact {
    runId := (markTaskFinished_kept rendering run taskId manifest data).1
    known := fun other => by
      rw [same]
      exact known_finishNode run taskId manifest data other
    named := named
    succeeded := fun other => by
      rw [hasSucceeded, same, ← hasSucceeded,
        hasSucceeded_finishNode run taskId manifest data other, named,
        Bool.and_true] }

/-- A run whose final outputs are missing has ended, with the task unfinished. -/
theorem markTaskFinished_failed
    (rendering : Rendering)
    {manifest error : PyVal}
    {data : PyDict}
    (unfinished : run.hasSucceeded taskId = false)
    (failed :
      (run.markTaskFinished rendering taskId manifest data).2 = some error) :
    SameSucceeded run
        (run.markTaskFinished rendering taskId manifest data).1 ∧
      (run.markTaskFinished rendering taskId manifest data).1.isTerminal =
        true := by
  revert failed
  unfold markTaskFinished
  split
  · simp
  · split
    · simp
    · dsimp only
      split
      · cases (run.finishNode taskId manifest data).markSucceeded with
        | ok succeeded => simp
        | error missing =>
            intro _
            exact ⟨sameSucceeded_markTaskFailed run _ data unfinished,
              isTerminal_markTaskFailed run taskId _ data⟩
      · simp

theorem isTerminal_markCancelled
    (run : StaticRun)
    (reason : PyVal) :
    (run.markCancelled reason).isTerminal = true := by
  unfold markCancelled
  split
  · next terminal => exact terminal
  · rfl

theorem isTerminal_markTimedOut
    (rendering : Rendering)
    {now : Time}
    (passed : (run.markTimedOutIfNeeded rendering now).2 = true) :
    (run.markTimedOutIfNeeded rendering now).1.isTerminal = true := by
  unfold markTimedOutIfNeeded at passed ⊢
  split at passed
  · next late =>
    rw [if_pos late]
    rfl
  · cases passed

theorem continuation?_markCancelled
    (run : StaticRun)
    (reason : PyVal)
    (taskId : TaskId) :
    (run.markCancelled reason).continuation? taskId =
      run.continuation? taskId := by
  unfold markCancelled
  split <;> rfl

theorem continuation?_markTimedOut
    (rendering : Rendering)
    (run : StaticRun)
    (now : Time)
    (taskId : TaskId) :
    (run.markTimedOutIfNeeded rendering now).1.continuation? taskId =
      run.continuation? taskId := by
  unfold markTimedOutIfNeeded
  split <;> rfl

@[simp] theorem continuation?_setContinuation
    (run : StaticRun)
    (taskId other : TaskId)
    (continuation : FinishContinuation) :
    (run.setContinuation taskId continuation).continuation? other =
      if other = taskId then some continuation else run.continuation? other := by
  by_cases same : other = taskId
  · subst same
    simp [continuation?, setContinuation]
  · have kept : ∀ entries : List (TaskId × FinishContinuation),
        (entries.filter fun entry => entry.1 ≠ taskId).lookup other =
          entries.lookup other := by
      intro entries
      induction entries with
      | nil =>
          rfl
      | cons entry rest inductionHypothesis =>
          obtain ⟨key, value⟩ := entry
          by_cases here : key = taskId
          · subst here
            have differ : (other == key) = false := by simpa using same
            simpa [List.lookup_cons, differ] using inductionHypothesis
          · by_cases found : other = key
            · subst found
              simp [here]
            · have differ : (other == key) = false := by simpa using found
              simpa [here, List.lookup_cons, differ] using inductionHypothesis
    have differ : (other == taskId) = false := by simpa using same
    simpa [continuation?, setContinuation, List.lookup_cons, differ, same] using
      kept run.finishContinuations

@[simp] theorem continuation?_updateContinuation
    (run : StaticRun)
    (taskId other : TaskId)
    (change : FinishContinuation → FinishContinuation) :
    (run.updateContinuation taskId change).continuation? other =
      if other = taskId then (run.continuation? other).map change
      else run.continuation? other := by
  unfold continuation? updateContinuation
  dsimp only
  induction run.finishContinuations with
  | nil =>
      simp
  | cons entry rest inductionHypothesis =>
      obtain ⟨key, value⟩ := entry
      by_cases found : other = key
      · subst found
        by_cases here : other = taskId <;> simp [here]
      · have differ : (other == key) = false := by simpa using found
        by_cases here : key = taskId
        · subst here
          simpa [List.lookup_cons, differ] using inductionHypothesis
        · simpa [List.lookup_cons, differ, here] using inductionHypothesis

end StaticRun

end Maze.Core
