import Mathlib.Data.List.Lex
import Mathlib.Data.List.Sort
import Maze.Core.DynamicRun
import Maze.Python.DateTime

namespace Maze.Core

open Maze.Python

/-!
# Snapshots of dynamic runs

What `run.json` keeps of a dynamic run, and how recovery rewrites it when the
event log already holds the event that ended the run. The members of a snapshot
that recovery neither reads nor writes are left out.
-/

/-- The id lists of a snapshot, by progress. -/
structure TaskLists where
  pending : List TaskId
  submitted : List TaskId
  running : List TaskId
  completed : List TaskId
  failed : List TaskId
  deriving DecidableEq

/-- The `task_counts` of a snapshot. -/
structure TaskCounts where
  total : Nat
  pending : Nat
  submitted : Nat
  running : Nat
  completed : Nat
  failed : Nat
  deriving DecidableEq

/-- What recovery changes in an entry of `task_nodes`. -/
structure TaskNode where
  status : DynamicRun.TaskStatus
  finishTime : Option Time
  error : PyVal
  deriving DecidableEq

/-- The snapshot of a dynamic run. -/
structure DynamicSnapshot where
  runId : PyStr
  status : RunStatus
  fileContext : PyVal
  createdTime : Time
  updatedTime : Time
  finishedTime : Option Time
  taskCounts : TaskCounts
  tasks : TaskLists
  taskNodes : List (TaskId × TaskNode)
  taskErrors : PyDict
  taskFileManifests : PyDict
  taskFaultTolerance : PyDict
  eventCount : Nat
  lastEventSeq : Nat
  finalResult : PyVal
  cancelReason : PyVal
  failureReason : PyVal
  deriving DecidableEq

/-- `sorted` of task ids. -/
def sortIds (taskIds : List TaskId) : List TaskId :=
  taskIds.insertionSort fun first second => first.chars ≤ second.chars

/-- `DynamicRun.snapshot`. -/
def DynamicRun.snapshot
    (run : DynamicRun) :
    DynamicSnapshot where
  runId := run.runId
  status := run.status
  fileContext := run.fileContext
  createdTime := run.createdTime
  updatedTime := run.updatedTime
  finishedTime := run.finishedTime
  taskCounts :=
    { total := run.tasks.length
      pending := run.pendingTasks.length
      submitted := run.submittedTasks.length
      running := run.runningTasks.length
      completed := run.completedTasks.length
      failed := run.failedTasks.length }
  tasks :=
    { pending := sortIds run.pendingTasks
      submitted := sortIds run.submittedTasks
      running := sortIds run.runningTasks
      completed := sortIds run.completedTasks
      failed := sortIds run.failedTasks }
  taskNodes :=
    run.tasks.map fun entry =>
      (entry.1,
        { status := run.taskStatus entry.1
          finishTime := entry.2.finishTime
          error := run.taskErrors.get entry.1 })
  taskErrors := run.taskErrors
  taskFileManifests := run.taskFileManifests
  taskFaultTolerance := run.taskFaultTolerance
  eventCount := run.eventLog.length
  lastEventSeq := run.eventSeq
  finalResult := run.finalResult
  cancelReason := run.cancelReason
  failureReason := run.failureReason

namespace DynamicSnapshot

/-- The ids that a snapshot lists as pending, submitted or running. -/
def activeTaskIds
    (snapshot : DynamicSnapshot) :
    List TaskId :=
  snapshot.tasks.pending ∪ snapshot.tasks.submitted ∪ snapshot.tasks.running

/-- Take ids out of a list. -/
def without (taskIds removed : List TaskId) : List TaskId :=
  taskIds.filter fun taskId => taskId ∉ removed

/-- `_fail_snapshot_tasks`. -/
def failSnapshotTasks
    (snapshot : DynamicSnapshot)
    (taskIds : List TaskId)
    (error : PyVal)
    (finishedTime : Time) :
    DynamicSnapshot :=
  if taskIds = [] then
    snapshot
  else
    let tasks : TaskLists :=
      { pending := without snapshot.tasks.pending taskIds
        submitted := without snapshot.tasks.submitted taskIds
        running := without snapshot.tasks.running taskIds
        completed := snapshot.tasks.completed
        failed := sortIds (snapshot.tasks.failed ∪ taskIds) }
    { snapshot with
      tasks := tasks
      taskErrors :=
        taskIds.foldl (fun errors taskId => errors.set taskId error)
          snapshot.taskErrors
      taskNodes :=
        snapshot.taskNodes.map fun entry =>
          if entry.1 ∈ taskIds then
            (entry.1, ⟨.failed, some finishedTime, error⟩)
          else
            entry
      taskCounts :=
        { total := snapshot.taskCounts.total
          pending := tasks.pending.length
          submitted := tasks.submitted.length
          running := tasks.running.length
          completed := tasks.completed.length
          failed := tasks.failed.length } }

/-- `data.get("error", data.get("result"))`. -/
def failureOf (data : PyDict) : PyVal :=
  (data.get? "error").getD (data.get "result")

/-- The error of the tasks that a timeout event failed; `str` renders a value. -/
def timeoutError
    (str : PyVal → PyStr)
    (data : PyDict) :
    PyVal :=
  .dict
    [("error_type", .str "timeout"),
      ("message",
        .str ⟨(PyStr.ofString "Dynamic run timed out after ").chars ++
          (str (data.get "timeout_seconds")).chars ++
          (PyStr.ofString " seconds").chars⟩)]

/-- The error of the tasks that an interrupt event failed. -/
def interruptError (data : PyDict) : PyVal :=
  .dict
    [("error_type", .str "interrupted"),
      ("message",
        (data.get "reason").orElse (.str DynamicRun.defaultInterruption))]

/-- Set an entry of a traced file manifest or of a fault-tolerance trace. -/
def setTrace
    (traces : PyDict)
    (taskId : TaskId)
    (trace : PyVal) :
    PyDict :=
  match trace with
  | .dict _ => traces.set taskId trace
  | _ => traces

/-- The task that a `task_exception` event names has failed. -/
def failNamedTask
    (snapshot : DynamicSnapshot)
    (data : PyDict)
    (eventTime : Time) :
    DynamicSnapshot :=
  match data.get "task_id" with
  | .str taskId =>
      if taskId.isEmpty then
        snapshot
      else
        let failed := snapshot.failSnapshotTasks [taskId] (failureOf data)
          eventTime
        { failed with
          taskFileManifests := setTrace failed.taskFileManifests taskId
            (data.get "file_manifest")
          taskFaultTolerance := setTrace failed.taskFaultTolerance taskId
            (data.get "fault_tolerance") }
  | _ => snapshot

/-- The part of `_apply_terminal_event_to_snapshot` that depends on the status. -/
def applyStatus
    (str : PyVal → PyStr)
    (snapshot : DynamicSnapshot)
    (data : PyDict)
    (status : RunStatus)
    (eventTime : Time) :
    DynamicSnapshot :=
  match status with
  | .finalized => { snapshot with finalResult := data.get "result" }
  | .canceled => { snapshot with cancelReason := data.get "reason" }
  | .failed =>
      { snapshot with failureReason := failureOf data }.failNamedTask data
        eventTime
  | .timedOut =>
      let error := timeoutError str data
      { snapshot with failureReason := error }.failSnapshotTasks
        snapshot.activeTaskIds error eventTime
  | .interrupted =>
      { snapshot with failureReason := data.get "reason" }.failSnapshotTasks
        snapshot.activeTaskIds (interruptError data) eventTime
  | .created | .running => snapshot

/-- The largest sequence number of some events. -/
def maxSeq (events : List RunEvent) : Nat :=
  (events.map RunEvent.seq).foldr max 0

/-- `_apply_terminal_event_to_snapshot`, with the time of the event. -/
def applyTerminalEvent
    (str : PyVal → PyStr)
    (snapshot : DynamicSnapshot)
    (event : RunEvent)
    (status : RunStatus)
    (events : List RunEvent)
    (eventTime : Time) :
    DynamicSnapshot :=
  let ended :=
    { snapshot with
      status := status
      finishedTime := some eventTime
      updatedTime := eventTime }
  { ended.applyStatus str event.data status eventTime with
    eventCount := events.length
    lastEventSeq := maxSeq events }

end DynamicSnapshot

end Maze.Core
