import Maze.Core.StaticRun

namespace Maze.Core

open Maze.Python

/-!
# The snapshot of a static run

`run.json` holds what a run was when it was last saved: its status, its nodes and
how far its dispatch had come. The file is replaced as a whole, so it is an old
snapshot or a new one. Times, the declared inputs and what is only shown are left
out.
-/

/-- `dispatch.status`. -/
inductive DispatchStatus where
  | prepared
  | dispatching
  | active
  | cleanupPending
  | terminal
  deriving DecidableEq

/-- `dispatch.artifact_status`. -/
inductive ArtifactStatus where
  | none
  | pending
  | ready
  | revoked
  deriving DecidableEq

/-- `_dispatch`; what `_validate_dispatch` refuses cannot be built. -/
structure Dispatch where
  status : DispatchStatus
  rootTaskIds : List TaskId
  artifactStatus : ArtifactStatus
  artifactOwnerId : Option PyStr
  cleanupRequestId : Option PyStr
  error : PyVal
  deriving DecidableEq

/-- `task_counts`. -/
structure StaticTaskCounts where
  total : Nat
  pending : Nat
  queued : Nat
  running : Nat
  succeeded : Nat
  failed : Nat
  cancelled : Nat
  timedOut : Nat
  deriving DecidableEq

/-- `_task_counts` and `_snapshot_task_counts`. -/
def taskCounts (nodes : List StaticTaskNode) : StaticTaskCounts :=
  let count (status : NodeStatus) := nodes.countP fun node => node.status = status
  { total := nodes.length
    pending := count .pending
    queued := count .queued
    running := count .running
    succeeded := count .succeeded
    failed := count .failed
    cancelled := count .cancelled
    timedOut := count .timedOut }

/-- `progress.completed`. -/
def StaticTaskCounts.completed (counts : StaticTaskCounts) : Nat :=
  counts.succeeded + counts.failed + counts.cancelled + counts.timedOut

/-- `run.json`; what is read from it was written as UTF-8. -/
structure StaticSnapshot where
  runId : PyStr
  workflowId : PyStr
  status : StaticRunStatus
  taskNodes : List StaticTaskNode
  taskCounts : StaticTaskCounts
  eventCount : Nat
  lastEventSeq : Int
  resultSummary : PyVal
  errorSummary : PyVal
  dispatch : Option Dispatch
  submissionDigest : Option PyStr
  encodable : runId.encodable = true ∧ workflowId.encodable = true
  deriving DecidableEq

/-- How `save_run` ends: it may raise before the new file is in place or after. -/
inductive Save where
  | completes
  | fails
  | failsReplaced
  deriving DecidableEq

namespace Save

/-- What is on disk after a save. -/
def stored
    {Content : Type}
    (save : Save)
    (old new : Content) :
    Content :=
  match save with
  | .completes | .failsReplaced => new
  | .fails => old

/-- What a save returns or raises. -/
def result : Save → Except PyErr Unit
  | .completes => .ok ()
  | .fails | .failsReplaced => .error .osError

end Save

namespace StaticRun

/-- `_static_run_snapshot`. -/
def snapshot
    (run : StaticRun)
    (dispatch : Option Dispatch)
    (submissionDigest : Option PyStr)
    (encodable :
      run.runId.encodable = true ∧ run.workflowId.encodable = true) :
    StaticSnapshot where
  runId := run.runId
  workflowId := run.workflowId
  status := run.status
  taskNodes := run.taskNodes
  taskCounts := taskCounts run.taskNodes
  eventCount := run.eventLog.length
  lastEventSeq := run.eventSeq
  resultSummary := run.resultSummary
  errorSummary := run.errorSummary
  dispatch := dispatch
  submissionDigest := submissionDigest
  encodable := encodable

end StaticRun

end Maze.Core
