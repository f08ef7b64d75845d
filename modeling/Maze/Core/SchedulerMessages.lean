import Maze.Core.AttemptGate

namespace Maze.Core

open Maze.Python

/-!
# Messages of the scheduler

What Core's handlers of static and of dynamic runs do alike with a message about
a task, before and beside the run that it is about.
-/

/-- A message of the scheduler about a task. -/
inductive SchedulerMessage where
  | attempt (messageType : AttemptGate.MessageType) (data : PyDict)
  | pending (data : PyDict)

namespace SchedulerMessage

/-- The data of a message. -/
def data : SchedulerMessage → PyDict
  | .attempt _ data | .pending data => data

/-- The message that takes the place of one whose manifest is refused. -/
def artifactFailure
    (data : PyDict)
    (envelope : PyVal) :
    SchedulerMessage :=
  .attempt .taskException
    (((data.pop "file_manifest").set "error" envelope).set "result" envelope)

/-- The message in place of a refused one is about the same run. -/
theorem artifactFailure_workflow
    (data : PyDict)
    (envelope : PyVal) :
    (artifactFailure data envelope).data.get "workflow_id" =
      data.get "workflow_id" := by
  simp [artifactFailure, SchedulerMessage.data, PyDict.get, PyDict.get?_pop_of_ne]

/-- Put an observation into an error that is a `dict`. -/
def withObservation
    (error observation : PyVal) :
    PyVal :=
  match error with
  | .dict entries =>
      .dict (PyDict.set entries "resource_observation" observation)
  | other => other

/-- `_finish_continuation_identity`. -/
def finishIdentity (data : PyDict) : PyDict :=
  [("attempt", data.get "attempt"), ("dispatch_id", data.get "dispatch_id"),
    ("lease_id", data.get "lease_id")]

theorem finishIdentity_set
    (data : PyDict)
    (key : PyStr)
    (value : PyVal)
    (attempt : key ≠ "attempt")
    (dispatch : key ≠ "dispatch_id")
    (lease : key ≠ "lease_id") :
    finishIdentity (data.set key value) = finishIdentity data := by
  simp [finishIdentity, PyDict.get, attempt.symm, dispatch.symm, lease.symm]

/-- The identity of a parsed message equals itself. -/
theorem finishIdentity_pyEq
    {data : PyDict}
    {key : AttemptGate.TaskKey}
    {identity : AttemptGate.AttemptIdentity}
    (parsed : AttemptGate.taskAttemptIdentity? data = some (key, identity)) :
    (PyVal.dict (finishIdentity data)).pyEq (.dict (finishIdentity data)) =
      true := by
  obtain ⟨_, _, attempt, dispatch, lease⟩ :=
    AttemptGate.taskAttemptIdentity?_eq_some parsed
  simp [finishIdentity, attempt, dispatch, lease, PyVal.pyEq, PyVal.pyEqEntries,
    PyVal.number?, PyDict.get?]

end SchedulerMessage

end Maze.Core
