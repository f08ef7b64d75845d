import Maze.Core.DynamicRunStore

namespace Maze.Core

open Maze.Python

/-!
# Core's operations on a dynamic run

Every operation changes the run in memory, records an event, appends it to the
canonical log and to the mirror, and saves the snapshot. Each of the three writes
may fail with `OSError`, before or after its bytes are on disk. The scheduler
messages that carry an attempt are rolled back in memory when anything is raised;
they are then handled again. The message data is taken as the handler records it.
-/

/-- How a write ends: it may fail before or after it is on disk. -/
inductive Fault where
  | none
  | before
  | after
  deriving DecidableEq

/-- The faults of the three writes of an operation. -/
structure Faults where
  canonical : Fault
  mirror : Fault
  save : Fault
  deriving DecidableEq

namespace DynamicRunStore

/-- A single write with its fault. -/
def attempt
    (fault : Fault)
    (write : DiskWrite) :
    Performed :=
  match fault with
  | .none => ⟨[write], .ok ()⟩
  | .before => ⟨[], .error .osError⟩
  | .after => ⟨[write], .error .osError⟩

/-- The mirror part of `append_event_once`. -/
def mirrorEventOnce
    (files : DynamicFiles)
    (event : RunEvent)
    (snapshot : DynamicSnapshot)
    (fault : Fault) :
    Performed :=
  if hasWorkspace snapshot then
    match eventForAppend files.mirror event false with
    | .error raised => ⟨[], .error raised⟩
    | .ok (some _) => ⟨[], .ok ()⟩
    | .ok none => attempt fault (.mirror event)
  else
    ⟨[], .ok ()⟩

/-- `append_event_once`: the mirror receives what the canonical log holds. -/
def appendEventOnce
    (files : DynamicFiles)
    (event : RunEvent)
    (snapshot : DynamicSnapshot)
    (faults : Faults) :
    Performed :=
  match eventForAppend files.canonical event true with
  | .error raised => ⟨[], .error raised⟩
  | .ok (some persisted) =>
      mirrorEventOnce files persisted snapshot faults.mirror
  | .ok none =>
      Performed.andThen (attempt faults.canonical (.canonical event))
        fun writes =>
          mirrorEventOnce (writeAll files writes) event snapshot faults.mirror

/-- `append_event_once` and `save_run`. -/
def persistEvent
    (files : DynamicFiles)
    (event : RunEvent)
    (snapshot : DynamicSnapshot)
    (faults : Faults) :
    Performed :=
  Performed.andThen (appendEventOnce files event snapshot faults) fun _ =>
    attempt faults.save (.snapshot snapshot)

end DynamicRunStore

namespace DynamicCore

open DynamicRunStore

/-- What Core does to a dynamic run. -/
inductive Operation where
  | startRun (data : PyDict)
  | registerTaskSpec (data : PyDict)
  | appendTask (request : DynamicRun.AppendRequest) (data : PyDict)
  | emitEvent (eventType : PyStr) (data : PyDict)
  | finalize (result : PyVal)
  | cancel (reason : PyVal)
  | timeOut (data : PyDict)
  | interrupt (reason : PyVal) (data : PyDict)
  | startTask (taskId : TaskId) (data : PyDict)
  | taskPending (data : PyDict)
  | taskRetry (taskId : TaskId) (error : PyVal) (data : PyDict)
  | taskException (taskId : TaskId) (data : PyDict)
  | finishTask (taskId : TaskId) (data : PyDict)
  | taskReady (data : PyDict)
  | emitAgain (seq : Nat)
  | save

/-- The event types that `emit_dynamic_run_event` reserves. -/
def reservedEventTypes : List PyStr :=
  ["start_dynamic_run", "register_task_spec", "append_task", "task_ready",
    "start_task", "finish_task", "task_exception", "finish_workflow",
    "cancel_dynamic_run", "timeout_dynamic_run", "interrupt_dynamic_run"]

/-- An event before the run numbers it. -/
structure Draft where
  eventType : PyStr
  data : PyDict

/-- The event of an operation that records one only if its call succeeded. -/
def draftIf
    (succeeded : Bool)
    (eventType : PyStr)
    (data : PyDict) :
    Option Draft :=
  if succeeded then some ⟨eventType, data⟩ else none

/-- The call went through. -/
def succeeded {α : Type} : Except PyErr α → Bool
  | .ok _ => true
  | .error _ => false

/-- The call returned true. -/
def returnedTrue : Except PyErr Bool → Bool
  | .ok value => value
  | .error _ => false

/-- A task was added by the call. -/
def addedTask : Except PyErr (TaskId × Bool) → Bool
  | .ok (_, idempotent) => !idempotent
  | .error _ => false

/-- The run after an operation in memory, and the event it records. -/
def apply
    (render : Time → PyStr)
    (run : DynamicRun)
    (now : Time) :
    Operation → DynamicRun × Option Draft
  | .startRun data => (run, some ⟨"start_dynamic_run", data⟩)
  | .registerTaskSpec data =>
      let checked := run.checkCanMutate render now
      (checked.state,
        draftIf (succeeded checked.result) "register_task_spec" data)
  | .appendTask request data =>
      let appended := run.appendTask render request now
      (appended.state, draftIf (addedTask appended.result) "append_task" data)
  | .emitEvent eventType data =>
      if eventType ∈ reservedEventTypes then
        (run, none)
      else
        let checked := run.checkCanMutate render now
        (checked.state, draftIf (succeeded checked.result) eventType data)
  | .finalize result =>
      let finalized := run.finalize render result now
      (finalized.state,
        draftIf (succeeded finalized.result) "finish_workflow"
          [("result", result)])
  | .cancel reason =>
      let canceled := run.cancel render reason now
      (canceled.state,
        draftIf (returnedTrue canceled.result) "cancel_dynamic_run"
          [("reason", reason)])
  | .timeOut data =>
      let (run, passed) := run.markTimedOutIfNeeded render now
      (run, draftIf passed "timeout_dynamic_run" data)
  | .interrupt reason data =>
      let (run, interrupted) := run.interrupt reason now
      (run, draftIf interrupted "interrupt_dynamic_run" data)
  | .startTask taskId data =>
      (run.markStarted taskId now, draftIf (!run.isTerminal) "start_task" data)
  | .taskPending data => (run, draftIf (!run.isTerminal) "task_pending" data)
  | .taskRetry taskId error data =>
      (run.markRetrying taskId error (data.get "fault_tolerance") now,
        draftIf (!run.isTerminal) "task_retry" data)
  | .taskException taskId data =>
      (run.markFailed taskId (DynamicSnapshot.failureOf data)
          (data.get "fault_tolerance") now,
        draftIf (!run.isTerminal) "task_exception" data)
  | .finishTask taskId data =>
      ((run.markFinished taskId (data.get "fault_tolerance") now).1,
        draftIf (!run.isTerminal) "finish_task" data)
  | .taskReady data => (run, some ⟨"task_ready", data⟩)
  | .emitAgain _ | .save => (run, none)

/-- The messages that run in a transaction on the run in memory. -/
def isTransaction : Operation → Bool
  | .startTask _ _ | .taskRetry _ _ _ | .taskException _ _
  | .finishTask _ _ => true
  | _ => false

/-- An operation with its clock and the faults of its writes. -/
structure Action where
  operation : Operation
  now : Time
  moment : Instant
  faults : Faults

/-- What is left to persist of an interrupted run when the scheduler has exited. -/
structure ExitEntry where
  event : RunEvent
  snapshot : DynamicSnapshot
  eventPersisted : Bool

/-- A run in memory and on disk. -/
structure Process where
  run : DynamicRun
  files : DynamicFiles
  exitEntry : Option ExitEntry

/-- A process after `DynamicRun(...)`, before anything is on disk. -/
def initial (run : DynamicRun) : Process :=
  ⟨run, ⟨[], [], none⟩, none⟩

/-- The run in memory after an operation, with the event it has recorded. -/
def recorded
    (render : Time → PyStr)
    (run : DynamicRun)
    (action : Action) :
    DynamicRun × Option RunEvent :=
  match apply render run action.now action.operation with
  | (run, none) => (run, none)
  | (run, some draft) =>
      let (run, event) := run.appendEvent draft.eventType draft.data
        action.moment.val.isoFormat action.now
      (run, some event)

/-- The exit entry that the interruption of a run works on. -/
def exitEntry?
    (render : Time → PyStr)
    (process : Process)
    (action : Action) :
    DynamicRun × Option ExitEntry :=
  match process.exitEntry with
  | some entry => (process.run, some entry)
  | none =>
      let (run, event) := recorded render process.run action
      (run, event.map fun event => ⟨event, run.snapshot, false⟩)

/-- The append of `_persist_scheduler_exit_entry`. -/
def appendExitEntry
    (files : DynamicFiles)
    (entry : ExitEntry)
    (faults : Faults) :
    Performed :=
  if entry.eventPersisted then
    ⟨[], .ok ()⟩
  else
    appendEventOnce files entry.event entry.snapshot faults

/-- `_persist_scheduler_exit_entry`. -/
def persistExitEntry
    (process : Process)
    (entry : ExitEntry)
    (faults : Faults) :
    Process :=
  let appended := appendExitEntry process.files entry faults
  let files := writeAll process.files appended.writes
  if succeeded appended.result then
    let saved := attempt faults.save (.snapshot entry.snapshot)
    { process with
      files := writeAll files saved.writes
      exitEntry :=
        if succeeded saved.result then none
        else some { entry with eventPersisted := true } }
  else
    { process with files := files, exitEntry := some entry }

/-- Persist what an operation has recorded. -/
def persist
    (process : Process)
    (run : DynamicRun)
    (event : RunEvent)
    (action : Action) :
    Process :=
  let performed := persistEvent process.files event run.snapshot action.faults
  { process with
    run :=
      if isTransaction action.operation && !succeeded performed.result then
        process.run
      else
        run
    files := writeAll process.files performed.writes }

/-- One operation of Core. -/
def perform
    (render : Time → PyStr)
    (process : Process)
    (action : Action) :
    Process :=
  match action.operation with
  | .save =>
      let saved := attempt action.faults.save (.snapshot process.run.snapshot)
      { process with files := writeAll process.files saved.writes }
  | .emitAgain seq =>
      match process.run.eventLog.find? fun event => event.seq = seq with
      | some event => persist process process.run event action
      | none => process
  | .interrupt _ _ =>
      match exitEntry? render process action with
      | (run, some entry) =>
          persistExitEntry { process with run := run } entry action.faults
      | (run, none) => { process with run := run }
  | _ =>
      match recorded render process.run action with
      | (run, some event) => persist process run event action
      | (run, none) => { process with run := run }

/-- The event that an operation hands to the store, with its snapshot. -/
def emission
    (render : Time → PyStr)
    (process : Process)
    (action : Action) :
    Option (RunEvent × DynamicSnapshot) :=
  match action.operation with
  | .save => none
  | .emitAgain seq =>
      (process.run.eventLog.find? fun event => event.seq = seq).map
        fun event => (event, process.run.snapshot)
  | .interrupt _ _ =>
      match exitEntry? render process action with
      | (_, some entry) =>
          if entry.eventPersisted then none
          else some (entry.event, entry.snapshot)
      | (_, none) => none
  | _ =>
      match recorded render process.run action with
      | (run, some event) => some (event, run.snapshot)
      | (_, none) => none

/-- What happens to the dynamic runs of Core. -/
inductive Step where
  | start
      (runId : PyStr)
      (maxTasks : Int)
      (timeoutSeconds : Option Time)
      (fileContext : PyVal)
      (now : Time)
  | operate (index : Nat) (action : Action)

/-- The dynamic runs of Core after a step. -/
def step?
    (render : Time → PyStr)
    (processes : List Process) :
    Step → Option (List Process)
  | .start runId maxTasks timeoutSeconds fileContext now =>
      some (processes ++
        [initial (.new runId maxTasks timeoutSeconds fileContext now)])
  | .operate index action =>
      processes[index]?.map fun process =>
        processes.set index (perform render process action)

end DynamicCore

end Maze.Core
