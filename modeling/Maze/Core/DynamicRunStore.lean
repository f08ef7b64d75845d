import Maze.Core.DynamicSnapshot
import Maze.Python.JsonSort

namespace Maze.Core

open Maze.Python

/-!
# The files of a dynamic run

A dynamic run has a canonical event log and a snapshot, and in a workspace a
mirror of the log. The logs are taken here as the events they hold: a write of
an event either happens or does not.

What a call writes is kept as a list of single writes, so that a crash is a
prefix of that list.
-/

/-- An aware instant, as `datetime.now(timezone.utc)` returns it. -/
abbrev Instant := { moment : DateTime // moment.isValid = true }

/-- `TERMINAL_DYNAMIC_EVENT_STATUSES`. -/
def terminalEventStatus (eventType : PyStr) : Option RunStatus :=
  if eventType = "finish_workflow" then
    some .finalized
  else if eventType = "task_exception" then
    some .failed
  else if eventType = "cancel_dynamic_run" then
    some .canceled
  else if eventType = "timeout_dynamic_run" then
    some .timedOut
  else if eventType = "interrupt_dynamic_run" then
    some .interrupted
  else
    none

/-- The files of one dynamic run, `none` where there is no snapshot yet. -/
structure DynamicFiles where
  canonical : List RunEvent
  mirror : List RunEvent
  snapshot : Option DynamicSnapshot
  deriving DecidableEq

/-- A single write to the files of a run. -/
inductive DiskWrite where
  | canonical (event : RunEvent)
  | mirror (event : RunEvent)
  | snapshot (snapshot : DynamicSnapshot)
  deriving DecidableEq

/-- The writes of a call, and how the call ended. -/
structure Performed where
  writes : List DiskWrite
  result : Except PyErr Unit

/-- `_events_match`, on the JSON values of two events. -/
def RunEvent.sameJson
    (ignoreTimestamp : Bool)
    (persisted event : RunEvent) :
    Bool :=
  persisted.eventType = event.eventType && persisted.seq = event.seq &&
    Json.sortKeys (.dict persisted.data) = Json.sortKeys (.dict event.data) &&
    (ignoreTimestamp || persisted.timestamp = event.timestamp)

namespace DynamicRunStore

/-- `_event_log_state(...).last_sequence`. -/
def lastSequence (log : List RunEvent) : Nat :=
  (log.getLast?.map RunEvent.seq).getD 0

/-- `_event_for_append`: the event that is already there, if it is. -/
def eventForAppend
    (log : List RunEvent)
    (event : RunEvent)
    (ignoreTimestamp : Bool) :
    Except PyErr (Option RunEvent) :=
  match log.find? fun candidate => candidate.seq = event.seq with
  | some candidate =>
      if candidate.sameJson ignoreTimestamp event then
        .ok (some candidate)
      else if ignoreTimestamp then
        .error .runtimeError
      else
        .error .valueError
  | none =>
      if event.seq ≤ lastSequence log then .error .valueError else .ok none

/-- Whether `workspace_run_dir_from_snapshot` names a directory. -/
def hasWorkspace (snapshot : DynamicSnapshot) : Bool :=
  match snapshot.fileContext with
  | .dict entries =>
      (PyDict.get entries "workspace_dir").truthy && !snapshot.runId.isEmpty
  | _ => false

/-- The files after a write. -/
def write
    (files : DynamicFiles) :
    DiskWrite → DynamicFiles
  | .canonical event => { files with canonical := files.canonical ++ [event] }
  | .mirror event => { files with mirror := files.mirror ++ [event] }
  | .snapshot snapshot => { files with snapshot := some snapshot }

/-- The files after some writes. -/
def writeAll
    (files : DynamicFiles)
    (writes : List DiskWrite) :
    DynamicFiles :=
  writes.foldl write files

/-- Do one call and then, unless it raised, another one. -/
def Performed.andThen
    (first : Performed)
    (second : List DiskWrite → Performed) :
    Performed :=
  match first.result with
  | .error _ => first
  | .ok () =>
      let later := second first.writes
      ⟨first.writes ++ later.writes, later.result⟩

/-- `_append_event_path(..., deduplicate=True)` on the canonical log. -/
def appendCanonical
    (files : DynamicFiles)
    (event : RunEvent) :
    Performed :=
  match eventForAppend files.canonical event false with
  | .error raised => ⟨[], .error raised⟩
  | .ok (some _) => ⟨[], .ok ()⟩
  | .ok none => ⟨[.canonical event], .ok ()⟩

/-- `_append_event_path(..., deduplicate=True)` on the mirror. -/
def appendMirror
    (files : DynamicFiles)
    (event : RunEvent) :
    Performed :=
  match eventForAppend files.mirror event false with
  | .error raised => ⟨[], .error raised⟩
  | .ok (some _) => ⟨[], .ok ()⟩
  | .ok none => ⟨[.mirror event], .ok ()⟩

/-- `append_event(..., deduplicate=True)`. -/
def appendEvent
    (files : DynamicFiles)
    (event : RunEvent)
    (snapshot : DynamicSnapshot) :
    Performed :=
  Performed.andThen (appendCanonical files event) fun writes =>
    if hasWorkspace snapshot then
      appendMirror (writeAll files writes) event
    else
      ⟨[], .ok ()⟩

/-- Append events one after the other. -/
def syncEvents
    (files : DynamicFiles)
    (snapshot : DynamicSnapshot) :
    List RunEvent → Performed
  | [] => ⟨[], .ok ()⟩
  | event :: rest =>
      Performed.andThen (appendEvent files event snapshot) fun writes =>
        syncEvents (writeAll files writes) snapshot rest

/-- The terminal events of a log with the statuses they stand for. -/
def terminalCandidates
    (events : List RunEvent) :
    List (RunEvent × RunStatus) :=
  events.filterMap fun event =>
    (terminalEventStatus event.eventType).map fun status => (event, status)

/-- The time of an aware timestamp. -/
def aware? (timestamp : PyStr) : Option Time :=
  match DateTime.fromIsoFormat? (DateTime.replaceZulu timestamp) with
  | some (moment, some offset) => some (moment.timestamp offset)
  | _ => none

/-- `_terminal_event_for_recovery`, with the time of the event. -/
def terminalEventForRecovery
    (runId : PyStr)
    (events : List RunEvent) :
    Except PyErr (Option (RunEvent × RunStatus × Time)) :=
  match terminalCandidates events with
  | [] => .ok none
  | [(event, status)] =>
      if (event.data.get "run_id").pyEq (.str runId) &&
          (event.data.get "run_status").pyEq (.str status.text) then
        if event.seq = DynamicSnapshot.maxSeq events then
          if event.timestamp.isEmpty then
            .error .valueError
          else
            match aware? event.timestamp with
            | some eventTime => .ok (some (event, status, eventTime))
            | none => .error .valueError
        else
          .error .valueError
      else
        .error .valueError
  | _ => .error .valueError

/-- The reason that a recovery gives for an interruption. -/
def restartReason : PyStr :=
  "Head process restarted before run completed"

/-- The clock of a recovery. -/
structure Clock where
  now : Time
  moment : Instant

/-- The event with which a recovery interrupts a run. -/
def interruptEvent
    (clock : Clock)
    (runId : PyStr)
    (events : List RunEvent) :
    RunEvent where
  eventType := "interrupt_dynamic_run"
  data :=
    [("run_id", .str runId), ("run_status", .str "interrupted"),
      ("reason", .str restartReason)]
  seq := DynamicSnapshot.maxSeq events + 1
  timestamp := clock.moment.val.isoFormat

/-- The snapshot of a run that a recovery interrupts, before its events. -/
def interruptSnapshot
    (clock : Clock)
    (snapshot : DynamicSnapshot) :
    DynamicSnapshot :=
  { snapshot with
    status := .interrupted
    finishedTime :=
      some ((snapshot.finishedTime.filter (· ≠ 0)).getD clock.now)
    updatedTime := clock.now
    failureReason := snapshot.failureReason.orElse (.str restartReason) }

/-- `ACTIVE_DYNAMIC_RUN_STATUSES`. -/
def isActive (snapshot : DynamicSnapshot) : Bool :=
  snapshot.status = .created || snapshot.status = .running

/-- The interruption of a run whose log does not say how it ended. -/
def interruptRun
    (clock : Clock)
    (files : DynamicFiles)
    (snapshot : DynamicSnapshot) :
    Performed :=
  let interrupted := interruptSnapshot clock snapshot
  let event :=
    (files.canonical.reverse.find? fun event =>
      event.eventType = PyStr.ofString "interrupt_dynamic_run").getD
      (interruptEvent clock snapshot.runId files.canonical)
  let events :=
    if event ∈ files.canonical then files.canonical
    else files.canonical ++ [event]
  Performed.andThen (syncEvents files interrupted events) fun writes =>
    let persisted := (writeAll files writes).canonical
    ⟨[.snapshot
      { interrupted with
        eventCount := persisted.length
        lastEventSeq := DynamicSnapshot.maxSeq persisted }],
      .ok ()⟩

/-- The body of the loop of `recover_interrupted_runs`. -/
def recoverRun
    (str : PyVal → PyStr)
    (clock : Clock)
    (files : DynamicFiles) :
    Performed :=
  match files.snapshot with
  | none => ⟨[], .ok ()⟩
  | some snapshot =>
      if isActive snapshot then
        match terminalEventForRecovery snapshot.runId files.canonical with
        | .error raised => ⟨[], .error raised⟩
        | .ok (some (event, status, eventTime)) =>
            let recovered := snapshot.applyTerminalEvent str event status
              files.canonical eventTime
            Performed.andThen (syncEvents files recovered files.canonical)
              fun _ => ⟨[.snapshot recovered], .ok ()⟩
        | .ok none => interruptRun clock files snapshot
      else
        ⟨[], .ok ()⟩

/-- `recover_interrupted_runs`: the first run that raises ends it. -/
def recoverInterruptedRuns
    (str : PyVal → PyStr)
    (clock : Clock) :
    List DynamicFiles → Except PyErr (List DynamicFiles)
  | [] => .ok []
  | files :: rest =>
      let performed := recoverRun str clock files
      match performed.result with
      | .error raised => .error raised
      | .ok () => do
          let later ← recoverInterruptedRuns str clock rest
          .ok (writeAll files performed.writes :: later)

end DynamicRunStore

end Maze.Core
