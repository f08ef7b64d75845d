import Maze.Core.StaticDispatch
import Maze.Core.StaticSnapshot
import Maze.Core.TornWrites
import Maze.Library.Transition
import Maze.Python.JsonText

namespace Maze.Core.StaticRecovery

open Maze.Python
open Maze.Python.Json (dumps)
open Maze.Library.Transition
open EventLog (File Write)

/-!
# Recovery of static runs

When Core starts, the store goes through its runs. A run whose snapshot is still
active becomes interrupted: an interrupt event is appended to its log, unless the
log holds one already, and then the snapshot is saved. What the other events of
the log say about the status of the run is not looked at.

A recovery can crash anywhere: in the middle of the line of its event, between
the event and the snapshot, or between two runs.
-/

/-- The files of a run. -/
structure RunFiles where
  snapshot : StaticSnapshot
  log : File
  deriving DecidableEq

/-- How the recovery of a run goes; a write or a save that fails is a crash there. -/
structure Attempt where
  write : Write
  save : Save
  timestamp : PyStr
  encodable : timestamp.encodable = true

/-- The reason that a restart gives. -/
def restartReason : PyStr :=
  "Head process restarted before run completed"

/-- The event is an `interrupt_workflow`. -/
def isInterrupt : PyVal → Bool
  | .dict entries => PyDict.get entries "type" = .str "interrupt_workflow"
  | _ => false

/-- `int(event.get("seq", 0))`. -/
def sequenceOf : PyVal → Int
  | .dict entries =>
      match PyDict.get entries "seq" with
      | .int sequence => sequence
      | _ => 0
  | _ => 0

/-- `last_seq`. -/
def lastSequence (events : List PyVal) : Int :=
  (events.map sequenceOf).foldl max 0

/-- The interrupt event of a recovery. -/
def interruptEvent
    (snapshot : StaticSnapshot)
    (sequence : Int)
    (timestamp : PyStr) :
    PyDict :=
  [("type", .str "interrupt_workflow"), ("seq", .int sequence),
    ("timestamp", .str timestamp), ("schema_version", .int 1),
    ("data",
      .dict
        [("run_id", .str snapshot.runId),
          ("workflow_id", .str snapshot.workflowId),
          ("run_status", .str "interrupted"),
          ("reason", .str restartReason)])]

/-- `append_event` of the store, which does not look at the events in the log. -/
def appendEvent
    (log : File)
    (event : PyDict)
    (write : Write) :
    File × Except PyErr Unit :=
  match EventLog.eventSequence (.dict event) with
  | .error raised => (log, .error raised)
  | .ok _ =>
      match dumps (.dict (EventLog.payload event)) with
      | .error raised => (log, .error raised)
      | .ok serialized =>
          EventLog.writeLine log (EventLog.needsSeparator log) serialized write

/-- A node of a run that a restart has interrupted. -/
def cancelActive (node : StaticTaskNode) : StaticTaskNode :=
  if node.status.isActive then { node with status := .cancelled } else node

/-- What a recovery makes of a snapshot that is still active. -/
def interruptSnapshot
    (snapshot : StaticSnapshot)
    (eventCount : Nat)
    (lastEventSeq : Int) :
    StaticSnapshot :=
  let taskNodes := snapshot.taskNodes.map cancelActive
  { snapshot with
    status := .interrupted
    errorSummary :=
      snapshot.errorSummary.orElse (.dict [("message", .str restartReason)])
    taskNodes := taskNodes
    taskCounts := taskCounts taskNodes
    eventCount := eventCount
    lastEventSeq := lastEventSeq }

/-- Save the snapshot of a run that has been interrupted. -/
def saveRun
    (files : RunFiles)
    (snapshot : StaticSnapshot)
    (save : Save) :
    RunFiles × Except PyErr (Option StaticSnapshot) :=
  ({ files with snapshot := save.stored files.snapshot snapshot },
    save.result.map fun _ => some snapshot)

/-- Interrupt a run whose log has been read. -/
def interruptRun
    (files : RunFiles)
    (events : List PyVal)
    (attempt : Attempt) :
    RunFiles × Except PyErr (Option StaticSnapshot) :=
  if events.any isInterrupt then
    saveRun files
      (interruptSnapshot files.snapshot events.length (lastSequence events))
      attempt.save
  else
    let sequence := lastSequence events + 1
    match appendEvent files.log
        (interruptEvent files.snapshot sequence attempt.timestamp)
        attempt.write with
    | (log, .error raised) => ({ files with log := log }, .error raised)
    | (log, .ok ()) =>
        saveRun { files with log := log }
          (interruptSnapshot files.snapshot (events.length + 1) sequence)
          attempt.save

/-- The dispatch of the run has not come to its end. -/
def dispatchIncomplete (snapshot : StaticSnapshot) : Bool :=
  snapshot.dispatch.any fun dispatch =>
    match dispatch.status with
    | .prepared | .dispatching | .cleanupPending => true
    | .active | .terminal => false

/-- `recover_interrupted_runs`, for one run. -/
def recoverRun
    (files : RunFiles)
    (attempt : Attempt) :
    RunFiles × Except PyErr (Option StaticSnapshot) :=
  if files.snapshot.status.isTerminal then
    (files, .ok none)
  else
    match EventLog.loadEvents .static files.log with
    | .error raised => (files, .error raised)
    | .ok events =>
        if 1 < events.countP isInterrupt then
          (files, .error .valueError)
        else if dispatchIncomplete files.snapshot then
          if events.any isInterrupt then
            (files, .error .valueError)
          else
            (files, .ok none)
        else
          interruptRun files events attempt

/-- `recover_interrupted_runs`: what one run raises ends the recovery. -/
def recoverInterruptedRuns
    (attempts : PyStr → Attempt) :
    List RunFiles → List RunFiles × Except PyErr (List StaticSnapshot)
  | [] => ([], .ok [])
  | files :: rest =>
      match recoverRun files (attempts files.snapshot.runId) with
      | (after, .error raised) => (after :: rest, .error raised)
      | (after, .ok recovered) =>
          match recoverInterruptedRuns attempts rest with
          | (later, .error raised) => (after :: later, .error raised)
          | (later, .ok more) => (after :: later, .ok (recovered.toList ++ more))

/-! ## What the log says -/

/-- The statuses that end a run. -/
def terminalStatuses : List StaticRunStatus :=
  [.succeeded, .failed, .timedOut, .cancelled, .interrupted]

/-- The status that an event carries, if it has ended the run. -/
def terminalStatus? : PyVal → Option StaticRunStatus
  | .dict entries =>
      match PyDict.get entries "data" with
      | .dict data =>
          terminalStatuses.find? fun status =>
            PyDict.get data "run_status" = .str status.text
      | _ => none
  | _ => none

/--
The status that the log gives a run: the last one that has ended it, and
interrupted where none has.
-/
def durableStatus (events : List PyVal) : StaticRunStatus :=
  (events.filterMap terminalStatus?).getLast?.getD .interrupted

/-- The recovery has nothing to do: the run has ended, or Core will end it. -/
def settled (snapshot : StaticSnapshot) : Bool :=
  snapshot.status.isTerminal || dispatchIncomplete snapshot

/-- Nothing stands in the way of the recovery. -/
structure Attempt.Undisturbed (attempt : Attempt) : Prop where
  write : attempt.write = .completes
  save : attempt.save = .completes

/-- What a recovery has to make of the files of a run. -/
structure Restored (original after : RunFiles) : Prop where
  kept : settled original.snapshot = true → after = original
  restored :
    settled original.snapshot = false →
      ∃ events later,
        EventLog.loadEvents .static original.log = .ok events ∧
          EventLog.loadEvents .static after.log = .ok later ∧
          after.snapshot.status = durableStatus events ∧
          (∀ node ∈ after.snapshot.taskNodes, node.status.isActive = false) ∧
          (∀ attempt : Attempt, attempt.Undisturbed →
            after.snapshot = (recoverRun original attempt).1.snapshot) ∧
          later.countP isInterrupt ≤ events.countP isInterrupt + 1

/-- The log holds whole lines, at most one of them an interrupt. -/
structure Kept
    (files : RunFiles)
    (events : List (Int × PyVal)) : Prop where
  log :
    ∃ content, files.log = Utf8.encodePoints content ∧
      EventLog.Holds content events
  once : (events.map Prod.snd).countP isInterrupt ≤ 1
  numbered :
    Json.withinDigitLimit (.int (EventLog.lastNumber events + 1)) = true

/-- What appends leave of a log: whole lines, or one that stops in its middle. -/
def Written (files : RunFiles) : Prop :=
  (∃ raised, EventLog.loadEvents .static files.log = .error raised) ∨
    ∃ content events,
      files.log = Utf8.encodePoints content ∧
        EventLog.Holds content events ∧
        Json.withinDigitLimit (.int (EventLog.lastNumber events + 1)) = true

/--
The files agree: the log is whole, and while the snapshot is active the last event
that has ended the run, if there is one, has interrupted it.
-/
def FilesAgree (files : RunFiles) : Prop :=
  files.snapshot.status.isTerminal = false →
    ∃ events, Kept files events ∧
      (dispatchIncomplete files.snapshot = true →
        (events.map Prod.snd).any isInterrupt = false) ∧
      (dispatchIncomplete files.snapshot = false →
        durableStatus (events.map Prod.snd) = .interrupted)

/-- The attempt crashes inside the line of the interrupt event. -/
def Tears (files : RunFiles) (attempt : Attempt) : Prop :=
  settled files.snapshot = false ∧
    ∃ written events,
      attempt.write = .fails written ∧
        EventLog.loadEvents .static files.log = .ok events ∧
        events.any isInterrupt = false ∧
        EventLog.stopsInside .static ⟨files.log, none⟩
          (interruptEvent files.snapshot (lastSequence events + 1)
            attempt.timestamp) written = true

/-- No run that the recovery comes to has its interrupt event torn. -/
def KeepsLines : List RunFiles → (PyStr → Attempt) → Prop
  | [], _ => True
  | files :: rest, attempts =>
      let attempt := attempts files.snapshot.runId
      ¬ Tears files attempt ∧
        ((recoverRun files attempt).2.isOk = true → KeepsLines rest attempts)

/-- A recovery that nothing stands in the way of restores every run. -/
def Recovers (store reached : List RunFiles) : Prop :=
  ∀ attempts : PyStr → Attempt,
    (∀ runId, (attempts runId).Undisturbed) →
      (recoverInterruptedRuns attempts reached).2.isOk = true ∧
        List.Forall₂ Restored store (recoverInterruptedRuns attempts reached).1

/-- One recovery of the whole store, however far it comes. -/
def step?
    (store : List RunFiles)
    (attempts : PyStr → Attempt) :
    Option (List RunFiles) :=
  some (recoverInterruptedRuns attempts store).1

/-! ## Interrupt events -/

theorem sequenceOf_of_numbered
    {event : PyVal}
    {sequence : Int}
    (numbered : EventLog.eventSequence event = .ok sequence) :
    sequenceOf event = sequence ∧ 0 < sequence := by
  cases event with
  | dict entries =>
      have found := (EventLog.eventSequence_eq_ok_iff entries sequence).mp numbered
      simp [sequenceOf, PyDict.get, found.1, found.2]
  | _ => cases numbered

/-- The largest number of ascending events is the last one. -/
theorem foldl_max_ascending
    {events : List (Int × PyVal)}
    {bound : Int}
    (ascending : EventLog.Ascending (some bound) events) :
    ((events.map Prod.snd).map sequenceOf).foldl max bound =
      (events.getLast?.map Prod.fst).getD bound := by
  induction events generalizing bound with
  | nil =>
      rfl
  | cons event rest inductionHypothesis =>
      obtain ⟨sequence, event⟩ := event
      obtain ⟨stored, above, later⟩ := ascending
      have number := (sequenceOf_of_numbered stored.numbered).1
      have larger : max bound sequence = sequence :=
        max_eq_right (above bound rfl).le
      rw [List.map_cons, List.map_cons, List.foldl_cons, number, larger,
        inductionHypothesis later]
      cases rest with
      | nil => rfl
      | cons next others =>
          rw [List.getLast?_cons_cons,
            List.getLast?_eq_some_getLast (List.cons_ne_nil next others)]
          rfl

theorem lastSequence_ascending
    {events : List (Int × PyVal)}
    (ascending : EventLog.Ascending none events) :
    lastSequence (events.map Prod.snd) = EventLog.lastNumber events := by
  have bounded : EventLog.Ascending (some 0) events := by
    cases events with
    | nil => trivial
    | cons event rest =>
        obtain ⟨stored, _, later⟩ := ascending
        refine ⟨stored, ?_, later⟩
        rintro last same
        cases same
        exact (sequenceOf_of_numbered stored.numbered).2
  exact foldl_max_ascending bounded

/-- A store can write the interrupt event. -/
theorem interruptEvent_accepted
    (snapshot : StaticSnapshot)
    {sequence : Int}
    {timestamp : PyStr}
    (positive : 0 < sequence)
    (limit : Json.withinDigitLimit (.int sequence) = true)
    (encodable : timestamp.encodable = true) :
    EventLog.Accepted sequence (interruptEvent snapshot sequence timestamp) where
  distinct := by
    rfl
  numbered := by
    apply (EventLog.eventSequence_eq_ok_iff _ _).mpr
    exact ⟨rfl, positive⟩
  written := by
    let data : PyVal :=
      .dict
        [("run_id", .str snapshot.runId),
          ("workflow_id", .str snapshot.workflowId),
          ("run_status", .str "interrupted"), ("reason", .str restartReason)]
    let payload : PyDict :=
      [("schema_version", .int 1), ("type", .str "interrupt_workflow"),
        ("seq", .int sequence), ("timestamp", .str timestamp), ("data", data)]
    have same : EventLog.payload (interruptEvent snapshot sequence timestamp) =
        payload := rfl
    rw [same]
    apply Json.dumps_encodable
    · have one : Json.withinDigitLimit (.int 1) = true := by decide
      simp only [Json.withinDigitLimit, Json.entriesWithinDigitLimit, payload, data,
        Bool.and_true, Bool.true_and] at limit one ⊢
      rw [one, limit]
      rfl
    · obtain ⟨run, workflow⟩ := snapshot.encodable
      simp only [Json.stringsEncodable, Json.entriesEncodable, payload, data, run, workflow,
        encodable]
      decide +kernel

/-- A stored interrupt event is recognised. -/
theorem isInterrupt_storedEvent
    {snapshot : StaticSnapshot}
    {sequence : Int}
    {timestamp : PyStr}
    (accepted :
      EventLog.Accepted sequence (interruptEvent snapshot sequence timestamp)) :
    isInterrupt (EventLog.storedEvent (interruptEvent snapshot sequence timestamp)) =
      true := by
  have distinct := EventLog.keysDistinct_payload accepted.distinct
  simp only [PyVal.keysDistinct, Bool.and_eq_true, decide_eq_true_eq] at distinct
  have found : PyDict.get?
      (EventLog.payload (interruptEvent snapshot sequence timestamp)) "type" =
      some (.str "interrupt_workflow") := rfl
  rw [EventLog.storedEvent, Json.sortKeys_dict, isInterrupt, PyDict.get,
    Json.get?_sorted distinct.1, found]
  rfl

/-- What `append_event` does to a log of whole lines. -/
theorem appendEvent_eq
    {log : File}
    {sequence : Int}
    {event : PyDict}
    (accepted : EventLog.Accepted sequence event)
    (numbered : EventLog.eventSequence (.dict event) = .ok sequence)
    (write : Write) :
    appendEvent log event write =
      match write with
      | .completes =>
          (log ++ EventLog.appendedBytes ⟨log, none⟩ event, .ok ())
      | .fails written =>
          (log ++ (EventLog.appendedBytes ⟨log, none⟩ event).take written,
            .error .osError) := by
  obtain ⟨_, dumped, encodable⟩ := accepted.dumped
  have encoded : Utf8.encode ⟨Json.text (EventLog.storedEvent event)⟩ =
      .ok (Utf8.encodePoints (Json.text (EventLog.storedEvent event))) :=
    if_pos ((Utf8.writable_iff _).mpr encodable)
  unfold appendEvent
  rw [numbered]
  simp only [dumped]
  cases write with
  | completes =>
      simp only [EventLog.writeLine, encoded]
      rfl
  | fails written =>
      simp only [EventLog.writeLine, encoded]
      rfl

/-! ## A run between two recoveries -/

/-- What a recovery makes of an active snapshot whose log holds these events. -/
def interrupted
    (snapshot : StaticSnapshot)
    (events : List (Int × PyVal)) :
    StaticSnapshot :=
  if (events.map Prod.snd).any isInterrupt then
    interruptSnapshot snapshot events.length (EventLog.lastNumber events)
  else
    interruptSnapshot snapshot (events.length + 1) (EventLog.lastNumber events + 1)

/-- What the log of an interrupted run can hold, given what it held before. -/
inductive Progress
    (snapshot : StaticSnapshot)
    (events : List (Int × PyVal)) :
    List (Int × PyVal) → Prop where
  | untouched : Progress snapshot events events
  | appended
      (timestamp : PyStr)
      (encodable : timestamp.encodable = true)
      (fresh : (events.map Prod.snd).any isInterrupt = false) :
      Progress snapshot events
        (events ++
          [(EventLog.lastNumber events + 1,
            EventLog.storedEvent
              (interruptEvent snapshot (EventLog.lastNumber events + 1)
                timestamp))])

/-- The files of an active run after some recoveries, however far they came. -/
structure Reached
    (original : RunFiles)
    (events : List (Int × PyVal))
    (files : RunFiles) : Prop where
  log :
    ∃ content now, files.log = Utf8.encodePoints content ∧
      EventLog.Holds content now ∧ Progress original.snapshot events now
  snapshot :
    files.snapshot = original.snapshot ∨
      files.snapshot = interrupted original.snapshot events

theorem Kept.reached
    {files : RunFiles}
    {events : List (Int × PyVal)}
    (kept : Kept files events) :
    Reached files events files where
  log := by
    obtain ⟨content, same, holds⟩ := kept.log
    exact ⟨content, events, same, holds, .untouched⟩
  snapshot := Or.inl rfl

theorem Kept.positive
    {files : RunFiles}
    {events : List (Int × PyVal)}
    (kept : Kept files events) :
    0 < EventLog.lastNumber events + 1 := by
  obtain ⟨_, _, holds⟩ := kept.log
  cases found : events.getLast? with
  | none =>
      simp [EventLog.lastNumber, found]
  | some last =>
      have member := List.mem_of_getLast? found
      have stored := holds.ascending.stored member
      have number := (sequenceOf_of_numbered stored.numbered).2
      simp only [EventLog.lastNumber, found, Option.map_some, Option.getD_some]
      omega

/-- A log that an interrupt was appended to gives the same snapshot as before. -/
theorem Progress.interruptSnapshot_eq
    {snapshot : StaticSnapshot}
    {events now : List (Int × PyVal)}
    (progress : Progress snapshot events now)
    (found : (now.map Prod.snd).any isInterrupt = true) :
    interruptSnapshot snapshot now.length (EventLog.lastNumber now) =
      interrupted snapshot events := by
  cases progress with
  | untouched =>
      rw [interrupted, if_pos found]
  | appended timestamp encodable fresh =>
      rw [interrupted, if_neg (by simp [fresh]), EventLog.lastNumber_append,
        List.length_append, List.length_singleton]

theorem Progress.untouched_of_fresh
    {snapshot : StaticSnapshot}
    {events now : List (Int × PyVal)}
    (progress : Progress snapshot events now)
    (acceptable :
      ∀ {timestamp : PyStr}, timestamp.encodable = true →
        EventLog.Accepted (EventLog.lastNumber events + 1)
          (interruptEvent snapshot (EventLog.lastNumber events + 1) timestamp))
    (fresh : (now.map Prod.snd).any isInterrupt = false) :
    now = events := by
  cases progress with
  | untouched =>
      rfl
  | appended timestamp encodable _ =>
      have recognised := isInterrupt_storedEvent (acceptable encodable)
      simp [recognised] at fresh

theorem Progress.countP_le
    {snapshot : StaticSnapshot}
    {events now : List (Int × PyVal)}
    (progress : Progress snapshot events now) :
    (now.map Prod.snd).countP isInterrupt ≤
      (events.map Prod.snd).countP isInterrupt + 1 := by
  cases progress with
  | untouched =>
      omega
  | appended timestamp encodable fresh =>
      rw [List.map_append, List.countP_append]
      have single : (List.map Prod.snd
          [(EventLog.lastNumber events + 1,
            EventLog.storedEvent
              (interruptEvent snapshot (EventLog.lastNumber events + 1)
                timestamp))]).countP isInterrupt ≤ 1 := List.countP_le_length
      omega

theorem Progress.once
    {snapshot : StaticSnapshot}
    {events now : List (Int × PyVal)}
    (progress : Progress snapshot events now)
    (once : (events.map Prod.snd).countP isInterrupt ≤ 1) :
    (now.map Prod.snd).countP isInterrupt ≤ 1 := by
  cases progress with
  | untouched =>
      exact once
  | appended timestamp encodable fresh =>
      have none : (events.map Prod.snd).countP isInterrupt = 0 := by
        rw [List.countP_eq_zero]
        intro event member found
        rw [List.any_eq_false] at fresh
        exact fresh event member found
      have progress : Progress snapshot events _ := .appended timestamp encodable fresh
      have added := progress.countP_le
      rw [none] at added
      exact added

/-- An active run whose log can be read is interrupted. -/
theorem recoverRun_active
    {files : RunFiles}
    {content : List CodePoint}
    {events : List (Int × PyVal)}
    (attempt : Attempt)
    (unsettled : settled files.snapshot = false)
    (same : files.log = Utf8.encodePoints content)
    (holds : EventLog.Holds content events)
    (once : (events.map Prod.snd).countP isInterrupt ≤ 1) :
    recoverRun files attempt = interruptRun files (events.map Prod.snd) attempt := by
  rw [settled, Bool.or_eq_false_iff] at unsettled
  obtain ⟨active, complete⟩ := unsettled
  have loaded := holds.load .static
  rw [← same] at loaded
  unfold recoverRun
  rw [active, loaded, complete]
  simp only [Bool.false_eq_true, if_false, if_neg (not_lt.mpr once)]

/-- A recovery that has nothing to do leaves the files alone. -/
theorem recoverRun_settled
    {files : RunFiles}
    (attempt : Attempt)
    (agree : FilesAgree files)
    (done : settled files.snapshot = true) :
    recoverRun files attempt = (files, .ok none) := by
  unfold recoverRun
  split
  · rfl
  · next active =>
    have active : files.snapshot.status.isTerminal = false := by
      simpa using active
    rw [settled, active, Bool.false_or] at done
    obtain ⟨events, ⟨⟨content, same, holds⟩, once, _⟩, fresh, _⟩ := agree active
    have loaded := holds.load .static
    rw [← same] at loaded
    rw [loaded, done]
    simp only [if_neg (not_lt.mpr once), fresh done, Bool.false_eq_true, if_true,
      if_false]

theorem interrupted_status
    (snapshot : StaticSnapshot)
    (events : List (Int × PyVal)) :
    (interrupted snapshot events).status = .interrupted := by
  unfold interrupted
  split <;> rfl

theorem cancelActive_inactive
    (node : StaticTaskNode) :
    (cancelActive node).status.isActive = false := by
  unfold cancelActive
  split
  · rfl
  · next inactive => simpa using inactive

/-- No task of an interrupted run is pending, queued or running. -/
theorem interrupted_inactive
    (snapshot : StaticSnapshot)
    (events : List (Int × PyVal)) :
    ∀ node ∈ (interrupted snapshot events).taskNodes,
      node.status.isActive = false := by
  have nodes : (interrupted snapshot events).taskNodes =
      snapshot.taskNodes.map cancelActive := by
    unfold interrupted
    split <;> rfl
  intro node member
  rw [nodes, List.mem_map] at member
  obtain ⟨before, _, rfl⟩ := member
  exact cancelActive_inactive before

section Recovery

variable
  {original files : RunFiles} {events now : List (Int × PyVal)}
  {content : List CodePoint} {attempt : Attempt}

theorem Kept.accepted
    (kept : Kept original events)
    {timestamp : PyStr}
    (encodable : timestamp.encodable = true) :
    EventLog.Accepted (EventLog.lastNumber events + 1)
      (interruptEvent original.snapshot (EventLog.lastNumber events + 1)
        timestamp) :=
  interruptEvent_accepted original.snapshot kept.positive kept.numbered encodable

/-- The snapshot of a run is saved, or it stays as it was. -/
theorem reached_saveRun
    {log : File}
    (same : log = Utf8.encodePoints content)
    (holds : EventLog.Holds content now)
    (progress : Progress original.snapshot events now)
    (unsaved : files.snapshot = original.snapshot)
    (save : Save) :
    let saved :=
      saveRun { files with log := log } (interrupted original.snapshot events) save
    Reached original events saved.1 ∧
      (save = .completes →
        saved.2.isOk = true ∧
          saved.1.snapshot = interrupted original.snapshot events) := by
  intro saved
  refine ⟨⟨⟨content, now, same, holds, progress⟩, ?_⟩, ?_⟩
  · cases save with
    | completes => exact Or.inr rfl
    | failsReplaced => exact Or.inr rfl
    | fails => exact Or.inl unsaved
  · rintro rfl
    exact ⟨rfl, rfl⟩

/-- What an append of the interrupt event leaves of the log. -/
theorem appendEvent_interrupt
    (kept : Kept original events)
    (same : files.log = Utf8.encodePoints content)
    (holds : EventLog.Holds content events)
    (fresh : (events.map Prod.snd).any isInterrupt = false)
    (attempt : Attempt)
    (whole :
      ∀ written, attempt.write = .fails written →
        EventLog.stopsInside .static ⟨files.log, none⟩
          (interruptEvent original.snapshot (EventLog.lastNumber events + 1)
            attempt.timestamp) written = false) :
    ∃ content now,
      EventLog.Holds content now ∧
        Progress original.snapshot events now ∧
        (appendEvent files.log
          (interruptEvent original.snapshot (EventLog.lastNumber events + 1)
            attempt.timestamp)
          attempt.write).1 = Utf8.encodePoints content ∧
        (attempt.write = .completes →
          (appendEvent files.log
            (interruptEvent original.snapshot (EventLog.lastNumber events + 1)
              attempt.timestamp)
            attempt.write).2 = .ok ()) := by
  let event :=
    interruptEvent original.snapshot (EventLog.lastNumber events + 1)
      attempt.timestamp
  have accepted := kept.accepted attempt.encodable
  have numbered : EventLog.eventSequence (.dict event) =
      .ok (EventLog.lastNumber events + 1) :=
    (EventLog.eventSequence_eq_ok_iff _ _).mpr ⟨rfl, kept.positive⟩
  have above : EventLog.lastNumber events < EventLog.lastNumber events + 1 := by
    omega
  have sound : EventLog.Sound ⟨files.log, none⟩ content events := by
    rw [same]
    exact EventLog.sound_uncached holds
  have appended : Progress original.snapshot events
      (events ++ [(EventLog.lastNumber events + 1, EventLog.storedEvent event)]) :=
    .appended attempt.timestamp attempt.encodable fresh
  rw [appendEvent_eq accepted numbered]
  cases write : attempt.write with
  | completes =>
      have line := (sound.holds.line accepted.stored above).newline
      exact ⟨_, _, line, appended, EventLog.file_appended sound event, fun _ => rfl⟩
  | fails written =>
      have outside := (EventLog.stopsInside_new .static sound accepted above written).not.mp
        (by simp [whole written write])
      rw [not_and_or, not_lt, not_lt] at outside
      rcases outside with early | late
      · obtain ⟨content, sound⟩ := EventLog.sound_before sound event early
        exact ⟨content, events, sound.holds, .untouched, sound.file, nofun⟩
      · obtain ⟨content, sound⟩ := EventLog.sound_behind sound accepted above late
        exact ⟨content, _, sound.holds, appended, sound.file, nofun⟩

/-- A recovery that finds no interrupt event in the log. -/
theorem reached_interruptRun
    (kept : Kept original events)
    (same : files.log = Utf8.encodePoints content)
    (holds : EventLog.Holds content events)
    (unsaved : files.snapshot = original.snapshot)
    (fresh : (events.map Prod.snd).any isInterrupt = false)
    (whole :
      ∀ written, attempt.write = .fails written →
        EventLog.stopsInside .static ⟨files.log, none⟩
          (interruptEvent original.snapshot (EventLog.lastNumber events + 1)
            attempt.timestamp) written = false) :
    let result := interruptRun files (events.map Prod.snd) attempt
    Reached original events result.1 ∧
      (attempt.Undisturbed →
        result.2.isOk = true ∧
          result.1.snapshot = interrupted original.snapshot events) := by
  intro result
  obtain ⟨snapshot, log⟩ := files
  obtain rfl : snapshot = original.snapshot := unsaved
  obtain ⟨content, later, holds', progress, left, completed⟩ :=
    appendEvent_interrupt kept same holds fresh attempt whole
  have target : interruptSnapshot original.snapshot (events.length + 1)
      (EventLog.lastNumber events + 1) = interrupted original.snapshot events := by
    rw [interrupted, if_neg (by simp [fresh])]
  have unfolded : result =
      match appendEvent log
          (interruptEvent original.snapshot (EventLog.lastNumber events + 1)
            attempt.timestamp) attempt.write with
      | (log, .error raised) => (⟨original.snapshot, log⟩, .error raised)
      | (log, .ok ()) =>
          saveRun ⟨original.snapshot, log⟩ (interrupted original.snapshot events)
            attempt.save := by
    simp only [result, interruptRun, fresh, Bool.false_eq_true, if_false,
      List.length_map, lastSequence_ascending holds.ascending, target]
  rw [unfolded]
  change (appendEvent log _ _).1 = _ at left
  change _ → (appendEvent log _ _).2 = _ at completed
  revert left completed
  cases appendEvent log
      (interruptEvent original.snapshot (EventLog.lastNumber events + 1)
        attempt.timestamp) attempt.write with
  | mk log outcome =>
      intro left completed
      cases outcome with
      | error raised =>
          refine ⟨⟨⟨content, later, left, holds', progress⟩, Or.inl rfl⟩, ?_⟩
          intro undisturbed
          cases completed undisturbed.write
      | ok =>
          let files : RunFiles := ⟨original.snapshot, log⟩
          have unsaved : files.snapshot = original.snapshot := rfl
          have saved := reached_saveRun left holds' progress unsaved attempt.save
          exact ⟨saved.1, fun undisturbed => saved.2 undisturbed.save⟩

/-- One recovery of an active run that comes after any number of others. -/
theorem reached_recoverRun
    (kept : Kept original events)
    (unsettled : settled original.snapshot = false)
    (reached : Reached original events files)
    (whole : ¬ Tears files attempt) :
    Reached original events (recoverRun files attempt).1 ∧
      (attempt.Undisturbed →
        (recoverRun files attempt).2.isOk = true ∧
          (recoverRun files attempt).1.snapshot =
            interrupted original.snapshot events) := by
  obtain ⟨⟨content, now, same, holds, progress⟩, unsaved | saved⟩ := reached
  · have open_ : settled files.snapshot = false := by
      rw [unsaved]
      exact unsettled
    rw [recoverRun_active attempt open_ same holds (progress.once kept.once)]
    cases found : (now.map Prod.snd).any isInterrupt with
    | true =>
        unfold interruptRun
        simp only [found, if_true, List.length_map, unsaved,
          lastSequence_ascending holds.ascending,
          progress.interruptSnapshot_eq found]
        have result := reached_saveRun same holds progress unsaved attempt.save
        exact ⟨result.1, fun undisturbed => result.2 undisturbed.save⟩
    | false =>
        obtain rfl := progress.untouched_of_fresh kept.accepted found
        apply reached_interruptRun kept same holds unsaved found
        intro written fails
        have loaded := holds.load .static
        rw [← same] at loaded
        by_contra inside
        refine whole ⟨open_, written, _, fails, loaded, found, ?_⟩
        rw [lastSequence_ascending holds.ascending, unsaved]
        simpa using inside
  · have ended : (interrupted original.snapshot events).status.isTerminal = true := by
      rw [interrupted_status]
      rfl
    have unchanged : recoverRun files attempt = (files, .ok none) := by
      rw [recoverRun, saved, if_pos ended]
    rw [unchanged]
    exact ⟨⟨⟨content, now, same, holds, progress⟩, Or.inr saved⟩,
      fun _ => ⟨rfl, saved⟩⟩

/-- A recovery that tears its interrupt event leaves a log that is never read again. -/
theorem torn_recoverRun
    (kept : Kept original events)
    (reached : Reached original events files)
    (torn : Tears files attempt)
    (next : Attempt) :
    (recoverRun (recoverRun files attempt).1 next).2.isOk = false := by
  obtain ⟨unsettled, written, loaded, fails, read, fresh, inside⟩ := torn
  obtain ⟨⟨content, now, same, holds, progress⟩, unsaved | saved⟩ := reached
  · have whole := holds.load .static
    rw [← same, read] at whole
    cases whole
    obtain rfl := progress.untouched_of_fresh kept.accepted fresh
    rw [lastSequence_ascending holds.ascending, unsaved] at inside
    have accepted := kept.accepted attempt.encodable
    have numbered : EventLog.eventSequence
        (.dict (interruptEvent original.snapshot (EventLog.lastNumber now + 1)
          attempt.timestamp)) = .ok (EventLog.lastNumber now + 1) :=
      (EventLog.eventSequence_eq_ok_iff _ _).mpr ⟨rfl, kept.positive⟩
    have sound : EventLog.Sound ⟨files.log, none⟩ content now := by
      rw [same]
      exact EventLog.sound_uncached holds
    obtain ⟨behind, before⟩ :=
      (EventLog.stopsInside_new .static sound accepted (by omega) written).mp inside
    obtain ⟨raised, broken⟩ :=
      EventLog.broken_inside sound accepted behind before .static
    rw [recoverRun_active attempt unsettled same holds (progress.once kept.once)]
    unfold interruptRun
    simp only [fresh, Bool.false_eq_true, if_false, unsaved,
      lastSequence_ascending holds.ascending]
    rw [appendEvent_eq accepted numbered, fails]
    rw [settled, Bool.or_eq_false_iff, unsaved] at unsettled
    simp only [recoverRun, unsettled.1, broken, Bool.false_eq_true, if_false]
    rfl
  · rw [settled, saved, interrupted_status] at unsettled
    cases unsettled

end Recovery

/-! ## Recoveries of the whole store -/

/-- What recoveries have made of the files of a run. -/
structure Recovering (original files : RunFiles) : Prop where
  agree : FilesAgree original
  kept : settled original.snapshot = true → files = original
  reached :
    settled original.snapshot = false →
      ∃ events, Kept original events ∧
        durableStatus (events.map Prod.snd) = .interrupted ∧
        Reached original events files

theorem settled_eq_false_iff
    (snapshot : StaticSnapshot) :
    settled snapshot = false ↔
      snapshot.status.isTerminal = false ∧ dispatchIncomplete snapshot = false := by
  rw [settled, Bool.or_eq_false_iff]

theorem FilesAgree.recovering
    {files : RunFiles}
    (agree : FilesAgree files) :
    Recovering files files where
  agree := agree
  kept := fun _ => rfl
  reached := by
    intro unsettled
    obtain ⟨active, complete⟩ := (settled_eq_false_iff _).mp unsettled
    obtain ⟨events, kept, _, durable⟩ := agree active
    exact ⟨events, kept, durable complete, kept.reached⟩

/-- A recovery that tears no line keeps what recoveries have made of a run. -/
theorem Recovering.step
    {original files : RunFiles}
    {attempt : Attempt}
    (recovering : Recovering original files)
    (whole : ¬ Tears files attempt) :
    Recovering original (recoverRun files attempt).1 where
  agree := recovering.agree
  kept := by
    intro done
    obtain rfl := recovering.kept done
    rw [recoverRun_settled attempt recovering.agree done]
  reached := by
    intro unsettled
    obtain ⟨events, kept, durable, reached⟩ := recovering.reached unsettled
    exact ⟨events, kept, durable,
      (reached_recoverRun kept unsettled reached whole).1⟩

theorem Attempt.Undisturbed.whole
    {attempt : Attempt}
    (undisturbed : attempt.Undisturbed)
    (files : RunFiles) :
    ¬ Tears files attempt := by
  rintro ⟨_, written, _, fails, _⟩
  rw [undisturbed.write] at fails
  cases fails

/-- A recovery that nothing stands in the way of restores the run. -/
theorem Recovering.restored
    {original files : RunFiles}
    {attempt : Attempt}
    (recovering : Recovering original files)
    (undisturbed : attempt.Undisturbed) :
    (recoverRun files attempt).2.isOk = true ∧
      Restored original (recoverRun files attempt).1 := by
  cases done : settled original.snapshot with
  | true =>
      obtain rfl := recovering.kept done
      rw [recoverRun_settled attempt recovering.agree done]
      refine ⟨rfl, fun _ => rfl, ?_⟩
      intro unsettled
      rw [done] at unsettled
      cases unsettled
  | false =>
      obtain ⟨events, kept, durable, reached⟩ := recovering.reached done
      have recovered := reached_recoverRun kept done reached (undisturbed.whole files)
      obtain ⟨finished, same⟩ := recovered.2 undisturbed
      obtain ⟨content, now, log, holds, progress⟩ := recovered.1.log
      obtain ⟨before, original_log, originalHolds⟩ := kept.log
      refine ⟨finished, ?_, ?_⟩
      · intro other
        rw [done] at other
        cases other
      · intro _
        refine ⟨events.map Prod.snd, now.map Prod.snd, ?_, ?_, ?_, ?_, ?_, ?_⟩
        · rw [original_log]
          exact originalHolds.load .static
        · rw [log]
          exact holds.load .static
        · rw [same, interrupted_status, durable]
        · rw [same]
          exact interrupted_inactive original.snapshot events
        · intro alone undisturbed
          have first :=
            reached_recoverRun kept done kept.reached (undisturbed.whole original)
          rw [same, (first.2 undisturbed).2]
        · exact progress.countP_le

/-- A recovery that ends restores what the log says, so the files have agreed. -/
theorem filesAgree_of_restored
    {files : RunFiles}
    {attempt : Attempt}
    (written : Written files)
    (undisturbed : attempt.Undisturbed)
    (finished : (recoverRun files attempt).2.isOk = true)
    (restored : Restored files (recoverRun files attempt).1) :
    FilesAgree files := by
  intro active
  rcases written with ⟨raised, torn⟩ | ⟨content, events, same, holds, numbered⟩
  · simp only [recoverRun, active, torn, Bool.false_eq_true, if_false] at finished
    cases finished
  · have loaded := holds.load .static
    rw [← same] at loaded
    have once : (events.map Prod.snd).countP isInterrupt ≤ 1 := by
      by_contra twice
      simp only [recoverRun, active, loaded, Bool.false_eq_true, if_false,
        if_pos (not_le.mp twice)] at finished
      cases finished
    have kept : Kept files events := ⟨⟨content, same, holds⟩, once, numbered⟩
    refine ⟨events, kept, ?_, ?_⟩
    · intro incomplete
      by_contra found
      simp only [recoverRun, active, loaded, incomplete, Bool.false_eq_true, if_false,
        if_neg (not_lt.mpr once), if_true] at finished
      rw [if_pos (by simpa using found)] at finished
      cases finished
    · intro complete
      have unsettled := (settled_eq_false_iff _).mpr ⟨active, complete⟩
      obtain ⟨logged, _, read, _, status, _⟩ := restored.restored unsettled
      rw [loaded] at read
      cases read
      have recovered :=
        reached_recoverRun kept unsettled kept.reached (undisturbed.whole files)
      rw [← status, (recovered.2 undisturbed).2, interrupted_status]

section Store

variable {store reached : List RunFiles} {attempts : PyStr → Attempt}

/-- A recovery of the store ends if that of every run does. -/
theorem recoverInterruptedRuns_cons_ok
    (attempts : PyStr → Attempt)
    {files : RunFiles}
    (rest : List RunFiles)
    (finished : (recoverRun files (attempts files.snapshot.runId)).2.isOk = true) :
    (recoverInterruptedRuns attempts (files :: rest)).1 =
        (recoverRun files (attempts files.snapshot.runId)).1 ::
          (recoverInterruptedRuns attempts rest).1 ∧
      (recoverInterruptedRuns attempts (files :: rest)).2.isOk =
        (recoverInterruptedRuns attempts rest).2.isOk := by
  rw [recoverInterruptedRuns]
  cases outcome : recoverRun files (attempts files.snapshot.runId) with
  | mk after result =>
      rw [outcome] at finished
      cases result with
      | error raised =>
          cases finished
      | ok recovered =>
          cases recoverInterruptedRuns attempts rest with
          | mk later result => cases result <;> exact ⟨rfl, rfl⟩

/-- What a run raises ends the recovery of the store. -/
theorem recoverInterruptedRuns_cons_error
    (attempts : PyStr → Attempt)
    {files : RunFiles}
    (rest : List RunFiles)
    (raised : (recoverRun files (attempts files.snapshot.runId)).2.isOk = false) :
    (recoverInterruptedRuns attempts (files :: rest)).1 =
        (recoverRun files (attempts files.snapshot.runId)).1 :: rest ∧
      (recoverInterruptedRuns attempts (files :: rest)).2.isOk = false := by
  rw [recoverInterruptedRuns]
  cases outcome : recoverRun files (attempts files.snapshot.runId) with
  | mk after result =>
      rw [outcome] at raised
      cases result with
      | error failure =>
          exact ⟨rfl, rfl⟩
      | ok recovered =>
          cases raised

/-- A recovery of the store that tears no line keeps what recoveries have made. -/
theorem recovering_store
    (recovering : List.Forall₂ Recovering store reached)
    (whole : KeepsLines reached attempts) :
    List.Forall₂ Recovering store (recoverInterruptedRuns attempts reached).1 := by
  induction recovering with
  | nil =>
      exact .nil
  | @cons original files originals rest here later inductionHypothesis =>
      obtain ⟨untorn, whole⟩ := whole
      cases finished : (recoverRun files (attempts files.snapshot.runId)).2.isOk with
      | true =>
          rw [(recoverInterruptedRuns_cons_ok attempts rest finished).1]
          exact .cons (here.step untorn) (inductionHypothesis (whole finished))
      | false =>
          rw [(recoverInterruptedRuns_cons_error attempts rest finished).1]
          exact .cons (here.step untorn) later

/-- A recovery that nothing stands in the way of restores the whole store. -/
theorem recovers_of_recovering
    (recovering : List.Forall₂ Recovering store reached) :
    Recovers store reached := by
  intro attempts undisturbed
  induction recovering with
  | nil =>
      exact ⟨rfl, .nil⟩
  | @cons original files originals rest here later inductionHypothesis =>
      obtain ⟨finished, restored⟩ :=
        here.restored (undisturbed files.snapshot.runId)
      obtain ⟨stored, result⟩ :=
        recoverInterruptedRuns_cons_ok attempts rest finished
      rw [stored, result]
      exact ⟨inductionHypothesis.1, .cons restored inductionHypothesis.2⟩

/-- A store that can be recovered after a recovery has had no line torn by it. -/
theorem keepsLines_of_recovers
    {next : PyStr → Attempt}
    (recovering : List.Forall₂ Recovering store reached)
    (finished :
      (recoverInterruptedRuns next
        (recoverInterruptedRuns attempts reached).1).2.isOk = true) :
    KeepsLines reached attempts := by
  induction recovering with
  | nil =>
      trivial
  | @cons original files originals rest here later inductionHypothesis =>
      have headFinished : ∀ others,
          (recoverInterruptedRuns attempts (files :: rest)).1 =
            (recoverRun files (attempts files.snapshot.runId)).1 :: others →
          (recoverRun (recoverRun files (attempts files.snapshot.runId)).1
            (next (recoverRun files
              (attempts files.snapshot.runId)).1.snapshot.runId)).2.isOk = true := by
        intro others same
        by_contra failed
        rw [same, (recoverInterruptedRuns_cons_error next others
          (by simpa using failed)).2] at finished
        cases finished
      have untorn : ∀ others,
          (recoverInterruptedRuns attempts (files :: rest)).1 =
            (recoverRun files (attempts files.snapshot.runId)).1 :: others →
          ¬ Tears files (attempts files.snapshot.runId) := by
        intro others same torn
        have unsettled : settled original.snapshot = false := by
          by_contra done
          have done : settled original.snapshot = true := by
            simpa using done
          have unsettled := torn.1
          rw [here.kept done, done] at unsettled
          cases unsettled
        obtain ⟨events, kept, _, reached⟩ := here.reached unsettled
        have raised := torn_recoverRun kept reached torn
          (next (recoverRun files
            (attempts files.snapshot.runId)).1.snapshot.runId)
        rw [headFinished others same] at raised
        cases raised
      cases ended : (recoverRun files (attempts files.snapshot.runId)).2.isOk with
      | false =>
          have stored := (recoverInterruptedRuns_cons_error attempts rest ended).1
          refine ⟨untorn rest stored, ?_⟩
          intro other
          rw [ended] at other
          cases other
      | true =>
          have stored := (recoverInterruptedRuns_cons_ok attempts rest ended).1
          refine ⟨untorn _ stored, fun _ => inductionHypothesis ?_⟩
          rw [stored, (recoverInterruptedRuns_cons_ok next _
            (headFinished _ stored)).2] at finished
          exact finished

/-- A store can be recovered just if its files agree. -/
theorem recovers_iff
    (written : ∀ files ∈ store, Written files) :
    Recovers store store ↔ ∀ files ∈ store, FilesAgree files := by
  constructor
  · intro recovers
    let attempts : PyStr → Attempt := fun _ => ⟨.completes, .completes, "", rfl⟩
    have undisturbed : ∀ runId, (attempts runId).Undisturbed :=
      fun _ => ⟨rfl, rfl⟩
    obtain ⟨finished, restored⟩ := recovers attempts undisturbed
    clear recovers
    induction store with
    | nil =>
        intro files member
        cases member
    | cons first rest inductionHypothesis =>
        cases ended : (recoverRun first (attempts first.snapshot.runId)).2.isOk with
        | false =>
            rw [(recoverInterruptedRuns_cons_error attempts rest ended).2] at finished
            cases finished
        | true =>
            obtain ⟨stored, result⟩ :=
              recoverInterruptedRuns_cons_ok attempts rest ended
            rw [result] at finished
            rw [stored] at restored
            obtain ⟨here, later⟩ := List.forall₂_cons.mp restored
            rw [List.forall_mem_cons] at written ⊢
            exact ⟨filesAgree_of_restored written.1 (undisturbed first.snapshot.runId) ended here,
              inductionHypothesis written.2 finished later⟩
  · intro agree
    apply recovers_of_recovering
    rw [List.forall₂_same]
    exact fun files member => (agree files member).recovering

end Store

/-! ## Runs of recoveries -/

/-! ### A run that has finished -/

/-- A workflow of one task. -/
def soloWorkflow : Workflow where
  tasks := [("a", StaticCore.plainTask "def a(): pass" .cpu [])]
  edges := []
  distinct := by decide
  closed := by decide

/-- The submission of the task. -/
def soloSubmission : StaticCore.Submission where
  workflow := soloWorkflow
  runId := "run"
  workflowId := "workflow"
  timeoutSeconds := .null
  deadline := none
  finalOutputRefs := none
  timestamp := "2026-01-01T00:00:00"

/-- The snapshot when the task has been sent. -/
def soloSnapshot : StaticSnapshot :=
  (StaticCore.submitted soloSubmission).run.snapshot
    (some ⟨.active, ["a"], .none, none, none, .null⟩) none ⟨rfl, rfl⟩

/-- The task finishes, and Core ends before the snapshot is saved. -/
def soloFinished : StaticCore.Action :=
  .receive StaticCore.firstFinished
    { StaticCore.plainHandling .absent with saves := [true] }

/-- The files that are left of the run. -/
def crashedFiles : RunFiles where
  snapshot := soloSnapshot
  log :=
    ((StaticCore.step? StaticCore.limitedRendering StaticCore.limitedPrimitives
      (StaticCore.submitted soloSubmission) soloFinished).map
        fun process => process.log.file).getD []

/-- A recovery in which every write and every save completes. -/
def undisturbedAttempt : Attempt where
  write := .completes
  save := .completes
  timestamp := "2026-01-01T00:01:00"
  encodable := rfl

/-- A recovery whose write stops after its first byte. -/
def tornAttempt : Attempt :=
  { undisturbedAttempt with write := .fails 1 }

end Maze.Core.StaticRecovery
