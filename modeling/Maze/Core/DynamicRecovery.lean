import Maze.Core.DynamicOperations
import Maze.Core.DynamicReplay
import Maze.Library.Transition

namespace Maze.Core

open Maze.Python
open Maze.Library.Transition

/-!
# Recovery of the runs that Core leaves behind

The writes of Core keep the files of every dynamic run recoverable, whatever
write fails and wherever the process ends, unless one of three things happens:
a live run records a task failure whose error is a timeout, an event is appended
behind the one that ended the run, or the mirror gets an event while it lacks an
earlier one. None of this matters once the end of the run has been saved.
-/

namespace DynamicRunStore

/-! ## What a write does to sound files -/

section Writes

variable {runId : PyStr} {files : DynamicFiles}

theorem Sound.write_canonical
    (sound : Sound runId files)
    (acceptable : Acceptable runId event)
    (positive : 0 < event.seq)
    (later : ∀ earlier ∈ files.canonical, earlier.seq < event.seq)
    (goesOn : ∀ earlier ∈ files.canonical, earlier.isTerminal = false) :
    Sound runId (write files (.canonical event)) where
  increasing := by
    refine List.pairwise_append.mpr
      ⟨sound.increasing, List.pairwise_singleton _ _, ?_⟩
    intro earlier member other otherMember
    rw [List.mem_singleton.mp otherMember]
    exact later earlier member
  positive := by
    intro other member
    rcases List.mem_append.mp member with before | new
    · exact sound.positive other before
    · rw [List.mem_singleton.mp new]
      exact positive
  mirrored := sound.mirrored.trans (List.prefix_append _ _)
  acceptable := by
    intro other member
    rcases List.mem_append.mp member with before | new
    · exact sound.acceptable other before
    · rw [List.mem_singleton.mp new]
      exact acceptable
  terminalLast := by
    intro terminal member isEnd other otherMember
    rcases List.mem_append.mp member with before | new
    · rw [goesOn terminal before] at isEnd
      cases isEnd
    · rw [List.mem_singleton.mp new]
      rcases List.mem_append.mp otherMember with otherBefore | otherNew
      · exact Nat.le_of_lt (later other otherBefore)
      · rw [List.mem_singleton.mp otherNew]
  named := sound.named

/-- The mirror gets the event that follows on what it holds. -/
theorem Sound.write_mirror
    (sound : Sound runId files)
    (member : event ∈ files.canonical)
    (absent : event ∉ files.mirror)
    (complete :
      ∀ earlier ∈ files.canonical, earlier.seq < event.seq →
        earlier ∈ files.mirror) :
    Sound runId (write files (.mirror event)) := by
  refine { sound with mirrored := ?_ }
  change files.mirror ++ [event] <+: files.canonical
  obtain ⟨rest, split⟩ := sound.mirrored
  have increasing := sound.increasing
  rw [← split, List.pairwise_append] at increasing
  obtain ⟨_, restIncreasing, across⟩ := increasing
  rw [← split] at member
  have inRest := (List.mem_append.mp member).resolve_left absent
  cases rest with
  | nil =>
      cases inRest
  | cons next rest =>
      rcases List.mem_cons.mp inRest with rfl | later
      · exact ⟨rest, by simp [← split]⟩
      · have before := (List.pairwise_cons.mp restIncreasing).1 event later
        have nextMember : next ∈ files.canonical := by simp [← split]
        have mirrored := complete next nextMember before
        have above := across next mirrored next List.mem_cons_self
        omega

theorem Sound.write_snapshot
    (sound : Sound runId files)
    (named : snapshot.runId = runId) :
    Sound runId (write files (.snapshot snapshot)) :=
  { sound with
    named := by
      intro other saved
      obtain rfl := Option.some.inj saved
      exact named }

/-- A write with its fault happens or does not. -/
theorem attempt_writes
    (fault : Fault)
    (single : DiskWrite) :
    (attempt fault single).writes = [] ∨
      (fault ≠ .before ∧ (attempt fault single).writes = [single]) := by
  cases fault with
  | none =>
      exact .inr ⟨by decide, rfl⟩
  | before =>
      exact .inl rfl
  | after =>
      exact .inr ⟨by decide, rfl⟩

/-- A pair of calls leaves what the first one leaves, or what both leave. -/
theorem writeAll_andThen
    (files : DynamicFiles)
    (first : Performed)
    (second : List DiskWrite → Performed) :
    writeAll files (Performed.andThen first second).writes =
        writeAll files first.writes ∨
      (first.result = .ok () ∧
        writeAll files (Performed.andThen first second).writes =
          writeAll (writeAll files first.writes)
            (second first.writes).writes) := by
  cases ended : first.result with
  | error raised =>
      exact .inl (by simp [Performed.andThen, ended])
  | ok =>
      exact .inr ⟨rfl, by simp [Performed.andThen, ended, writeAll_append]⟩

/-- The event that `append_event_once` hands on to the mirror. -/
def handedOn
    (files : DynamicFiles)
    (event : RunEvent)
    (faults : Faults) :
    Option RunEvent :=
  match eventForAppend files.canonical event true with
  | .error _ => none
  | .ok (some persisted) => some persisted
  | .ok none => if faults.canonical = .none then some event else none

/--
An append that neither puts an event behind the one that ended the run nor gives
the mirror an event while it lacks an earlier one.
-/
structure Orderly
    (files : DynamicFiles)
    (event : RunEvent)
    (snapshot : DynamicSnapshot)
    (faults : Faults) : Prop where
  beforeEnd :
    eventForAppend files.canonical event true = .ok none →
      faults.canonical ≠ .before →
        ∀ earlier ∈ files.canonical, earlier.isTerminal = false
  mirrorComplete :
    ∀ persisted, handedOn files event faults = some persisted →
      hasWorkspace snapshot = true → faults.mirror ≠ .before →
        ∀ earlier ∈ files.canonical, earlier.seq < persisted.seq →
          earlier ∈ files.mirror

theorem Sound.mirrorEventOnce
    (sound : Sound runId files)
    {fault : Fault}
    (member : event ∈ files.canonical)
    (complete :
      hasWorkspace snapshot = true → fault ≠ .before →
        ∀ earlier ∈ files.canonical, earlier.seq < event.seq →
          earlier ∈ files.mirror) :
    Sound runId
      (writeAll files (mirrorEventOnce files event snapshot fault).writes) := by
  unfold DynamicRunStore.mirrorEventOnce
  split
  · rename_i workspace
    split
    · exact sound
    · exact sound
    · rename_i absent
      rcases attempt_writes fault (.mirror event) with none | ⟨written, single⟩
      · rw [none]
        exact sound
      · rw [single]
        have mirrorIncreasing :=
          sound.increasing.sublist sound.mirrored.sublist
        have later := later_of_eventForAppend mirrorIncreasing absent
        refine sound.write_mirror member ?_ (complete workspace written)
        intro mirrored
        exact absurd (later event mirrored) (Nat.lt_irrefl _)
  · exact sound

theorem Sound.appendEventOnce
    (sound : Sound runId files)
    (acceptable :
      eventForAppend files.canonical event true = .ok none →
        faults.canonical ≠ .before → Acceptable runId event)
    (positive : 0 < event.seq)
    (orderly : Orderly files event snapshot faults) :
    Sound runId
      (writeAll files (appendEventOnce files event snapshot faults).writes) := by
  unfold DynamicRunStore.appendEventOnce
  have complete := orderly.mirrorComplete
  unfold handedOn at complete
  split
  · exact sound
  · rename_i persisted found
    rw [found] at complete
    exact sound.mirrorEventOnce (mem_of_eventForAppend found).1
      (complete persisted rfl)
  · rename_i absent
    rw [absent] at complete
    have later := later_of_eventForAppend sound.increasing absent
    have canonicalSound : Sound runId
        (writeAll files
          (attempt faults.canonical (.canonical event)).writes) := by
      rcases attempt_writes faults.canonical (.canonical event) with
        none | ⟨written, single⟩
      · rw [none]
        exact sound
      · rw [single]
        exact sound.write_canonical (acceptable absent written) positive later
          (orderly.beforeEnd absent written)
    rcases writeAll_andThen files (attempt faults.canonical (.canonical event))
      fun writes => DynamicRunStore.mirrorEventOnce (writeAll files writes)
        event snapshot faults.mirror with first | ⟨passed, both⟩
    · rw [first]
      exact canonicalSound
    · rw [both]
      cases fault : faults.canonical with
      | before | after =>
          rw [fault] at passed
          cases passed
      | none =>
          rw [fault] at complete canonicalSound
          refine canonicalSound.mirrorEventOnce ?_ ?_
          · simp [attempt, DynamicRunStore.write]
          · intro workspace mirrors earlier member before
            have earlierMember : earlier ∈ files.canonical := by
              rcases List.mem_append.mp member with old | new
              · exact old
              · rw [List.mem_singleton.mp new] at before
                exact absurd before (Nat.lt_irrefl _)
            exact complete event rfl workspace mirrors earlier earlierMember
              before

theorem Sound.attempt_snapshot
    (sound : Sound runId files)
    (fault : Fault)
    (named : snapshot.runId = runId) :
    Sound runId
      (writeAll files (attempt fault (.snapshot snapshot)).writes) := by
  rcases attempt_writes fault (.snapshot snapshot) with none | ⟨_, single⟩
  · rw [none]
    exact sound
  · rw [single]
    exact sound.write_snapshot named

theorem Sound.persistEvent
    (sound : Sound runId files)
    (acceptable :
      eventForAppend files.canonical event true = .ok none →
        faults.canonical ≠ .before → Acceptable runId event)
    (positive : 0 < event.seq)
    (orderly : Orderly files event snapshot faults)
    (named : snapshot.runId = runId) :
    Sound runId
      (writeAll files (persistEvent files event snapshot faults).writes) := by
  have appended := sound.appendEventOnce acceptable positive orderly
  rcases writeAll_andThen files
    (DynamicRunStore.appendEventOnce files event snapshot faults)
    fun _ => attempt faults.save (.snapshot snapshot) with first | ⟨_, both⟩
  · rw [DynamicRunStore.persistEvent, first]
    exact appended
  · rw [DynamicRunStore.persistEvent, both]
    exact appended.attempt_snapshot faults.save named

end Writes

end DynamicRunStore

namespace DynamicCore

open DynamicRunStore

/-! ## The invariant of a run -/

/-- What is kept in memory for the log of a run. -/
structure Remembers (process : Process) : Prop where
  events :
    ∀ event ∈ process.run.eventLog,
      Acceptable process.run.runId event ∧ 0 < event.seq
  finalizedStatus :
    process.run.finalized = true → process.run.status = .finalized
  exitEvent :
    ∀ entry, process.exitEntry = some entry →
      Acceptable process.run.runId entry.event ∧ 0 < entry.event.seq ∧
        entry.snapshot.runId = process.run.runId

/-- The snapshot on disk is not active. -/
def Ended (files : DynamicFiles) : Prop :=
  ∃ snapshot, files.snapshot = some snapshot ∧ isActive snapshot = false

/-- The end of the run has been saved. -/
def EndSaved (process : Process) : Prop :=
  process.run.isTerminal = true ∧ Ended process.files

/-- What holds of every run that Core leaves recoverable. -/
structure Invariant (process : Process) : Prop where
  exitEnded :
    ∀ entry, process.exitEntry = some entry → isActive entry.snapshot = false
  recoverable :
    EndSaved process ∨
      (Remembers process ∧ Sound process.run.runId process.files)

/--
The operation records nothing that recovery stumbles over. A task failure by
timeout must not reach the log of a live run; every other append is orderly.
-/
def KeepsRecoverable
    (render : Time → PyStr)
    (process : Process)
    (action : Action) : Prop :=
  ∀ event snapshot, emission render process action = some (event, snapshot) →
    EndSaved process ∨
      (misstatesEnd process.run action.operation = true →
          ∀ found,
            eventForAppend process.files.canonical event true = .ok found →
              found = none ∧ action.faults.canonical = .before) ∧
        Orderly process.files event snapshot action.faults

/-- The snapshot of a terminal run is not active. -/
theorem isActive_snapshot
    {run : DynamicRun}
    (terminal : run.isTerminal = true) :
    isActive run.snapshot = false := by
  unfold DynamicRun.isTerminal at terminal
  cases status : run.status with
  | created | running =>
      rw [status] at terminal
      cases terminal
  | finalized | failed | canceled | timedOut | interrupted =>
      simp [isActive, DynamicRun.snapshot, status]

/-- What an operation records, and the run that has recorded it. -/
structure Recorded
    (run after : DynamicRun)
    (event : RunEvent)
    (draft : Draft) : Prop where
  eventLog : after.eventLog = run.eventLog ++ [event]
  positive : 0 < event.seq
  eventType : event.eventType = draft.eventType
  named : event.data.get "run_id" = .str run.runId
  stated : event.data.get "run_status" = .str after.status.text
  stamped : ∃ moment : Instant, event.timestamp = moment.val.isoFormat

theorem recorded_appendEvent
    (run : DynamicRun)
    (draft : Draft)
    (moment : Instant)
    (now : Time) :
    Recorded run
      (run.appendEvent draft.eventType draft.data moment.val.isoFormat now).1
      (run.appendEvent draft.eventType draft.data moment.val.isoFormat now).2
      draft where
  eventLog := rfl
  positive := Nat.succ_pos _
  eventType := rfl
  named := by
    have differ : PyStr.ofString "run_id" ≠ PyStr.ofString "run_status" := by
      decide
    simp [DynamicRun.appendEvent, PyDict.get, differ]
  stated := by simp [DynamicRun.appendEvent, PyDict.get]
  stamped := ⟨moment, rfl⟩

/-- The run after an operation, with its event appended if it has one. -/
theorem recorded_cases
    (render : Time → PyStr)
    (run : DynamicRun)
    (action : Action) :
    (recorded render run action =
        ((apply render run action.now action.operation).1, none)) ∨
      ∃ draft event after,
        (apply render run action.now action.operation).2 = some draft ∧
          recorded render run action = (after, some event) ∧
          Recorded (apply render run action.now action.operation).1 after event
            draft ∧
          after.runId =
            (apply render run action.now action.operation).1.runId ∧
          after.status =
            (apply render run action.now action.operation).1.status ∧
          after.finalized =
            (apply render run action.now action.operation).1.finalized := by
  unfold recorded
  rcases applied : apply render run action.now action.operation with
    ⟨after, none | draft⟩
  · exact .inl rfl
  · exact .inr ⟨draft, _, _, rfl, rfl,
      recorded_appendEvent after draft action.moment action.now, rfl, rfl, rfl⟩

/-- How an operation changes the memory of a run, with the event it records. -/
structure Logged
    (run after : DynamicRun)
    (event : Option RunEvent) : Prop where
  runId : after.runId = run.runId
  eventLog : after.eventLog = run.eventLog ++ event.toList
  kept : run.isTerminal = true → after.isTerminal = true
  finalizedStatus :
    (run.finalized = true → run.status = .finalized) →
      after.finalized = true → after.status = .finalized
  positive : ∀ recorded ∈ event, 0 < recorded.seq

theorem logged_recorded
    (render : Time → PyStr)
    (run : DynamicRun)
    (action : Action) :
    Logged run (recorded render run action).1 (recorded render run action).2 := by
  have frame := frame_apply render run action.now action.operation
  have finalizedStatus : (run.finalized = true → run.status = .finalized) →
      (apply render run action.now action.operation).1.finalized = true →
        (apply render run action.now action.operation).1.status = .finalized := by
    intro before finalized
    cases terminal : run.isTerminal with
    | true =>
        rw [frame.kept terminal] at finalized ⊢
        exact before finalized
    | false =>
        refine frame.finalized terminal ?_ finalized
        cases flag : run.finalized with
        | false =>
            rfl
        | true =>
            simp [DynamicRun.isTerminal, before flag, RunStatus.isTerminal]
              at terminal
  have kept : run.isTerminal = true →
      (apply render run action.now action.operation).1.isTerminal = true := by
    intro terminal
    rw [frame.kept terminal]
    exact terminal
  rcases recorded_cases render run action with
    none | ⟨draft, event, after, _, recording, made, runId, status, finalized⟩
  · rw [none]
    exact ⟨frame.runId, by simp [frame.eventLog], kept, finalizedStatus, by simp⟩
  · rw [recording]
    refine ⟨runId.trans frame.runId, ?_, ?_, ?_, ?_⟩
    · rw [made.eventLog, frame.eventLog]
      rfl
    · intro terminal
      have ended := kept terminal
      simp only [DynamicRun.isTerminal] at ended ⊢
      rw [status]
      exact ended
    · intro before isFinalized
      rw [finalized] at isFinalized
      rw [status]
      exact finalizedStatus before isFinalized
    · intro other same
      obtain rfl := Option.some.inj same
      exact made.positive

/-- A recorded event that does not misstate the end of the run is acceptable. -/
theorem acceptable_recorded
    (render : Time → PyStr)
    {run : DynamicRun}
    (finalizedStatus : run.finalized = true → run.status = .finalized)
    (truthful : misstatesEnd run action.operation = false)
    (recording : (recorded render run action).2 = some event) :
    Acceptable run.runId event := by
  rcases recorded_cases render run action with
    none | ⟨draft, other, after, drafted, made_eq, made, _, status, _⟩
  · rw [none] at recording
    cases recording
  · rw [made_eq] at recording
    obtain rfl := Option.some.inj recording
    intro ended ends
    rw [made.eventType] at ends
    have stated := states_apply render action.now finalizedStatus truthful
      drafted ended ends
    have named := made.named
    rw [(frame_apply render run action.now action.operation).runId] at named
    refine ⟨named, ?_, made.stamped⟩
    rw [made.stated, status, stated]

/-! ## Once the end of the run has been saved -/

theorem snapshot_appendEventOnce
    (files : DynamicFiles)
    (event : RunEvent)
    (snapshot : DynamicSnapshot)
    (faults : Faults) :
    (writeAll files (appendEventOnce files event snapshot faults).writes).snapshot
      = files.snapshot := by
  have mirrorKeeps : ∀ (files : DynamicFiles) (event : RunEvent),
      (writeAll files
        (mirrorEventOnce files event snapshot faults.mirror).writes).snapshot =
        files.snapshot := by
    intro files event
    unfold mirrorEventOnce
    split
    · split
      · rfl
      · rfl
      · rcases attempt_writes faults.mirror (.mirror event) with
          none | ⟨_, single⟩
        · rw [none]
          rfl
        · rw [single]
          rfl
    · rfl
  unfold appendEventOnce
  split
  · rfl
  · exact mirrorKeeps _ _
  · have canonicalKeeps : (writeAll files
        (attempt faults.canonical (.canonical event)).writes).snapshot =
          files.snapshot := by
      rcases attempt_writes faults.canonical (.canonical event) with
        none | ⟨_, single⟩
      · rw [none]
        rfl
      · rw [single]
        rfl
    rcases writeAll_andThen files (attempt faults.canonical (.canonical event))
      fun writes => mirrorEventOnce (writeAll files writes) event snapshot
        faults.mirror with first | ⟨_, both⟩
    · rw [first]
      exact canonicalKeeps
    · rw [both, mirrorKeeps]
      exact canonicalKeeps

theorem Ended.attempt_snapshot
    (ended : Ended files)
    (fault : Fault)
    (inactive : isActive snapshot = false) :
    Ended (writeAll files (attempt fault (.snapshot snapshot)).writes) := by
  rcases attempt_writes fault (.snapshot snapshot) with none | ⟨_, single⟩
  · rw [none]
    exact ended
  · rw [single]
    exact ⟨snapshot, rfl, inactive⟩

theorem Ended.appendEventOnce
    (ended : Ended files)
    (event : RunEvent)
    (snapshot : DynamicSnapshot)
    (faults : Faults) :
    Ended
      (writeAll files (appendEventOnce files event snapshot faults).writes) := by
  obtain ⟨saved, found, inactive⟩ := ended
  exact ⟨saved, (snapshot_appendEventOnce files event snapshot faults).trans found,
    inactive⟩

theorem Ended.persistEvent
    (ended : Ended files)
    (event : RunEvent)
    (faults : Faults)
    (inactive : isActive snapshot = false) :
    Ended (writeAll files (persistEvent files event snapshot faults).writes) := by
  have appended := ended.appendEventOnce event snapshot faults
  rcases writeAll_andThen files
    (DynamicRunStore.appendEventOnce files event snapshot faults) fun _ =>
      attempt faults.save (.snapshot snapshot) with first | ⟨_, both⟩
  · rw [DynamicRunStore.persistEvent, first]
    exact appended
  · rw [DynamicRunStore.persistEvent, both]
    exact appended.attempt_snapshot faults.save inactive

/-! ## One operation -/

/-- A task failure by timeout is handled in a transaction. -/
theorem isTransaction_of_misstatesEnd
    {run : DynamicRun}
    {operation : Operation}
    (misstated : misstatesEnd run operation = true) :
    isTransaction operation = true := by
  cases operation with
  | taskException taskId data =>
      rfl
  | _ =>
      cases misstated

/-- An event that the canonical log does not take is not written at all. -/
theorem persistEvent_of_refused
    (snapshot : DynamicSnapshot)
    (refused :
      ∀ found, eventForAppend files.canonical event true = .ok found →
        found = none ∧ faults.canonical = .before) :
    (persistEvent files event snapshot faults).writes = [] ∧
      succeeded (persistEvent files event snapshot faults).result = false := by
  cases answer : eventForAppend files.canonical event true with
  | error raised =>
      simp [persistEvent, appendEventOnce, answer, Performed.andThen, succeeded]
  | ok found =>
      obtain ⟨rfl, before⟩ := refused found answer
      simp [persistEvent, appendEventOnce, answer, Performed.andThen, before,
        attempt, succeeded]

/-- Persisting an event leaves sound files sound. -/
theorem recoverable_persist
    (before : Remembers process)
    (sound : Sound process.run.runId process.files)
    (runId : after.runId = process.run.runId)
    (remembers :
      misstatesEnd process.run action.operation = false →
        Remembers { process with run := after })
    (acceptable :
      misstatesEnd process.run action.operation = false →
        Acceptable process.run.runId event)
    (positive : 0 < event.seq)
    (refused :
      misstatesEnd process.run action.operation = true →
        ∀ found,
          eventForAppend process.files.canonical event true = .ok found →
            found = none ∧ action.faults.canonical = .before)
    (orderly :
      Orderly process.files event after.snapshot action.faults) :
    Remembers (persist process after event action) ∧
      Sound (persist process after event action).run.runId
        (persist process after event action).files := by
  cases misstated : misstatesEnd process.run action.operation with
  | true =>
      obtain ⟨unwritten, failed⟩ :=
        persistEvent_of_refused after.snapshot (refused misstated)
      have unchanged : persist process after event action = process := by
        simp [persist, unwritten, failed,
          isTransaction_of_misstatesEnd misstated]
      rw [unchanged]
      exact ⟨before, sound⟩
  | false =>
      have written : Sound process.run.runId
          (writeAll process.files
            (persistEvent process.files event after.snapshot
              action.faults).writes) :=
        sound.persistEvent (fun _ _ => acceptable misstated) positive orderly
          runId
      simp only [persist]
      split
      · exact ⟨⟨before.events, before.finalizedStatus, before.exitEvent⟩, written⟩
      · have remembered := remembers misstated
        refine ⟨⟨remembered.events, remembered.finalizedStatus,
          remembered.exitEvent⟩, ?_⟩
        rw [runId]
        exact written

/-- Persisting an event keeps a saved end saved. -/
theorem endSaved_persist
    (event : RunEvent)
    (action : Action)
    (saved : EndSaved process)
    (terminal : after.isTerminal = true) :
    EndSaved (persist process after event action) := by
  obtain ⟨ended, files⟩ := saved
  refine ⟨?_, files.persistEvent event action.faults (isActive_snapshot terminal)⟩
  simp only [persist]
  split
  · exact ended
  · exact terminal

/-- The memory of a run that has recorded an event. -/
theorem remembers_logged
    {event : Option RunEvent}
    (remembers : Remembers process)
    (logged : Logged process.run after event)
    (acceptable :
      ∀ recorded ∈ event, Acceptable process.run.runId recorded) :
    Remembers { process with run := after } where
  events := by
    intro other member
    rw [logged.eventLog] at member
    rw [logged.runId]
    rcases List.mem_append.mp member with old | new
    · exact remembers.events other old
    · have isRecorded := Option.mem_toList.mp new
      exact ⟨acceptable other isRecorded, logged.positive other isRecorded⟩
  finalizedStatus := logged.finalizedStatus remembers.finalizedStatus
  exitEvent := by
    intro entry same
    rw [logged.runId]
    exact remembers.exitEvent entry same

/-- An operation that records an event and persists it. -/
theorem invariant_persist
    (invariant : Invariant process)
    (recording : recorded render process.run action = (after, some event))
    (keeps :
      EndSaved process ∨
        (misstatesEnd process.run action.operation = true →
            ∀ found,
              eventForAppend process.files.canonical event true = .ok found →
                found = none ∧ action.faults.canonical = .before) ∧
          Orderly process.files event after.snapshot action.faults) :
    Invariant (persist process after event action) := by
  have logged := logged_recorded render process.run action
  rw [recording] at logged
  refine ⟨invariant.exitEnded, ?_⟩
  by_cases saved : EndSaved process
  · exact .inl (endSaved_persist event action saved (logged.kept saved.1))
  · obtain ⟨refused, orderly⟩ := keeps.resolve_left saved
    obtain ⟨remembers, sound⟩ := invariant.recoverable.resolve_left saved
    have acceptable : misstatesEnd process.run action.operation = false →
        Acceptable process.run.runId event := by
      intro truthful
      apply acceptable_recorded render remembers.finalizedStatus truthful
      rw [recording]
    refine .inr (recoverable_persist remembers sound logged.runId ?_ acceptable
      (logged.positive event rfl) refused orderly)
    intro truthful
    refine remembers_logged remembers logged ?_
    intro other same
    obtain rfl := Option.some.inj same
    exact acceptable truthful

/-- An operation that records nothing. -/
theorem invariant_silent
    (invariant : Invariant process)
    (recording : recorded render process.run action = (after, none)) :
    Invariant { process with run := after } := by
  have logged := logged_recorded render process.run action
  rw [recording] at logged
  refine ⟨invariant.exitEnded, ?_⟩
  rcases invariant.recoverable with ⟨terminal, ended⟩ | ⟨remembers, sound⟩
  · exact .inl ⟨logged.kept terminal, ended⟩
  · refine .inr ⟨remembers_logged remembers logged (by simp), ?_⟩
    change Sound after.runId process.files
    rw [logged.runId]
    exact sound

/-- A recorded event is emitted again. -/
theorem invariant_emitAgain
    (invariant : Invariant process)
    (member : event ∈ process.run.eventLog)
    (truthful : misstatesEnd process.run action.operation = false)
    (keeps :
      EndSaved process ∨
        Orderly process.files event process.run.snapshot action.faults) :
    Invariant (persist process process.run event action) := by
  refine ⟨invariant.exitEnded, ?_⟩
  by_cases saved : EndSaved process
  · exact .inl (endSaved_persist event action saved saved.1)
  · have orderly := keeps.resolve_left saved
    obtain ⟨remembers, sound⟩ := invariant.recoverable.resolve_left saved
    obtain ⟨acceptable, positive⟩ := remembers.events event member
    refine .inr (recoverable_persist remembers sound rfl (fun _ => remembers)
      (fun _ => acceptable) positive ?_ orderly)
    intro misstated
    rw [truthful] at misstated
    cases misstated

/-- The snapshot is saved. -/
theorem invariant_save
    (invariant : Invariant process)
    (fault : Fault) :
    Invariant
      { process with
        files :=
          writeAll process.files
            (attempt fault (.snapshot process.run.snapshot)).writes } := by
  refine ⟨invariant.exitEnded, ?_⟩
  rcases invariant.recoverable with ⟨terminal, ended⟩ | ⟨remembers, sound⟩
  · exact .inl ⟨terminal,
      ended.attempt_snapshot fault (isActive_snapshot terminal)⟩
  · exact .inr ⟨⟨remembers.events, remembers.finalizedStatus,
      remembers.exitEvent⟩, sound.attempt_snapshot fault rfl⟩

/-- What is kept for an exit entry that is being persisted. -/
structure Exiting
    (process : Process)
    (entry : ExitEntry) : Prop where
  inactive : isActive entry.snapshot = false
  recoverable :
    EndSaved process ∨
      (Remembers { process with exitEntry := some entry } ∧
        Sound process.run.runId process.files)

/-- Persisting an exit entry keeps the run recoverable. -/
theorem invariant_persistExitEntry
    {entry : ExitEntry}
    (exiting : Exiting process entry)
    (keeps :
      entry.eventPersisted = false →
        EndSaved process ∨
          Orderly process.files entry.event entry.snapshot faults) :
    Invariant (persistExitEntry process entry faults) := by
  have stillInactive : ∀ persisted, ∀ other,
      some { entry with eventPersisted := persisted } = some other →
        isActive other.snapshot = false := by
    intro persisted other same
    obtain rfl := Option.some.inj same
    exact exiting.inactive
  by_cases saved : EndSaved process
  · obtain ⟨terminal, ended⟩ := saved
    have appended : Ended (writeAll process.files
        (appendExitEntry process.files entry faults).writes) := by
      unfold appendExitEntry
      split
      · exact ended
      · exact ended.appendEventOnce entry.event entry.snapshot faults
    simp only [persistExitEntry]
    split
    · refine ⟨?_, .inl ⟨terminal,
        appended.attempt_snapshot faults.save exiting.inactive⟩⟩
      intro other same
      dsimp only at same
      split at same
      · cases same
      · exact stillInactive true other same
    · exact ⟨stillInactive entry.eventPersisted, .inl ⟨terminal, appended⟩⟩
  · obtain ⟨remembers, sound⟩ := exiting.recoverable.resolve_left saved
    obtain ⟨acceptable, positive, named⟩ := remembers.exitEvent entry rfl
    have appended : Sound process.run.runId (writeAll process.files
        (appendExitEntry process.files entry faults).writes) := by
      unfold appendExitEntry
      split
      · exact sound
      · rename_i unpersisted
        have orderly :=
          (keeps (by simpa using unpersisted)).resolve_left saved
        exact sound.appendEventOnce (fun _ _ => acceptable) positive orderly
    simp only [persistExitEntry]
    split
    · refine ⟨?_, .inr ⟨⟨remembers.events, remembers.finalizedStatus, ?_⟩,
        appended.attempt_snapshot faults.save named⟩⟩
      · intro other same
        dsimp only at same
        split at same
        · cases same
        · exact stillInactive true other same
      · intro other same
        dsimp only at same
        split at same
        · cases same
        · obtain rfl := Option.some.inj same
          exact ⟨acceptable, positive, named⟩
    · exact ⟨stillInactive entry.eventPersisted, .inr ⟨⟨remembers.events,
        remembers.finalizedStatus, remembers.exitEvent⟩, appended⟩⟩

/-- An interruption that records an event has ended the run. -/
theorem terminal_of_interrupt
    {run after : DynamicRun}
    {reason : PyVal}
    {data : PyDict}
    (kind : action.operation = .interrupt reason data)
    (recording : recorded render run action = (after, some event)) :
    after.isTerminal = true := by
  have logged := logged_recorded render run action
  rw [recording] at logged
  cases terminal : run.isTerminal with
  | true =>
      exact logged.kept terminal
  | false =>
      rw [recorded, kind] at recording
      simp only [apply, DynamicRun.interrupt, terminal, draftIf] at recording
      obtain ⟨rfl, _⟩ := Prod.mk.inj recording
      rfl

/-- The interruption of a run works on an entry that is kept recoverable. -/
theorem exiting_exitEntry?
    {reason : PyVal}
    {data : PyDict}
    {entry : ExitEntry}
    (invariant : Invariant process)
    (kind : action.operation = .interrupt reason data)
    (working : exitEntry? render process action = (after, some entry)) :
    Exiting { process with run := after } entry ∧
      after.runId = process.run.runId ∧
      (process.run.isTerminal = true → after.isTerminal = true) := by
  unfold exitEntry? at working
  split at working
  · rename_i kept same
    obtain ⟨rfl, sameEntry⟩ := Prod.mk.inj working
    obtain rfl := Option.some.inj sameEntry
    refine ⟨⟨invariant.exitEnded kept same, ?_⟩, rfl, id⟩
    rcases invariant.recoverable with saved | ⟨remembers, sound⟩
    · exact .inl saved
    · refine .inr ⟨⟨remembers.events, remembers.finalizedStatus, ?_⟩, sound⟩
      intro other isEntry
      obtain rfl := Option.some.inj isEntry
      exact remembers.exitEvent kept same
  · have logged := logged_recorded render process.run action
    rcases recording : recorded render process.run action with
      ⟨run, none | event⟩
    · rw [recording] at working
      cases working
    · rw [recording] at working logged
      obtain ⟨rfl, sameEntry⟩ := Prod.mk.inj working
      obtain rfl := Option.some.inj sameEntry
      have terminal := terminal_of_interrupt kind recording
      refine ⟨⟨isActive_snapshot terminal, ?_⟩, logged.runId, logged.kept⟩
      rcases invariant.recoverable with ⟨_, ended⟩ | ⟨remembers, sound⟩
      · exact .inl ⟨terminal, ended⟩
      · have truthful : misstatesEnd process.run action.operation = false := by
          rw [kind]
          rfl
        have acceptable : Acceptable process.run.runId event := by
          apply acceptable_recorded render remembers.finalizedStatus truthful
          rw [recording]
        have remembered := remembers_logged remembers logged (by
          intro other same
          obtain rfl := Option.some.inj same
          exact acceptable)
        refine .inr ⟨⟨remembered.events, remembered.finalizedStatus, ?_⟩, ?_⟩
        · intro other isEntry
          obtain rfl := Option.some.inj isEntry
          change Acceptable run.runId event ∧ 0 < event.seq ∧ run.runId = run.runId
          rw [logged.runId]
          exact ⟨acceptable, logged.positive event rfl, rfl⟩
        · change Sound run.runId process.files
          rw [logged.runId]
          exact sound

/-- An operation that keeps the condition keeps the run recoverable. -/
theorem invariant_perform
    (invariant : Invariant process)
    (keeps : KeepsRecoverable render process action) :
    Invariant (perform render process action) := by
  unfold KeepsRecoverable emission at keeps
  simp only [perform]
  cases kind : action.operation with
  | save =>
      exact invariant_save invariant action.faults.save
  | emitAgain seq =>
      simp only [kind] at keeps
      cases found : process.run.eventLog.find? fun event => event.seq = seq with
      | none =>
          simp only [found]
          exact invariant
      | some event =>
          simp only [found]
          have truthful : misstatesEnd process.run action.operation = false := by
            rw [kind]
            rfl
          have orderly := keeps event process.run.snapshot (by rw [found]; rfl)
          exact invariant_emitAgain invariant (List.mem_of_find?_eq_some found)
            truthful (orderly.imp_right And.right)
  | interrupt reason data =>
      simp only [kind] at keeps
      rcases working : exitEntry? render process action with
        ⟨after, none | entry⟩
      · have recording : recorded render process.run action = (after, none) := by
          unfold exitEntry? at working
          split at working
          · cases working
          · rcases recording : recorded render process.run action with
              ⟨run, none | event⟩
            · rw [recording] at working
              obtain ⟨rfl, _⟩ := Prod.mk.inj working
              rfl
            · rw [recording] at working
              cases working
        exact invariant_silent invariant recording
      · obtain ⟨exiting, _, kept⟩ := exiting_exitEntry? invariant kind working
        apply invariant_persistExitEntry exiting
        intro unpersisted
        have orderly := keeps entry.event entry.snapshot (by
          rw [working]
          simp [unpersisted])
        rcases orderly with ⟨terminal, ended⟩ | ⟨_, orderly⟩
        · exact .inl ⟨kept terminal, ended⟩
        · exact .inr orderly
  | startRun | registerTaskSpec | appendTask | emitEvent | finalize | cancel
  | timeOut | startTask | taskPending | taskRetry | taskException | finishTask
  | taskReady =>
      simp only [kind] at keeps
      rcases recording : recorded render process.run action with
        ⟨after, none | event⟩
      · exact invariant_silent invariant recording
      · apply invariant_persist invariant recording
        rw [kind]
        exact keeps event after.snapshot (by rw [recording])

/-! ## Every run of Core -/

theorem invariant_initial
    (runId : PyStr)
    (maxTasks : Int)
    (timeoutSeconds : Option Time)
    (fileContext : PyVal)
    (now : Time) :
    Invariant
      (initial (.new runId maxTasks timeoutSeconds fileContext now)) where
  exitEnded := by
    intro entry same
    cases same
  recoverable := by
    refine .inr ⟨⟨?_, ?_, ?_⟩, ⟨List.Pairwise.nil, ?_, List.prefix_rfl, ?_, ?_, ?_⟩⟩
    · intro event member
      cases member
    · intro finalized
      cases finalized
    · intro entry same
      cases same
    · intro event member
      cases member
    · intro event member
      cases member
    · intro terminal member
      cases member
    · intro snapshot same
      cases same

/-- The condition on a step: the operation keeps its run recoverable. -/
def StepKeepsRecoverable
    (render : Time → PyStr)
    (processes : List Process) :
    Step → Prop
  | .start _ _ _ _ _ => True
  | .operate index action =>
      ∀ process, processes[index]? = some process →
        KeepsRecoverable render process action

theorem invariant_step
    {processes next : List Process}
    {step : Step}
    (invariant : ∀ process ∈ processes, Invariant process)
    (keeps : StepKeepsRecoverable render processes step)
    (stepped : step? render processes step = some next) :
    ∀ process ∈ next, Invariant process := by
  cases step with
  | start runId maxTasks timeoutSeconds fileContext now =>
      obtain rfl := Option.some.inj stepped
      intro process member
      rcases List.mem_append.mp member with old | new
      · exact invariant process old
      · rw [List.mem_singleton.mp new]
        exact invariant_initial runId maxTasks timeoutSeconds fileContext now
  | operate index action =>
      obtain ⟨process, found, rfl⟩ := Option.map_eq_some_iff.mp stepped
      have here := invariant_perform
        (invariant process (List.mem_of_getElem? found)) (keeps process found)
      intro other member
      rcases List.mem_or_eq_of_mem_set member with old | rfl
      · exact invariant other old
      · exact here

/-- An ended run is left alone. -/
theorem agreesWithLog_of_ended
    (str : PyVal → PyStr)
    (clock : Clock)
    (ended : Ended files) :
    AgreesWithLog str clock files
      (writeAll files (recoverRun str clock files).writes) := by
  obtain ⟨snapshot, saved, inactive⟩ := ended
  simp [AgreesWithLog, recoverRun, saved, inactive]

theorem agreesWithLog_of_invariant
    (str : PyVal → PyStr)
    (clock : Clock)
    (invariant : Invariant process) :
    AgreesWithLog str clock process.files
      (writeAll process.files
        (recoverRun str clock process.files).writes) := by
  rcases invariant.recoverable with ⟨_, ended⟩ | ⟨_, sound⟩
  · exact agreesWithLog_of_ended str clock ended
  · exact agreesWithLog_of_sound str clock sound

/--
A restart at this point goes well: whichever runs are listed, the recovery
returns, and every run it recovers agrees with its log.
-/
def Recovers
    (str : PyVal → PyStr)
    (processes : List Process) : Prop :=
  ∀ clock listed, (∀ files ∈ listed, ∃ process ∈ processes,
      process.files = files) →
    ∃ recovered, recoverInterruptedRuns str clock listed = .ok recovered ∧
      List.Forall₂ (AgreesWithLog str clock) listed recovered

theorem recovers_of_invariant
    (str : PyVal → PyStr)
    {processes : List Process}
    (invariant : ∀ process ∈ processes, Invariant process) :
    Recovers str processes := by
  intro clock listed known
  induction listed with
  | nil =>
      exact ⟨[], rfl, .nil⟩
  | cons files rest inductionHypothesis =>
      rw [List.forall_mem_cons] at known
      obtain ⟨⟨process, member, rfl⟩, known⟩ := known
      obtain ⟨recovered, returned, agree⟩ := inductionHypothesis known
      have here := agreesWithLog_of_invariant str clock (invariant process member)
      refine ⟨_, ?_, .cons here agree⟩
      simp only [recoverInterruptedRuns, here.1, returned]
      rfl

/-- The clock of the runs below. -/
def newYear : Instant :=
  ⟨⟨2026, 1, 1, 0, 0, 0, 0⟩, by decide⟩

/-- An operation whose writes go through. -/
def undisturbed
    (operation : Operation)
    (now : Time) :
    Action :=
  ⟨operation, now, newYear, ⟨.none, .none, .none⟩⟩

/-- A run is cancelled; the mirror does not get the event, nor is the end saved. -/
def cancelWithoutMirror : List Step :=
  [.start "run" 100 none (.dict [("workspace_dir", .str "workspace")]) 0,
    .operate 0 (undisturbed (.startRun []) 0),
    .operate 0
      { undisturbed (.cancel .null) 1 with faults := ⟨.none, .before, .none⟩ }]

/-- A task fails with a timeout, and the process ends before the save. -/
def timeoutFailure : List Step :=
  [.start "run" 100 none .null 0,
    .operate 0 (undisturbed (.startRun []) 0),
    .operate 0
      (undisturbed (.appendTask ⟨"task", "task", none, [], none⟩ []) 1),
    .operate 0 (undisturbed (.startTask "task" [("task_id", .str "task")]) 2),
    .operate 0
      { undisturbed (.taskException "task"
          [("task_id", .str "task"),
            ("error", .dict [("error_type", .str "timeout")])]) 3 with
        faults := ⟨.none, .none, .before⟩ }]

variable
  {event : RunEvent}
  {process : Process}
  {action : Action}
  {snapshot : DynamicSnapshot}
  {after : DynamicRun}
  {render : Time → PyStr}
  {files : DynamicFiles}
  {faults : Faults}

end DynamicCore

end Maze.Core
