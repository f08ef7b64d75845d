import Maze.Core.DynamicReplay

namespace Maze.Core

open Maze.Python

/-!
# A crash in the middle of a recovery

A recovery that interrupts a run appends the interrupt event and then saves the
snapshot. When it crashes in between, the next recovery finds the event in the
log and applies it to the old snapshot instead. The two ways agree exactly when
the old snapshot has no task left to fail and no other failure reason: only the
second way fails the tasks.
-/

/-- A snapshot without the times that a recovery writes. -/
def DynamicSnapshot.timeless
    (snapshot : DynamicSnapshot) :
    DynamicSnapshot :=
  { snapshot with
    updatedTime := 0
    finishedTime := none
    taskNodes :=
      snapshot.taskNodes.map fun entry =>
        (entry.1, { entry.2 with finishTime := none }) }

/-- The event is an interruption. -/
def RunEvent.interrupts (event : RunEvent) : Bool :=
  event.eventType = PyStr.ofString "interrupt_dynamic_run"

namespace DynamicRunStore

/-- The interrupt event is in the canonical log and the snapshot is not saved. -/
structure CrashPoint (done : List DiskWrite) : Prop where
  appended : ∃ event, .canonical event ∈ done ∧ event.interrupts = true
  unsaved : ∀ snapshot, .snapshot snapshot ∉ done

/-- The error of a task that a restart has interrupted. -/
def restartError : PyVal :=
  DynamicSnapshot.interruptError [("reason", .str restartReason)]

/-- No task of the snapshot is left active, and those that were have failed. -/
structure TasksInterrupted (before after : DynamicSnapshot) : Prop where
  idle : after.activeTaskIds = []
  failed :
    ∀ taskId,
      (taskId ∈ before.activeTaskIds ∨
          taskId ∈ before.taskNodes.map Prod.fst) →
        taskId ∉ before.tasks.completed → taskId ∉ before.tasks.failed →
          taskId ∈ after.tasks.failed ∧
            after.taskErrors.get taskId = restartError

/-- A recovery that has returned and left a snapshot, with one interrupt event. -/
structure Interrupted
    (str : PyVal → PyStr)
    (clock : Clock)
    (files : DynamicFiles)
    (snapshot : DynamicSnapshot) : Prop where
  returned : (recoverRun str clock files).result = .ok ()
  saved :
    (writeAll files (recoverRun str clock files).writes).snapshot =
      some snapshot
  once :
    (writeAll files (recoverRun str clock files).writes).canonical.countP
      RunEvent.interrupts = 1

/--
A recovery interrupts all tasks of the run, and a crash between the append of
the interrupt event and the save of the snapshot changes times only.
-/
def CrashInsensitive
    (str : PyVal → PyStr)
    (first second : Clock)
    (files : DynamicFiles)
    (before : DynamicSnapshot) : Prop :=
  ∃ direct,
    Interrupted str first files direct ∧
      TasksInterrupted before direct ∧
      ∀ done, done <+: (recoverRun str first files).writes →
        CrashPoint done →
          ∃ resumed,
            Interrupted str second (writeAll files done) resumed ∧
              resumed.timeless = direct.timeless

/-- The snapshot leaves an interruption nothing to do but to say so. -/
structure NothingLeft (snapshot : DynamicSnapshot) : Prop where
  idle : snapshot.activeTaskIds = []
  ended :
    ∀ taskId ∈ snapshot.taskNodes.map Prod.fst,
      taskId ∈ snapshot.tasks.completed ∨ taskId ∈ snapshot.tasks.failed
  reason :
    snapshot.failureReason.orElse (.str restartReason) = .str restartReason

/-! ## Events that both logs hold -/

/-- The log holds the event, or another one with the same JSON. -/
def Holds (log : List RunEvent) (event : RunEvent) : Prop :=
  ∃ persisted, eventForAppend log event false = .ok (some persisted)

theorem Holds.append
    {log : List RunEvent}
    {event : RunEvent}
    (holds : Holds log event)
    (more : List RunEvent) :
    Holds (log ++ more) event := by
  obtain ⟨persisted, found⟩ := holds
  refine ⟨persisted, ?_⟩
  unfold eventForAppend at found ⊢
  rw [List.find?_append]
  split at found
  · rename_i candidate located
    rw [located]
    exact found
  · split at found <;> cases found

/-- An event that was appended is held. -/
theorem holds_appended
    {log : List RunEvent}
    {event : RunEvent}
    (absent : eventForAppend log event false = .ok none) :
    Holds (log ++ [event]) event := by
  refine ⟨event, ?_⟩
  unfold eventForAppend at absent ⊢
  split at absent
  · split at absent
    · cases absent
    · split at absent <;> cases absent
  · rename_i missing
    simp [List.find?_append, missing, sameJson_self]

/-- Both logs hold the event, as far as there is a mirror. -/
structure Kept
    (mirrors : Bool)
    (files : DynamicFiles)
    (event : RunEvent) : Prop where
  canonical : Holds files.canonical event
  mirror : mirrors = true → Holds files.mirror event

/-- Writing the mirror touches neither the canonical log nor the snapshot. -/
theorem writeAll_mirror
    (files : DynamicFiles)
    {writes : List DiskWrite}
    (mirrors : ∀ single ∈ writes, ∃ event, single = .mirror event) :
    ∃ more,
      writeAll files writes = { files with mirror := files.mirror ++ more } := by
  induction writes generalizing files with
  | nil =>
      exact ⟨[], by simp⟩
  | cons single writes inductionHypothesis =>
      rw [List.forall_mem_cons] at mirrors
      obtain ⟨⟨event, rfl⟩, mirrors⟩ := mirrors
      obtain ⟨more, written⟩ :=
        inductionHypothesis (write files (.mirror event)) mirrors
      refine ⟨event :: more, ?_⟩
      rw [writeAll_cons, written]
      simp [write]

theorem appendMirror_cases
    (files : DynamicFiles)
    (event : RunEvent) :
    (∃ raised, (appendMirror files event).result = .error raised) ∨
      (appendMirror files event = ⟨[], .ok ()⟩ ∧ Holds files.mirror event) ∨
      (appendMirror files event = ⟨[.mirror event], .ok ()⟩ ∧
        Holds (files.mirror ++ [event]) event) := by
  unfold appendMirror
  cases answer : eventForAppend files.mirror event false with
  | error raised =>
      exact .inl ⟨raised, rfl⟩
  | ok found =>
      cases found with
      | some persisted =>
          exact .inr (.inl ⟨rfl, persisted, answer⟩)
      | none =>
          exact .inr (.inr ⟨rfl, holds_appended answer⟩)

/-- An event that both logs hold is not written again. -/
theorem appendEvent_of_kept
    {files : DynamicFiles}
    {event : RunEvent}
    {snapshot : DynamicSnapshot}
    (kept : Kept (hasWorkspace snapshot) files event) :
    appendEvent files event snapshot = ⟨[], .ok ()⟩ := by
  obtain ⟨persisted, found⟩ := kept.canonical
  have canonical : appendCanonical files event = ⟨[], .ok ()⟩ := by
    simp [appendCanonical, found]
  cases mirrors : hasWorkspace snapshot with
  | false =>
      simp [appendEvent, canonical, Performed.andThen, mirrors]
  | true =>
      obtain ⟨mirrored, foundMirror⟩ := kept.mirror mirrors
      simp [appendEvent, canonical, Performed.andThen, mirrors, appendMirror,
        foundMirror]

/-- An event in the canonical log that is replayed without error is held there. -/
theorem holds_of_mem
    {files : DynamicFiles}
    {event : RunEvent}
    {snapshot : DynamicSnapshot}
    (member : event ∈ files.canonical)
    (passed : (appendEvent files event snapshot).result = .ok ()) :
    Holds files.canonical event := by
  cases answer : eventForAppend files.canonical event false with
  | error raised =>
      simp [appendEvent, appendCanonical, answer, Performed.andThen] at passed
  | ok found =>
      cases found with
      | some persisted =>
          exact ⟨persisted, answer⟩
      | none =>
          unfold eventForAppend at answer
          split at answer
          · split at answer
            · cases answer
            · cases answer
          · rename_i missing
            have absent := List.find?_eq_none.mp missing event member
            simp at absent

/-- A known event is at most written to the mirror. -/
theorem appendEvent_of_mem
    {files : DynamicFiles}
    {event : RunEvent}
    {snapshot : DynamicSnapshot}
    (member : event ∈ files.canonical)
    (passed : (appendEvent files event snapshot).result = .ok ()) :
    (∀ single ∈ (appendEvent files event snapshot).writes,
        single = .mirror event) ∧
      Kept (hasWorkspace snapshot)
        (writeAll files (appendEvent files event snapshot).writes) event := by
  obtain ⟨persisted, found⟩ := holds_of_mem member passed
  have canonical : appendCanonical files event = ⟨[], .ok ()⟩ := by
    simp [appendCanonical, found]
  cases mirrors : hasWorkspace snapshot with
  | false =>
      have unchanged : appendEvent files event snapshot = ⟨[], .ok ()⟩ := by
        simp [appendEvent, canonical, Performed.andThen, mirrors]
      rw [unchanged]
      exact ⟨by simp, ⟨persisted, found⟩, by simp⟩
  | true =>
      have mirrorOnly :
          appendEvent files event snapshot = appendMirror files event := by
        simp [appendEvent, canonical, Performed.andThen, mirrors]
      rw [mirrorOnly] at passed ⊢
      rcases appendMirror_cases files event with
        ⟨raised, failed⟩ | ⟨silent, held⟩ | ⟨written, held⟩
      · rw [failed] at passed
        cases passed
      · rw [silent]
        exact ⟨by simp, ⟨persisted, found⟩, fun _ => held⟩
      · rw [written]
        exact ⟨by simp, ⟨persisted, found⟩, fun _ => held⟩

/-! ## Replaying known events -/

theorem Kept.mirror_append
    {mirrors : Bool}
    {files : DynamicFiles}
    {event : RunEvent}
    (kept : Kept mirrors files event)
    (more : List RunEvent) :
    Kept mirrors { files with mirror := files.mirror ++ more } event :=
  ⟨kept.canonical, fun mirrored => (kept.mirror mirrored).append more⟩

theorem syncEvents_append
    (files : DynamicFiles)
    (snapshot : DynamicSnapshot)
    (first second : List RunEvent) :
    syncEvents files snapshot (first ++ second) =
      Performed.andThen (syncEvents files snapshot first) fun writes =>
        syncEvents (writeAll files writes) snapshot second := by
  induction first generalizing files with
  | nil =>
      simp [syncEvents, Performed.andThen]
  | cons event first inductionHypothesis =>
      simp only [List.cons_append, syncEvents, inductionHypothesis]
      cases passed : (appendEvent files event snapshot).result with
      | error raised =>
          simp [Performed.andThen, passed]
      | ok =>
          rw [andThen_of_ok passed, andThen_of_ok passed]
          cases later : (syncEvents
              (writeAll files (appendEvent files event snapshot).writes)
              snapshot first).result with
          | error raised =>
              simp [Performed.andThen, later]
          | ok =>
              simp [Performed.andThen, later, writeAll_append]

/-- Events that both logs hold are not written again. -/
theorem syncEvents_of_kept
    (snapshot : DynamicSnapshot)
    {files : DynamicFiles}
    {events : List RunEvent}
    (kept : ∀ event ∈ events, Kept (hasWorkspace snapshot) files event) :
    syncEvents files snapshot events = ⟨[], .ok ()⟩ := by
  induction events with
  | nil =>
      rfl
  | cons event events inductionHypothesis =>
      rw [List.forall_mem_cons] at kept
      simp [syncEvents, appendEvent_of_kept kept.1, Performed.andThen,
        inductionHypothesis kept.2]

/-- Replaying known events writes to the mirror only, and both logs hold them. -/
theorem syncEvents_of_mem
    {files : DynamicFiles}
    {snapshot : DynamicSnapshot}
    {events : List RunEvent}
    (members : ∀ event ∈ events, event ∈ files.canonical)
    (passed : (syncEvents files snapshot events).result = .ok ()) :
    (∀ single ∈ (syncEvents files snapshot events).writes,
        ∃ event, single = .mirror event) ∧
      ∀ event ∈ events,
        Kept (hasWorkspace snapshot)
          (writeAll files (syncEvents files snapshot events).writes) event := by
  induction events generalizing files with
  | nil =>
      exact ⟨by simp [syncEvents], by simp⟩
  | cons event events inductionHypothesis =>
      rw [List.forall_mem_cons] at members
      have first : (appendEvent files event snapshot).result = .ok () := by
        cases ended : (appendEvent files event snapshot).result with
        | ok =>
            rfl
        | error raised =>
            simp [syncEvents, Performed.andThen, ended] at passed
      obtain ⟨mirrorOnly, kept⟩ := appendEvent_of_mem members.1 first
      simp only [syncEvents, andThen_of_ok first] at passed ⊢
      obtain ⟨more, written⟩ := writeAll_mirror files
        fun single member => ⟨event, mirrorOnly single member⟩
      have later : ∀ other ∈ events,
          other ∈ (writeAll files
            (appendEvent files event snapshot).writes).canonical := by
        intro other member
        rw [written]
        exact members.2 other member
      obtain ⟨laterMirror, laterKept⟩ := inductionHypothesis later passed
      refine ⟨?_, ?_⟩
      · intro single member
        rcases List.mem_append.mp member with here | there
        · exact ⟨event, mirrorOnly single here⟩
        · exact laterMirror single there
      · rw [writeAll_append]
        obtain ⟨moreLater, writtenLater⟩ := writeAll_mirror
          (writeAll files (appendEvent files event snapshot).writes) laterMirror
        rw [List.forall_mem_cons]
        refine ⟨?_, laterKept⟩
        rw [writtenLater]
        exact kept.mirror_append moreLater

/-! ## The first recovery -/

/-- Files in which the canonical log already ends with the interrupt event. -/
structure Resumable
    (events : List RunEvent)
    (event : RunEvent)
    (snapshot : DynamicSnapshot)
    (files : DynamicFiles) : Prop where
  canonical : files.canonical = events ++ [event]
  kept : ∀ earlier ∈ events, Kept (hasWorkspace snapshot) files earlier
  accepted :
    hasWorkspace snapshot = true → (appendMirror files event).result = .ok ()
  saved : files.snapshot = some snapshot

theorem result_of_andThen
    {first : Performed}
    {second : List DiskWrite → Performed}
    (passed : (Performed.andThen first second).result = .ok ()) :
    first.result = .ok () ∧ (second first.writes).result = .ok () := by
  cases ended : first.result with
  | error raised =>
      simp [Performed.andThen, ended] at passed
  | ok =>
      rw [andThen_of_ok ended] at passed
      exact ⟨rfl, passed⟩

/--
What the replay of a log writes when it ends with a new event: mirror events,
the new event, and perhaps its copy in the mirror. From the new event on the
files are resumable.
-/
theorem syncEvents_new
    {files : DynamicFiles}
    {event : RunEvent}
    {snapshot interrupted : DynamicSnapshot}
    (saved : files.snapshot = some snapshot)
    (workspace : hasWorkspace interrupted = hasWorkspace snapshot)
    (new : eventForAppend files.canonical event false = .ok none)
    (passed :
      (syncEvents files interrupted (files.canonical ++ [event])).result =
        .ok ()) :
    ∃ known last,
      (syncEvents files interrupted (files.canonical ++ [event])).writes =
          known ++ .canonical event :: last ∧
        (∀ single ∈ known, ∃ mirrored, single = .mirror mirrored) ∧
        (∀ single ∈ last, ∃ mirrored, single = .mirror mirrored) ∧
        ∀ part, part <+: last →
          Resumable files.canonical event snapshot
            (writeAll files (known ++ .canonical event :: part)) := by
  rw [syncEvents_append] at passed ⊢
  obtain ⟨knownPassed, newPassed⟩ := result_of_andThen passed
  obtain ⟨knownMirror, kept⟩ := syncEvents_of_mem (fun _ => id) knownPassed
  obtain ⟨more, written⟩ := writeAll_mirror files knownMirror
  rw [andThen_of_ok knownPassed]
  rw [written] at newPassed kept ⊢
  have canonical : appendCanonical
      { files with mirror := files.mirror ++ more } event =
        ⟨[.canonical event], .ok ()⟩ := by
    simp [appendCanonical, new]
  obtain ⟨appended, _⟩ := result_of_andThen newPassed
  have keptNow : ∀ earlier ∈ files.canonical, ∀ mirror,
      (files.mirror ++ more) <+: mirror →
        Kept (hasWorkspace snapshot)
          ⟨files.canonical ++ [event], mirror, files.snapshot⟩ earlier := by
    rintro earlier member _ ⟨further, rfl⟩
    rw [← workspace]
    have before := kept earlier member
    exact ⟨before.canonical.append [event],
      fun mirrored => (before.mirror mirrored).append further⟩
  refine ⟨(syncEvents files interrupted files.canonical).writes, ?_⟩
  have start : ∀ part, writeAll files
      ((syncEvents files interrupted files.canonical).writes ++
        .canonical event :: part) =
      writeAll ⟨files.canonical ++ [event], files.mirror ++ more,
        files.snapshot⟩ part := by
    intro part
    rw [writeAll_append, written]
    rfl
  cases mirrors : hasWorkspace interrupted with
  | false =>
      refine ⟨[], ?_, knownMirror, by simp, ?_⟩
      · simp [syncEvents, appendEvent, canonical, Performed.andThen, mirrors]
      · intro part nothing
        rw [List.prefix_nil.mp nothing, start]
        refine ⟨rfl, fun earlier member =>
          keptNow earlier member _ List.prefix_rfl, ?_, saved⟩
        intro workspaceNow
        rw [← workspace, mirrors] at workspaceNow
        cases workspaceNow
  | true =>
      have mirrorPassed : (appendMirror
          ⟨files.canonical ++ [event], files.mirror ++ more, files.snapshot⟩
          event).result = .ok () := by
        simp only [appendEvent, canonical, Performed.andThen, mirrors, if_true]
          at appended
        exact appended
      rcases appendMirror_cases
        ⟨files.canonical ++ [event], files.mirror ++ more, files.snapshot⟩
        event with ⟨raised, failed⟩ | ⟨silent, held⟩ | ⟨mirrorWritten, held⟩
      · rw [failed] at mirrorPassed
        cases mirrorPassed
      · refine ⟨[], ?_, knownMirror, by simp, ?_⟩
        · simp [syncEvents, appendEvent, canonical, Performed.andThen, mirrors,
            write, silent]
        · intro part nothing
          rw [List.prefix_nil.mp nothing, start]
          exact ⟨rfl, fun earlier member =>
            keptNow earlier member _ List.prefix_rfl, fun _ => mirrorPassed,
            saved⟩
      · refine ⟨[.mirror event], ?_, knownMirror, by simp, ?_⟩
        · simp [syncEvents, appendEvent, canonical, Performed.andThen, mirrors,
            write, mirrorWritten]
        · intro part isPart
          rw [start]
          rcases List.prefix_cons_iff.mp isPart with rfl | ⟨rest, rfl, nothing⟩
          · exact ⟨rfl, fun earlier member =>
              keptNow earlier member _ List.prefix_rfl, fun _ => mirrorPassed,
              saved⟩
          · rw [List.prefix_nil.mp nothing]
            refine ⟨rfl, fun earlier member =>
              keptNow earlier member _ (List.prefix_append _ _), ?_, saved⟩
            intro _
            obtain ⟨persisted, found⟩ := held
            simp only [appendMirror, writeAll_cons, writeAll_nil, write, found]

/-! ## The second recovery -/

/-- The interrupt event is new to the log that it was made for. -/
theorem eventForAppend_of_interrupt
    (clock : Clock)
    (runId : PyStr)
    (events : List RunEvent) :
    eventForAppend events (interruptEvent clock runId events) false =
      .ok none :=
  eventForAppend_of_later (Nat.succ_pos _)
    (fun _ member => Nat.lt_succ_of_le (le_maxSeq member)) false

section Interruption

variable {events : List RunEvent} {snapshot : DynamicSnapshot}

/-- The recovery that finds the interrupt event in the log accepts it. -/
theorem terminalEventForRecovery_interrupt
    (clock : Clock)
    (runId : PyStr)
    (goesOn : ∀ event ∈ events, event.isTerminal = false) :
    terminalEventForRecovery runId
        (events ++ [interruptEvent clock runId events]) =
      .ok (some (interruptEvent clock runId events, .interrupted,
        clock.moment.val.timestamp 0)) := by
  have earlier : terminalCandidates events = [] := by
    unfold terminalCandidates
    rw [List.filterMap_eq_nil_iff]
    intro event member
    have notEnd := goesOn event member
    unfold RunEvent.isTerminal at notEnd
    cases ends : terminalEventStatus event.eventType with
    | none =>
        rfl
    | some status =>
        rw [ends] at notEnd
        cases notEnd
  have ends : terminalEventStatus (PyStr.ofString "interrupt_dynamic_run") =
      some .interrupted := by decide
  have candidates :
      terminalCandidates (events ++ [interruptEvent clock runId events]) =
        [(interruptEvent clock runId events, .interrupted)] := by
    rw [terminalCandidates] at earlier ⊢
    rw [List.filterMap_append, earlier]
    simp [interruptEvent, ends]
  have last : DynamicSnapshot.maxSeq
      (events ++ [interruptEvent clock runId events]) =
        (interruptEvent clock runId events).seq := by
    apply Nat.le_antisymm
    · apply maxSeq_le
      intro event member
      rcases List.mem_append.mp member with before | new
      · exact Nat.le_succ_of_le (le_maxSeq before)
      · rw [List.mem_singleton.mp new]
    · exact le_maxSeq (List.mem_append_right _ (List.mem_singleton_self _))
  have named : (PyDict.get (interruptEvent clock runId events).data "run_id") =
      .str runId := rfl
  have stated :
      (PyDict.get (interruptEvent clock runId events).data "run_status") =
        .str RunStatus.interrupted.text := rfl
  simp only [terminalEventForRecovery, candidates, named, stated, last,
    PyVal.pyEq]
  simp [interruptEvent, DateTime.isoFormat_nonempty, aware?_isoFormat]

theorem countP_interrupts
    (clock : Clock)
    (runId : PyStr)
    (goesOn : ∀ event ∈ events, event.isTerminal = false) :
    (events ++ [interruptEvent clock runId events]).countP
      RunEvent.interrupts = 1 := by
  have earlier : events.countP RunEvent.interrupts = 0 := by
    rw [List.countP_eq_zero]
    intro event member interrupts
    have kind : event.eventType = PyStr.ofString "interrupt_dynamic_run" := by
      simpa [RunEvent.interrupts] using interrupts
    have notEnd := goesOn event member
    rw [RunEvent.isTerminal, kind] at notEnd
    revert notEnd
    decide
  rw [List.countP_append, earlier]
  rfl

/-- The snapshot that the second recovery makes of the interrupt event. -/
def resumedSnapshot
    (str : PyVal → PyStr)
    (clock : Clock)
    (snapshot : DynamicSnapshot)
    (events : List RunEvent) :
    DynamicSnapshot :=
  snapshot.applyTerminalEvent str
    (interruptEvent clock snapshot.runId events) .interrupted
    (events ++ [interruptEvent clock snapshot.runId events])
    (clock.moment.val.timestamp 0)

/-- The second recovery applies the interrupt event of the first one. -/
theorem interrupted_of_resumable
    (str : PyVal → PyStr)
    (first second : Clock)
    {files : DynamicFiles}
    (active : isActive snapshot = true)
    (goesOn : ∀ event ∈ events, event.isTerminal = false)
    (resumable :
      Resumable events (interruptEvent first snapshot.runId events) snapshot
        files) :
    Interrupted str second files
      (resumedSnapshot str first snapshot events) := by
  obtain ⟨runId, _, fileContext⟩ := DynamicSnapshot.applyTerminalEvent_frame str
    snapshot (interruptEvent first snapshot.runId events) .interrupted
    (events ++ [interruptEvent first snapshot.runId events])
    (first.moment.val.timestamp 0)
  have workspace : hasWorkspace (resumedSnapshot str first snapshot events) =
      hasWorkspace snapshot := by
    simp only [hasWorkspace, resumedSnapshot, runId, fileContext]
  have recovery : recoverRun str second files =
      Performed.andThen
        (syncEvents files (resumedSnapshot str first snapshot events)
          (events ++ [interruptEvent first snapshot.runId events]))
        fun _ =>
          ⟨[.snapshot (resumedSnapshot str first snapshot events)],
            .ok ()⟩ := by
    simp only [recoverRun, resumable.saved, active, if_true, resumable.canonical,
      terminalEventForRecovery_interrupt first snapshot.runId goesOn]
    rfl
  have passed : (syncEvents files (resumedSnapshot str first snapshot events)
      (events ++ [interruptEvent first snapshot.runId events])).result =
        .ok () := by
    have known := syncEvents_of_kept (resumedSnapshot str first snapshot events)
      (workspace ▸ resumable.kept)
    have new := eventForAppend_of_interrupt first snapshot.runId events
    obtain ⟨persisted, found⟩ := holds_appended new
    have canonical : appendCanonical files
        (interruptEvent first snapshot.runId events) = ⟨[], .ok ()⟩ := by
      simp only [appendCanonical, resumable.canonical, found]
    have last : (appendEvent files (interruptEvent first snapshot.runId events)
        (resumedSnapshot str first snapshot events)).result = .ok () := by
      simp only [appendEvent, canonical, Performed.andThen, workspace]
      split
      · rename_i mirrors
        exact resumable.accepted mirrors
      · rfl
    rw [syncEvents_append, known]
    simp [Performed.andThen, syncEvents, last]
  have members : ∀ event ∈ events ++
      [interruptEvent first snapshot.runId events], event ∈ files.canonical := by
    rw [resumable.canonical]
    exact fun _ => id
  obtain ⟨mirrorOnly, _⟩ := syncEvents_of_mem members passed
  obtain ⟨more, written⟩ := writeAll_mirror files mirrorOnly
  rw [andThen_of_ok passed] at recovery
  refine ⟨by rw [recovery], ?_, ?_⟩
  · rw [recovery, writeAll_append, written]
    rfl
  · rw [recovery, writeAll_append, written]
    change files.canonical.countP RunEvent.interrupts = 1
    rw [resumable.canonical]
    exact countP_interrupts first snapshot.runId goesOn

/-! ## Comparing the two ways -/

/-- The snapshot of an interruption in one go. -/
def directSnapshot
    (clock : Clock)
    (snapshot : DynamicSnapshot)
    (events : List RunEvent) :
    DynamicSnapshot :=
  { interruptSnapshot clock snapshot with
    eventCount :=
      (events ++ [interruptEvent clock snapshot.runId events]).length
    lastEventSeq :=
      DynamicSnapshot.maxSeq
        (events ++ [interruptEvent clock snapshot.runId events]) }

theorem failureReason_failSnapshotTasks
    (snapshot : DynamicSnapshot)
    (taskIds : List TaskId)
    (error : PyVal)
    (finishedTime : Time) :
    (snapshot.failSnapshotTasks taskIds error finishedTime).failureReason =
      snapshot.failureReason := by
  unfold DynamicSnapshot.failSnapshotTasks
  split
  · rfl
  · rfl

theorem failureReason_resumedSnapshot
    (str : PyVal → PyStr)
    (clock : Clock)
    (snapshot : DynamicSnapshot)
    (events : List RunEvent) :
    (resumedSnapshot str clock snapshot events).failureReason =
      .str restartReason := by
  change (DynamicSnapshot.failSnapshotTasks _ _ _ _).failureReason = _
  rw [failureReason_failSnapshotTasks]
  rfl

/-- Without active tasks only the failure reason may differ. -/
theorem timeless_resumedSnapshot
    (str : PyVal → PyStr)
    (first : Clock)
    (nothing : NothingLeft snapshot) :
    (resumedSnapshot str first snapshot events).timeless =
      (directSnapshot first snapshot events).timeless := by
  have idle := nothing.idle
  have reason := nothing.reason
  unfold resumedSnapshot DynamicSnapshot.applyTerminalEvent
    DynamicSnapshot.applyStatus
  simp only [DynamicSnapshot.failSnapshotTasks]
  simp only [DynamicSnapshot.activeTaskIds] at idle
  simp [DynamicSnapshot.activeTaskIds, idle, DynamicSnapshot.timeless,
    directSnapshot, interruptSnapshot, reason]
  rfl

/-- Where a recovery can crash between the interrupt event and the snapshot. -/
theorem crashPoint_cases
    {done known last : List DiskWrite}
    {event : RunEvent}
    {saved : DynamicSnapshot}
    (mirrors : ∀ single ∈ known, ∃ mirrored, single = .mirror mirrored)
    (isPart :
      done <+: known ++ .canonical event :: last ++ [.snapshot saved])
    (crash : CrashPoint done) :
    ∃ part, part <+: last ∧ done = known ++ .canonical event :: part := by
  have unsaved : done <+: known ++ .canonical event :: last := by
    rcases List.prefix_concat_iff.mp isPart with whole | before
    · exact absurd (by simp [whole]) (crash.unsaved saved)
    · exact before
  rcases List.prefix_or_prefix_of_prefix unsaved
    (List.prefix_append known (.canonical event :: last)) with inKnown | ⟨rest, rfl⟩
  · obtain ⟨appended, member, _⟩ := crash.appended
    obtain ⟨mirrored, same⟩ := mirrors _ (inKnown.subset member)
    cases same
  · rw [List.prefix_append_right_inj] at unsaved
    rcases List.prefix_cons_iff.mp unsaved with rfl | ⟨part, rfl, isLast⟩
    · obtain ⟨appended, member, _⟩ := crash.appended
      rw [List.append_nil] at member
      obtain ⟨mirrored, same⟩ := mirrors _ member
      cases same
    · exact ⟨part, isLast, rfl⟩

/-- The writes of a recovery that interrupts a run in one go. -/
theorem recoverRun_interrupts
    (str : PyVal → PyStr)
    (first : Clock)
    {files : DynamicFiles}
    (saved : files.snapshot = some snapshot)
    (active : isActive snapshot = true)
    (goesOn : ∀ event ∈ files.canonical, event.isTerminal = false)
    (returned : (recoverRun str first files).result = .ok ()) :
    ∃ known last,
      (recoverRun str first files).writes =
          known ++ .canonical
            (interruptEvent first snapshot.runId files.canonical) :: last ++
            [.snapshot (directSnapshot first snapshot files.canonical)] ∧
        (∀ single ∈ known, ∃ mirrored, single = .mirror mirrored) ∧
        (∀ single ∈ last, ∃ mirrored, single = .mirror mirrored) ∧
        ∀ part, part <+: last →
          Resumable files.canonical
            (interruptEvent first snapshot.runId files.canonical) snapshot
            (writeAll files (known ++ .canonical
              (interruptEvent first snapshot.runId files.canonical) ::
                part)) := by
  have none : terminalEventForRecovery snapshot.runId files.canonical =
      .ok none := by
    have noCandidates : terminalCandidates files.canonical = [] := by
      rw [terminalCandidates, List.filterMap_eq_nil_iff]
      intro event member
      have notEnd := goesOn event member
      simp only [RunEvent.isTerminal, Option.isSome_eq_false_iff,
        Option.isNone_iff_eq_none] at notEnd
      simp [notEnd]
    simp [terminalEventForRecovery, noCandidates]
  have recovery : recoverRun str first files =
      interruptRun first files snapshot := by
    simp only [recoverRun, saved, active, none, if_true]
  rw [recovery, interruptRun_of_goesOn first snapshot goesOn] at returned ⊢
  obtain ⟨passed, _⟩ := result_of_andThen returned
  have workspace : hasWorkspace (interruptSnapshot first snapshot) =
      hasWorkspace snapshot := rfl
  obtain ⟨known, last, written, knownMirror, lastMirror, resumable⟩ :=
    syncEvents_new saved workspace
      (eventForAppend_of_interrupt first snapshot.runId files.canonical) passed
  refine ⟨known, last, ?_, knownMirror, lastMirror, resumable⟩
  have persisted := (resumable last List.prefix_rfl).canonical
  rw [andThen_of_ok passed, written, persisted]
  rfl

end Interruption

theorem restart_isValid :
    (⟨2026, 1, 1, 0, 0, 0, 0⟩ : DateTime).isValid = true := by
  decide

/-- The clock of the recoveries below. -/
def restartClock : Clock :=
  ⟨1, ⟨⟨2026, 1, 1, 0, 0, 0, 0⟩, restart_isValid⟩⟩

/-- The files of a run. -/
def filesOf (run : DynamicRun) : DynamicFiles :=
  ⟨[], [], some run.snapshot⟩

/-- A run that has no task yet. -/
def emptyRun : DynamicRun :=
  .new "run" 100 none .null 0

/-- A run with a task that has been started. -/
def startedRun : DynamicRun :=
  (emptyRun.addTask ⟨"task", "task", none, [], none⟩ 0).markStarted "task" 0

end DynamicRunStore

end Maze.Core
