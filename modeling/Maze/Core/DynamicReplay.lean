import Maze.Core.DynamicRunStore

namespace Maze.Core

open Maze.Python

/-!
# Recovery from the files of a run

`recover_interrupted_runs` reads the canonical log of every active run, checks
the event that ended it, replays the log into the mirror and saves the snapshot.
The module states what the files have to look like for that to succeed, and that
the recovered snapshot then agrees with the log.
-/

/-- The event is one of `TERMINAL_DYNAMIC_EVENT_STATUSES`. -/
def RunEvent.isTerminal (event : RunEvent) : Bool :=
  (terminalEventStatus event.eventType).isSome

namespace DynamicRunStore

/-- A terminal event that passes the checks of `_terminal_event_for_recovery`. -/
def Acceptable
    (runId : PyStr)
    (event : RunEvent) : Prop :=
  ∀ status, terminalEventStatus event.eventType = some status →
    event.data.get "run_id" = .str runId ∧
      event.data.get "run_status" = .str status.text ∧
      ∃ moment : Instant, event.timestamp = moment.val.isoFormat

/-- Files from which a run can be recovered. -/
structure Sound
    (runId : PyStr)
    (files : DynamicFiles) : Prop where
  increasing :
    files.canonical.Pairwise fun first second => first.seq < second.seq
  positive : ∀ event ∈ files.canonical, 0 < event.seq
  mirrored : files.mirror <+: files.canonical
  acceptable : ∀ event ∈ files.canonical, Acceptable runId event
  terminalLast :
    ∀ terminal ∈ files.canonical, terminal.isTerminal = true →
      ∀ event ∈ files.canonical, event.seq ≤ terminal.seq
  named : ∀ snapshot, files.snapshot = some snapshot → snapshot.runId = runId

/-! ## Looking an event up in a log -/

theorem le_lastSequence
    {log : List RunEvent}
    (increasing : log.Pairwise fun first second => first.seq < second.seq)
    {event : RunEvent}
    (member : event ∈ log) :
    event.seq ≤ lastSequence log := by
  induction log generalizing event with
  | nil =>
      cases member
  | cons head rest inductionHypothesis =>
      rw [List.pairwise_cons] at increasing
      obtain ⟨below, increasing⟩ := increasing
      cases rest with
      | nil =>
          obtain rfl := List.mem_singleton.mp member
          exact Nat.le_refl _
      | cons next rest =>
          have last : lastSequence (head :: next :: rest) =
              lastSequence (next :: rest) := by
            simp [lastSequence]
          rw [last]
          rcases List.mem_cons.mp member with rfl | later
          · have nextLast := inductionHypothesis increasing List.mem_cons_self
            have before := below next List.mem_cons_self
            exact Nat.le_trans (Nat.le_of_lt before) nextLast
          · exact inductionHypothesis increasing later

/-- In an increasing log the events are told apart by their numbers. -/
theorem eq_of_seq_eq
    {log : List RunEvent}
    (increasing : log.Pairwise fun first second => first.seq < second.seq)
    {first second : RunEvent}
    (firstMember : first ∈ log)
    (secondMember : second ∈ log)
    (sameSeq : first.seq = second.seq) :
    first = second := by
  induction log with
  | nil =>
      cases firstMember
  | cons head rest inductionHypothesis =>
      rw [List.pairwise_cons] at increasing
      obtain ⟨below, increasing⟩ := increasing
      rcases List.mem_cons.mp firstMember with rfl | firstLater
      · rcases List.mem_cons.mp secondMember with rfl | secondLater
        · rfl
        · have := below second secondLater
          omega
      · rcases List.mem_cons.mp secondMember with rfl | secondLater
        · have := below first firstLater
          omega
        · exact inductionHypothesis increasing firstLater secondLater

theorem sameJson_self
    (ignoreTimestamp : Bool)
    (event : RunEvent) :
    event.sameJson ignoreTimestamp event = true := by
  simp [RunEvent.sameJson]

/-- An event that is in the log is found there. -/
theorem eventForAppend_of_mem
    {log : List RunEvent}
    (increasing : log.Pairwise fun first second => first.seq < second.seq)
    {event : RunEvent}
    (member : event ∈ log)
    (ignoreTimestamp : Bool) :
    eventForAppend log event ignoreTimestamp = .ok (some event) := by
  have found : log.find? (fun candidate => candidate.seq = event.seq) =
      some event := by
    cases found : log.find? fun candidate => candidate.seq = event.seq with
    | none =>
        have none := List.find?_eq_none.mp found event member
        simp at none
    | some candidate =>
        have sameSeq : candidate.seq = event.seq := by
          simpa using List.find?_some found
        have candidateMember := List.mem_of_find?_eq_some found
        rw [eq_of_seq_eq increasing candidateMember member sameSeq]
  simp [eventForAppend, found, sameJson_self]

/-- An event behind all others is appended. -/
theorem eventForAppend_of_later
    {log : List RunEvent}
    {event : RunEvent}
    (positive : 0 < event.seq)
    (later : ∀ earlier ∈ log, earlier.seq < event.seq)
    (ignoreTimestamp : Bool) :
    eventForAppend log event ignoreTimestamp = .ok none := by
  have found : log.find? (fun candidate => candidate.seq = event.seq) =
      none := by
    rw [List.find?_eq_none]
    intro candidate member
    have before := later candidate member
    simpa using Nat.ne_of_lt before
  have above : lastSequence log < event.seq := by
    unfold lastSequence
    cases last : log.getLast? with
    | none =>
        exact positive
    | some earlier =>
        exact later earlier (List.mem_of_getLast? last)
  simp [eventForAppend, found, above]

/-- What is appended is behind all others. -/
theorem later_of_eventForAppend
    {log : List RunEvent}
    (increasing : log.Pairwise fun first second => first.seq < second.seq)
    {event : RunEvent}
    {ignoreTimestamp : Bool}
    (absent : eventForAppend log event ignoreTimestamp = .ok none) :
    ∀ earlier ∈ log, earlier.seq < event.seq := by
  unfold eventForAppend at absent
  split at absent
  · split at absent
    · cases absent
    · split at absent <;> cases absent
  · split at absent
    · cases absent
    · rename_i above
      intro earlier member
      have below := le_lastSequence increasing member
      omega

/-- What is found is in the log and holds the same JSON. -/
theorem mem_of_eventForAppend
    {log : List RunEvent}
    {event persisted : RunEvent}
    {ignoreTimestamp : Bool}
    (found : eventForAppend log event ignoreTimestamp = .ok (some persisted)) :
    persisted ∈ log ∧ persisted.seq = event.seq ∧
      persisted.sameJson ignoreTimestamp event = true := by
  unfold eventForAppend at found
  split at found
  · rename_i candidate located
    split at found
    · rename_i same
      obtain rfl : candidate = persisted := by simpa using found
      have sameSeq : candidate.seq = event.seq := by
        simpa using List.find?_some located
      exact ⟨List.mem_of_find?_eq_some located, sameSeq, same⟩
    · split at found <;> cases found
  · split at found <;> cases found

/-! ## Replaying a log -/

@[simp] theorem writeAll_nil (files : DynamicFiles) :
    writeAll files [] = files := rfl

@[simp] theorem writeAll_cons
    (files : DynamicFiles)
    (first : DiskWrite)
    (writes : List DiskWrite) :
    writeAll files (first :: writes) = writeAll (write files first) writes := rfl

theorem writeAll_append
    (files : DynamicFiles)
    (first second : List DiskWrite) :
    writeAll files (first ++ second) =
      writeAll (writeAll files first) second := by
  simp [writeAll]

/-- A call that went through is followed by the next one. -/
theorem andThen_of_ok
    {first : Performed}
    (passed : first.result = .ok ())
    (second : List DiskWrite → Performed) :
    Performed.andThen first second =
      ⟨first.writes ++ (second first.writes).writes,
        (second first.writes).result⟩ := by
  simp [Performed.andThen, passed]

/--
The next event of a log that is being replayed: a log that reaches at least to
it holds it already, otherwise it is appended.
-/
theorem replay_cases
    {whole log replayed rest : List RunEvent}
    {event : RunEvent}
    (increasing : whole.Pairwise fun first second => first.seq < second.seq)
    (positive : ∀ event ∈ whole, 0 < event.seq)
    (split : whole = replayed ++ event :: rest)
    (part : log <+: whole)
    (reached : replayed <+: log) :
    (eventForAppend log event false = .ok (some event) ∧
        replayed ++ [event] <+: log) ∨
      (eventForAppend log event false = .ok none ∧ log = replayed) := by
  obtain ⟨more, rfl⟩ := reached
  have logIncreasing := increasing.sublist part.sublist
  have member : event ∈ whole := by simp [split]
  cases more with
  | nil =>
      rw [List.append_nil] at *
      rw [split, List.pairwise_append] at increasing
      obtain ⟨_, _, before⟩ := increasing
      have later : ∀ earlier ∈ replayed, earlier.seq < event.seq :=
        fun earlier earlierMember =>
          before earlier earlierMember event List.mem_cons_self
      exact .inr
        ⟨eventForAppend_of_later (positive event member) later false, rfl⟩
  | cons next more =>
      obtain ⟨ending, whole_eq⟩ := part
      have same : next :: (more ++ ending) = event :: rest := by
        rw [split, List.append_assoc] at whole_eq
        simpa using whole_eq
      obtain ⟨rfl, _⟩ := List.cons.inj same
      refine .inl ⟨eventForAppend_of_mem logIncreasing (by simp) false, ?_⟩
      exact ⟨more, by simp⟩

/-- How far a replay has come. -/
structure Replaying
    (whole replayed : List RunEvent)
    (mirrors : Bool)
    (files : DynamicFiles) : Prop where
  canonical : files.canonical <+: whole
  mirrored : files.mirror <+: files.canonical
  inCanonical : replayed <+: files.canonical
  inMirror : mirrors = true → replayed <+: files.mirror

/-- Replaying one event succeeds and only writes that event. -/
theorem appendEvent_replay
    {whole replayed rest : List RunEvent}
    {event : RunEvent}
    {files : DynamicFiles}
    {snapshot : DynamicSnapshot}
    (increasing : whole.Pairwise fun first second => first.seq < second.seq)
    (positive : ∀ event ∈ whole, 0 < event.seq)
    (split : whole = replayed ++ event :: rest)
    (replaying : Replaying whole replayed (hasWorkspace snapshot) files) :
    (appendEvent files event snapshot).result = .ok () ∧
      (writeAll files (appendEvent files event snapshot).writes).snapshot =
        files.snapshot ∧
      Replaying whole (replayed ++ [event]) (hasWorkspace snapshot)
        (writeAll files (appendEvent files event snapshot).writes) := by
  have reachedEvent : replayed ++ [event] <+: whole :=
    ⟨rest, by simp [split]⟩
  have mirrorPart := replaying.mirrored.trans replaying.canonical
  -- the canonical log first
  have canonicalStep :
      (appendCanonical files event).result = .ok () ∧
        ∃ canonical,
          writeAll files (appendCanonical files event).writes =
              { files with canonical := canonical } ∧
            canonical <+: whole ∧ files.canonical <+: canonical ∧
            replayed ++ [event] <+: canonical := by
    rcases replay_cases increasing positive split replaying.canonical
      replaying.inCanonical with ⟨found, reached⟩ | ⟨absent, same⟩
    · simp only [appendCanonical, found]
      exact ⟨trivial, files.canonical, rfl, replaying.canonical, List.prefix_rfl,
        reached⟩
    · simp only [appendCanonical, absent]
      refine ⟨trivial, files.canonical ++ [event], rfl, ?_, List.prefix_append _ _, ?_⟩
      · rw [same]
        exact reachedEvent
      · rw [same]
  obtain ⟨passed, canonical, written, part, longer, reached⟩ := canonicalStep
  have mirrored := replaying.mirrored.trans longer
  cases mirrors : hasWorkspace snapshot with
  | false =>
      simp only [appendEvent, andThen_of_ok passed, mirrors, writeAll_append,
        written]
      refine ⟨rfl, rfl, part, mirrored, reached, ?_⟩
      intro absurd
      cases absurd
  | true =>
      simp only [appendEvent, andThen_of_ok passed, mirrors, writeAll_append,
        written, if_true]
      rcases replay_cases increasing positive split mirrorPart
        (replaying.inMirror mirrors) with ⟨found, inMirror⟩ | ⟨absent, same⟩
      · simp only [appendMirror, found]
        exact ⟨trivial, rfl, part, mirrored, reached, fun _ => inMirror⟩
      · simp only [appendMirror, absent]
        refine ⟨trivial, rfl, part, ?_, reached, fun _ => ?_⟩
        · change files.mirror ++ [event] <+: canonical
          rw [same]
          exact reached
        · change replayed ++ [event] <+: files.mirror ++ [event]
          rw [same]

/-- A log whose replay has begun can be replayed to its end. -/
theorem syncEvents_replay
    (snapshot : DynamicSnapshot)
    {whole : List RunEvent}
    (increasing : whole.Pairwise fun first second => first.seq < second.seq)
    (positive : ∀ event ∈ whole, 0 < event.seq)
    {replayed rest : List RunEvent}
    {files : DynamicFiles}
    (split : whole = replayed ++ rest)
    (replaying : Replaying whole replayed (hasWorkspace snapshot) files) :
    (syncEvents files snapshot rest).result = .ok () ∧
      (writeAll files (syncEvents files snapshot rest).writes).snapshot =
        files.snapshot ∧
      Replaying whole whole (hasWorkspace snapshot)
        (writeAll files (syncEvents files snapshot rest).writes) := by
  induction rest generalizing replayed files with
  | nil =>
      rw [List.append_nil] at split
      subst split
      exact ⟨rfl, rfl, replaying⟩
  | cons event rest inductionHypothesis =>
      obtain ⟨passed, kept, further⟩ :=
        appendEvent_replay increasing positive split replaying
      obtain ⟨finished, keptLater, whole_replayed⟩ :=
        inductionHypothesis (by simp [split]) further
      simp only [syncEvents, andThen_of_ok passed, writeAll_append]
      exact ⟨finished, keptLater.trans kept, whole_replayed⟩

/-! ## The event that ended a run -/

theorem le_maxSeq
    {events : List RunEvent}
    {event : RunEvent}
    (member : event ∈ events) :
    event.seq ≤ DynamicSnapshot.maxSeq events := by
  induction events with
  | nil =>
      cases member
  | cons head rest inductionHypothesis =>
      rcases List.mem_cons.mp member with rfl | later
      · exact Nat.le_max_left _ _
      · exact Nat.le_trans (inductionHypothesis later) (Nat.le_max_right _ _)

theorem maxSeq_le
    {events : List RunEvent}
    {bound : Nat}
    (bounded : ∀ event ∈ events, event.seq ≤ bound) :
    DynamicSnapshot.maxSeq events ≤ bound := by
  induction events with
  | nil =>
      exact Nat.zero_le _
  | cons head rest inductionHypothesis =>
      rw [List.forall_mem_cons] at bounded
      exact Nat.max_le.mpr ⟨bounded.1, inductionHypothesis bounded.2⟩

/-- A log whose terminal events are last has at most one of them. -/
theorem terminalCandidates_cases
    {events : List RunEvent}
    (increasing : events.Pairwise fun first second => first.seq < second.seq)
    (terminalLast :
      ∀ terminal ∈ events, terminal.isTerminal = true →
        ∀ event ∈ events, event.seq ≤ terminal.seq) :
    (terminalCandidates events = [] ∧
        ∀ event ∈ events, event.isTerminal = false) ∨
      ∃ event status,
        event ∈ events ∧ terminalEventStatus event.eventType = some status ∧
          terminalCandidates events = [(event, status)] ∧
          ∀ other ∈ events, other.isTerminal = true → other = event := by
  induction events with
  | nil =>
      exact .inl ⟨rfl, by simp⟩
  | cons head rest inductionHypothesis =>
      rw [List.pairwise_cons] at increasing
      obtain ⟨below, increasing⟩ := increasing
      cases ends : terminalEventStatus head.eventType with
      | some status =>
          have headEnds : head.isTerminal = true := by
            simp [RunEvent.isTerminal, ends]
          have alone : rest = [] := by
            rw [List.eq_nil_iff_forall_not_mem]
            intro event member
            have above := below event member
            have last := terminalLast head List.mem_cons_self headEnds event
              (List.mem_cons_of_mem _ member)
            omega
          subst alone
          refine .inr ⟨head, status, List.mem_cons_self, ends, ?_, ?_⟩
          · simp [terminalCandidates, ends]
          · intro other member _
            exact List.mem_singleton.mp member
      | none =>
          have headGoesOn : head.isTerminal = false := by
            simp [RunEvent.isTerminal, ends]
          have skipped : terminalCandidates (head :: rest) =
              terminalCandidates rest := by
            simp [terminalCandidates, ends]
          have restLast :
              ∀ terminal ∈ rest, terminal.isTerminal = true →
                ∀ event ∈ rest, event.seq ≤ terminal.seq :=
            fun terminal member isEnd event eventMember =>
              terminalLast terminal (List.mem_cons_of_mem _ member) isEnd event
                (List.mem_cons_of_mem _ eventMember)
          rw [skipped]
          rcases inductionHypothesis increasing restLast with
            ⟨none, goesOn⟩ | ⟨event, status, member, eventEnds, found, only⟩
          · exact .inl ⟨none, List.forall_mem_cons.mpr ⟨headGoesOn, goesOn⟩⟩
          · refine .inr ⟨event, status, List.mem_cons_of_mem _ member, eventEnds,
              found, ?_⟩
            intro other otherMember otherEnds
            rcases List.mem_cons.mp otherMember with rfl | later
            · rw [headGoesOn] at otherEnds
              cases otherEnds
            · exact only other later otherEnds

theorem aware?_isoFormat (moment : Instant) :
    aware? moment.val.isoFormat = some (moment.val.timestamp 0) := by
  simp [aware?, DateTime.replaceZulu_isoFormat,
    DateTime.fromIsoFormat?_isoFormat moment.val moment.property]

/-- Recovery accepts what a sound log says about the end of the run. -/
theorem terminalEventForRecovery_of_sound
    {runId : PyStr}
    {files : DynamicFiles}
    (sound : Sound runId files) :
    (terminalEventForRecovery runId files.canonical = .ok none ∧
        ∀ event ∈ files.canonical, event.isTerminal = false) ∨
      ∃ event status eventTime,
        terminalEventForRecovery runId files.canonical =
            .ok (some (event, status, eventTime)) ∧
          terminalEventStatus event.eventType = some status ∧
          event ∈ files.canonical ∧
          ∀ other ∈ files.canonical, other.isTerminal = true →
            other = event := by
  rcases terminalCandidates_cases sound.increasing sound.terminalLast with
    ⟨none, goesOn⟩ | ⟨event, status, member, ends, found, only⟩
  · exact .inl ⟨by simp [terminalEventForRecovery, none], goesOn⟩
  · obtain ⟨named, stated, moment, stamped⟩ :=
      sound.acceptable event member status ends
    have isEnd : event.isTerminal = true := by simp [RunEvent.isTerminal, ends]
    have last : event.seq = DynamicSnapshot.maxSeq files.canonical :=
      Nat.le_antisymm (le_maxSeq member)
        (maxSeq_le (sound.terminalLast event member isEnd))
    refine .inr ⟨event, status, moment.val.timestamp 0, ?_, ends, member, only⟩
    simp [terminalEventForRecovery, found, named, stated, PyVal.pyEq, ← last,
      stamped, DateTime.isoFormat_nonempty, aware?_isoFormat]

end DynamicRunStore

namespace DynamicSnapshot

theorem failSnapshotTasks_frame
    (snapshot : DynamicSnapshot)
    (taskIds : List TaskId)
    (error : PyVal)
    (finishedTime : Time) :
    (snapshot.failSnapshotTasks taskIds error finishedTime).runId =
        snapshot.runId ∧
      (snapshot.failSnapshotTasks taskIds error finishedTime).status =
        snapshot.status ∧
      (snapshot.failSnapshotTasks taskIds error finishedTime).fileContext =
        snapshot.fileContext := by
  unfold failSnapshotTasks
  split
  · exact ⟨rfl, rfl, rfl⟩
  · exact ⟨rfl, rfl, rfl⟩

theorem failNamedTask_frame
    (snapshot : DynamicSnapshot)
    (data : PyDict)
    (eventTime : Time) :
    (snapshot.failNamedTask data eventTime).runId = snapshot.runId ∧
      (snapshot.failNamedTask data eventTime).status = snapshot.status ∧
      (snapshot.failNamedTask data eventTime).fileContext =
        snapshot.fileContext := by
  unfold failNamedTask
  split
  · split
    · exact ⟨rfl, rfl, rfl⟩
    · exact failSnapshotTasks_frame _ _ _ _
  · exact ⟨rfl, rfl, rfl⟩

theorem applyStatus_frame
    (str : PyVal → PyStr)
    (snapshot : DynamicSnapshot)
    (data : PyDict)
    (status : RunStatus)
    (eventTime : Time) :
    (snapshot.applyStatus str data status eventTime).runId = snapshot.runId ∧
      (snapshot.applyStatus str data status eventTime).status =
        snapshot.status ∧
      (snapshot.applyStatus str data status eventTime).fileContext =
        snapshot.fileContext := by
  cases status with
  | failed =>
      exact failNamedTask_frame _ _ _
  | timedOut | interrupted =>
      exact failSnapshotTasks_frame _ _ _ _
  | created | running | finalized | canceled =>
      exact ⟨rfl, rfl, rfl⟩

/-- The recovered snapshot has the status that the event stands for. -/
theorem applyTerminalEvent_frame
    (str : PyVal → PyStr)
    (snapshot : DynamicSnapshot)
    (event : RunEvent)
    (status : RunStatus)
    (events : List RunEvent)
    (eventTime : Time) :
    (snapshot.applyTerminalEvent str event status events eventTime).runId =
        snapshot.runId ∧
      (snapshot.applyTerminalEvent str event status events eventTime).status =
        status ∧
      (snapshot.applyTerminalEvent str event status events eventTime).fileContext =
        snapshot.fileContext :=
  applyStatus_frame str _ event.data status eventTime

end DynamicSnapshot

namespace DynamicRunStore

/-- A log that its mirror is a part of is replayed from the start. -/
theorem replaying_nil
    {whole : List RunEvent}
    {files : DynamicFiles}
    (part : files.canonical <+: whole)
    (mirrored : files.mirror <+: files.canonical)
    (mirrors : Bool) :
    Replaying whole [] mirrors files :=
  ⟨part, mirrored, List.nil_prefix, fun _ => List.nil_prefix⟩

/--
What a recovery owes a run: it does not raise, and an active run whose log holds
the event that ended it gets the status that this event carries.
-/
def AgreesWithLog
    (str : PyVal → PyStr)
    (clock : Clock)
    (files recovered : DynamicFiles) : Prop :=
  (recoverRun str clock files).result = .ok () ∧
    writeAll files (recoverRun str clock files).writes = recovered ∧
    ∀ snapshot, files.snapshot = some snapshot → isActive snapshot = true →
      ∀ event ∈ files.canonical, event.isTerminal = true →
        ∃ final,
          recovered.snapshot = some final ∧
            event.data.get "run_status" = .str final.status.text

/-- Without a terminal event a recovery appends its own interrupt event. -/
theorem interruptRun_of_goesOn
    (clock : Clock)
    {files : DynamicFiles}
    (snapshot : DynamicSnapshot)
    (goesOn : ∀ event ∈ files.canonical, event.isTerminal = false) :
    interruptRun clock files snapshot =
      Performed.andThen
        (syncEvents files (interruptSnapshot clock snapshot)
          (files.canonical ++
            [interruptEvent clock snapshot.runId files.canonical]))
        fun writes =>
          ⟨[.snapshot
            { interruptSnapshot clock snapshot with
              eventCount := (writeAll files writes).canonical.length
              lastEventSeq :=
                DynamicSnapshot.maxSeq (writeAll files writes).canonical }],
            .ok ()⟩ := by
  have absent :
      files.canonical.reverse.find?
          (fun event => event.eventType =
            PyStr.ofString "interrupt_dynamic_run") = none := by
    rw [List.find?_eq_none]
    intro event member interrupts
    have kind : event.eventType = PyStr.ofString "interrupt_dynamic_run" := by
      simpa using interrupts
    have notEnd := goesOn event (List.mem_reverse.mp member)
    rw [RunEvent.isTerminal, kind] at notEnd
    revert notEnd
    decide
  have new : interruptEvent clock snapshot.runId files.canonical ∉
      files.canonical := by
    intro member
    have small := le_maxSeq member
    simp [interruptEvent] at small
  simp only [interruptRun, absent, Option.getD_none, if_neg new]

/-- Sound files are recovered, and with the status in their log. -/
theorem agreesWithLog_of_sound
    (str : PyVal → PyStr)
    (clock : Clock)
    {runId : PyStr}
    {files : DynamicFiles}
    (sound : Sound runId files) :
    AgreesWithLog str clock files
      (writeAll files (recoverRun str clock files).writes) := by
  cases saved : files.snapshot with
  | none =>
      simp [AgreesWithLog, recoverRun, saved]
  | some snapshot =>
      have named := sound.named snapshot saved
      cases active : isActive snapshot with
      | false =>
          simp [AgreesWithLog, recoverRun, saved, active]
      | true =>
          rcases terminalEventForRecovery_of_sound sound with
            ⟨none, goesOn⟩ | ⟨event, status, eventTime, found, ends, member, only⟩
          · have recovery : recoverRun str clock files =
                interruptRun clock files snapshot := by
              simp [recoverRun, saved, active, named, none]
            have last : ∀ event ∈ files.canonical, event.seq <
                (interruptEvent clock snapshot.runId files.canonical).seq :=
              fun event member => Nat.lt_succ_of_le (le_maxSeq member)
            have whole : (files.canonical ++
                [interruptEvent clock snapshot.runId files.canonical]).Pairwise
                fun first second => first.seq < second.seq := by
              rw [List.pairwise_append]
              refine ⟨sound.increasing, List.pairwise_singleton _ _, ?_⟩
              intro event member other otherMember
              rw [List.mem_singleton.mp otherMember]
              exact last event member
            have positive : ∀ event ∈ files.canonical ++
                [interruptEvent clock snapshot.runId files.canonical],
                0 < event.seq := by
              intro event member
              rcases List.mem_append.mp member with before | new
              · exact sound.positive event before
              · rw [List.mem_singleton.mp new]
                exact Nat.succ_pos _
            obtain ⟨passed, _⟩ := syncEvents_replay
              (interruptSnapshot clock snapshot) whole positive
              (List.nil_append _).symm
              (replaying_nil (List.prefix_append _ _) sound.mirrored _)
            refine ⟨?_, rfl, ?_⟩
            · rw [recovery, interruptRun_of_goesOn clock snapshot goesOn,
                andThen_of_ok passed]
            · intro other same _ event member isEnd
              rw [goesOn event member] at isEnd
              cases isEnd
          · have recovery : recoverRun str clock files =
                Performed.andThen
                  (syncEvents files
                    (snapshot.applyTerminalEvent str event status
                      files.canonical eventTime)
                    files.canonical)
                  fun _ =>
                    ⟨[.snapshot (snapshot.applyTerminalEvent str event status
                      files.canonical eventTime)], .ok ()⟩ := by
              simp [recoverRun, saved, active, named, found]
            obtain ⟨passed, _⟩ := syncEvents_replay
              (snapshot.applyTerminalEvent str event status
                files.canonical eventTime)
              sound.increasing sound.positive (List.nil_append _).symm
              (replaying_nil List.prefix_rfl sound.mirrored _)
            rw [andThen_of_ok passed] at recovery
            refine ⟨by rw [recovery], rfl, ?_⟩
            intro other same _ ended endedMember isEnd
            obtain rfl := only ended endedMember isEnd
            refine ⟨snapshot.applyTerminalEvent str ended status files.canonical
              eventTime, ?_, ?_⟩
            · rw [recovery, writeAll_append]
              rfl
            · obtain ⟨_, stated, _⟩ := sound.acceptable ended member status ends
              rw [stated, (DynamicSnapshot.applyTerminalEvent_frame str snapshot
                ended status files.canonical eventTime).2.1]

end DynamicRunStore

end Maze.Core
