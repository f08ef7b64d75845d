import Maze.Core.DynamicDispatch
import Maze.Core.StaticDispatch

namespace Maze.Core

open Maze.Python
open Maze.Library.Fallible
open Maze.Library.Transition

/-!
# What Core never does to a run

Whatever messages arrive, in whatever order and however often, Core sends each
task of a run at most once, and a task with predecessors only after all of them
have finished.

A run that has ended is left alone by messages that start, retry or finish a
task and by the deadline. It is not left alone by a request to stop it, by a
continuation of a finished task that has something left to do, and, if it is a
dynamic run, by a second call that finalizes it.
-/

/--
Along every run of Core each task of a static or of a dynamic run is sent at most
once, and after its predecessors have finished.
-/
theorem tasks_sent_once_in_order :
    (∀ rendering primitives submission actions,
      EveryState (StaticCore.step? rendering primitives) StaticCore.SentInOrder
        (StaticCore.submitted submission) actions) ∧
    (∀ render primitives runId maxTasks timeoutSeconds fileContext now actions,
      EveryState (DynamicMonitor.step? render primitives)
        DynamicMonitor.SentInOrder
        (DynamicMonitor.created runId maxTasks timeoutSeconds fileContext now)
        actions) := by
  constructor
  · intro rendering primitives submission actions leading rest reached _ executed
    have sound := run?_invariant
      (fun _ _ _ sound stepped => (StaticCore.step_keeps sound stepped).1)
      (StaticCore.submitted_sound submission) executed
    exact sound.coherent.sentInOrder
  · intro render primitives runId maxTasks timeoutSeconds fileContext now actions
      leading rest reached _ executed
    have orderly := run?_invariant
      (fun _ _ _ orderly stepped => DynamicMonitor.step_orderly orderly stepped)
      (DynamicMonitor.created_orderly runId maxTasks timeoutSeconds fileContext
        now) executed
    exact orderly.sentInOrder

namespace StaticCore

/-! ## A static run that is over -/

/-- The types of the events that end a static run. -/
def endingEventTypes : List PyStr :=
  ["finish_workflow", "task_exception", "cancel_workflow", "timeout_workflow",
    "interrupt_workflow", "workflow_submission_failed"]

/-- The file of a run holds an event that ends it. -/
def EndRecorded (file : EventLog.File) : Prop :=
  ∃ state, EventLog.readState .static file = .ok state ∧
    ∃ entry ∈ state.events, ∃ eventType ∈ endingEventTypes,
      entry.2.get "type" = .ok (.str eventType)

/-- The run is terminal and the event that ends it has been recorded. -/
def Over (process : StaticProcess) : Prop :=
  process.run.isTerminal = true ∧ EndRecorded process.log.file

/-- No task is sent, the status stays, and no event is made or written. -/
structure Quiet (before after : StaticProcess) : Prop where
  sentTasks : after.sentTasks = before.sentTasks
  status : after.run.status = before.run.status
  eventLog : after.run.eventLog = before.run.eventLog
  file : after.log.file = before.log.file

/-- A step leaves a run that is over alone. -/
def LeavesAlone
    (rendering : Rendering)
    (primitives : Primitives)
    (process : StaticProcess)
    (action : Action) : Prop :=
  Over process →
    ∀ after, step? rendering primitives process action = some after →
      Quiet process after

/-- The store finds the event, in its cache and in the file. -/
def Stored
    (log : EventLog.Log)
    (event : RunEvent) : Prop :=
  ∀ cache ∈ [log.cache, none], ∀ state,
    EventLog.logState .static ⟨log.file, cache⟩ = .ok state →
      (state.events.lookup (event.seq : Int)).isSome = true

/-- The run has not succeeded, or the event that says so has been stored. -/
def EndsQuietly
    (continuation : FinishContinuation)
    (process : StaticProcess) : Prop :=
  process.run.status = .succeeded →
    ∃ event, continuation.workflowEvent = some event ∧ Stored process.log event

/--
The first ready task that is not marked as sent comes to a save that fails, or
cannot be prepared; where there is none, the workflow ends quietly.
-/
def DispatchesNothing
    (primitives : Primitives)
    (environment : Environment)
    (continuation : FinishContinuation)
    (process : StaticProcess) : Prop :=
  match continuation.readyTaskIds.find? fun ready =>
      ready ∉ continuation.sentTaskIds with
  | some ready =>
      saveFails process.saves = true ∨
        ∀ task, process.workflow.tasks.lookup ready = some task →
          ¬ TaskPreparation.Schedulable primitives environment task
  | none => EndsQuietly continuation process

/-- The process after a save that has not failed. -/
def saved (process : StaticProcess) : StaticProcess :=
  { process with
    saves := process.saves.tail
    log :=
      if process.run.isTerminal then { process.log with cache := none }
      else process.log }

/-- The next save fails, or the condition holds after it. -/
def SavedQuietly
    (condition : StaticProcess → Prop)
    (process : StaticProcess) : Prop :=
  saveFails process.saves = false → condition (saved process)

/-- Nothing is sent and no event made once the task has been told. -/
def AdvancesQuietly
    (primitives : Primitives)
    (environment : Environment)
    (taskId : TaskId)
    (continuation : FinishContinuation)
    (process : StaticProcess) : Prop :=
  if continuation.workflowAdvanced then
    DispatchesNothing primitives environment continuation process
  else
    taskId ∈ process.workflow.taskIds →
      SavedQuietly
        (DispatchesNothing primitives environment
          (advancedWith
            (process.workflow.readyAfter
              (process.completedTasks.insert taskId) taskId)
            continuation))
        process

/-- A continuation has nothing left to do, or fails before it does it. -/
def ContinuesQuietly
    (primitives : Primitives)
    (environment : Environment)
    (taskId : TaskId)
    (continuation : FinishContinuation)
    (process : StaticProcess) : Prop :=
  continuation.completed = true ∨
    if continuation.taskNotified then
      AdvancesQuietly primitives environment taskId continuation process
    else
      SavedQuietly
        (AdvancesQuietly primitives environment taskId continuation) process

/-- A message resumes no continuation that would go on. -/
def MessageQuiet
    (primitives : Primitives)
    (handling : Handling)
    (message : SchedulerMessage)
    (process : StaticProcess) : Prop :=
  ∀ data taskId continuation,
    message = .attempt .finishTask data →
    process.run.continuation? taskId = some continuation →
    Addresses data process taskId continuation →
      ContinuesQuietly primitives handling.environment taskId continuation
        { process with saves := handling.saves }

/--
The condition on a step of a run that is over: it is not stopped again, and no
continuation that would go on is resumed.
-/
def StaysQuiet
    (primitives : Primitives)
    (process : StaticProcess) :
    Action → Prop
  | .receive message handling =>
      Over process → MessageQuiet primitives handling message process
  | .retry handling =>
      Over process → ∀ message, process.retrying = some message →
        MessageQuiet primitives handling message process
  | .stop _ => ¬ Over process
  | .sweep _ _ => True

/-! ### What a continuation does -/

theorem Quiet.refl (process : StaticProcess) : Quiet process process :=
  ⟨rfl, rfl, rfl, rfl⟩

theorem Quiet.trans
    {first second third : StaticProcess}
    (before : Quiet first second)
    (after : Quiet second third) :
    Quiet first third where
  sentTasks := after.sentTasks.trans before.sentTasks
  status := after.status.trans before.status
  eventLog := after.eventLog.trans before.eventLog
  file := after.file.trans before.file

theorem saved_quiet (process : StaticProcess) : Quiet process (saved process) where
  sentTasks := rfl
  status := rfl
  eventLog := rfl
  file := by
    unfold saved
    split <;> rfl

/-- A change of a continuation alone. -/
theorem noted_quiet
    (process : StaticProcess)
    (taskId : TaskId)
    (change : FinishContinuation → FinishContinuation) :
    Quiet process
      { process with run := process.run.updateContinuation taskId change } :=
  ⟨rfl, rfl, rfl, rfl⟩

theorem persistRun_quiet (process : StaticProcess) :
    Ensures (fun current => current = process) persistRun
      (fun _ after => saveFails process.saves = false ∧ after = saved process)
      (fun _ after => Quiet process after) := by
  rintro current rfl
  unfold persistRun saved
  cases failing : saveFails current.saves with
  | true =>
      exact ⟨rfl, rfl, rfl, rfl⟩
  | false =>
      cases terminal : current.run.isTerminal with
      | true =>
          exact ⟨rfl, by simp⟩
      | false =>
          exact ⟨rfl, by simp⟩

theorem noteProgress_quiet
    (taskId : TaskId)
    (change : FinishContinuation → FinishContinuation)
    (process : StaticProcess) :
    Ensures (fun current => current = process) (noteProgress taskId change)
      (fun _ after => saveFails process.saves = false ∧
        after = saved
          { process with run := process.run.updateContinuation taskId change })
      (fun _ after => Quiet process after) := by
  refine ensures_bind ensures_modify_from fun _ => ?_
  exact (persistRun_quiet _).weaken (fun _ same => same) (fun _ _ after => after)
    fun _ _ quiet => (noted_quiet process taskId change).trans quiet

/-- The store writes nothing of an event that it finds. -/
theorem appendEventOnce_stored
    {log : EventLog.Log}
    {event : RunEvent}
    (write : EventLog.Write)
    (stored : Stored log event) :
    (EventLog.appendEventOnce .static log (eventEntries event) write).1.file =
      log.file := by
  have numbered :
      EventLog.eventSequence (.dict (EventLog.payload (eventEntries event))) =
        if 0 < (event.seq : Int) then .ok (event.seq : Int)
        else .error .valueError := by
    rfl
  unfold EventLog.appendEventOnce
  dsimp only
  rw [numbered]
  by_cases positive : 0 < (event.seq : Int)
  · rw [if_pos positive]
    dsimp only
    cases read : EventLog.logState .static log with
    | error raised =>
        rfl
    | ok state =>
        have found := stored log.cache (by simp) state read
        obtain ⟨persisted, here⟩ := Option.isSome_iff_exists.mp found
        simp only [here]
        cases EventLog.eventsMatch persisted
            (.dict (EventLog.payload (eventEntries event))) with
        | error raised =>
            rfl
        | ok same =>
            cases same <;> rfl
  · rw [if_neg positive]

theorem workflowEventOf_quiet
    (handling : Handling)
    {taskId : TaskId}
    {continuation : FinishContinuation}
    {event : RunEvent}
    {process : StaticProcess}
    (here : process.run.continuation? taskId = some continuation)
    (made : continuation.workflowEvent = some event) :
    Ensures (fun current => current = process) (workflowEventOf taskId handling)
      (fun found after => found = event ∧ after = process)
      (fun _ after => Quiet process after) := by
  rintro current rfl
  simp only [workflowEventOf, continuationOf, bind, EStateM.bind, here, made]
  exact ⟨rfl, rfl⟩

section Continuing

variable
  (primitives : Primitives)
  (environment : Environment)
  {taskId : TaskId}
  {continuation : FinishContinuation}
  {process : StaticProcess}

/-- A task that cannot be prepared is not sent. -/
theorem sendTask_unprepared
    (process : StaticProcess)
    {ready : TaskId}
    (unprepared :
      ∀ task, process.workflow.tasks.lookup ready = some task →
        ¬ TaskPreparation.Schedulable primitives environment task) :
    Ensures (fun current => current = process)
      (sendTask primitives environment ready)
      (fun _ _ => False) (fun _ after => after = process) := by
  rintro current rfl
  unfold sendTask
  cases found : current.workflow.tasks.lookup ready with
  | none =>
      rfl
  | some task =>
      dsimp only
      cases outcome : TaskPreparation.prepareTaskResources primitives environment
          task with
      | error raised =>
          rfl
      | ok _ =>
          exact unprepared task found
            ((TaskPreparation.prepareTaskResources_returns_iff primitives
              environment task).mp ⟨_, outcome⟩)

/-- One round of the loop passes a task that is marked, and stops at another. -/
theorem dispatchReadyTask_quiet
    (here : process.run.continuation? taskId = some continuation)
    (ready : TaskId)
    (nothing :
      ready ∉ continuation.sentTaskIds →
        saveFails process.saves = true ∨
          ∀ task, process.workflow.tasks.lookup ready = some task →
            ¬ TaskPreparation.Schedulable primitives environment task) :
    Ensures (fun current => current = process)
      (dispatchReadyTask primitives environment taskId ready)
      (fun _ after => ready ∈ continuation.sentTaskIds ∧ after = process)
      (fun _ after => Quiet process after) := by
  refine ensures_bind (continuationOf_ensures fun current same =>
    same ▸ here) fun found => ?_
  by_cases same : found = continuation
  case neg =>
    intro current impossible
    exact absurd impossible.1 same
  subst same
  by_cases marked : ready ∈ found.sentTaskIds
  · rw [if_pos marked]
    exact ensures_pure fun current holds => ⟨marked, holds.2⟩
  · rw [if_neg marked]
    let queued : StaticProcess :=
      { process with run := process.run.markTaskQueued ready }
    have begun : Quiet process queued := ⟨rfl, rfl, rfl, rfl⟩
    refine ensures_via (fun _ current => current = queued) ?_ fun _ => ?_
    · apply ensures_modify
      rintro current ⟨_, rfl⟩
      rfl
    refine ensures_bind ((persistRun_quiet queued).weaken (fun _ same => same)
      (fun _ _ after => after) fun _ _ quiet => begun.trans quiet) fun _ => ?_
    have stopped : Ensures
        (fun after => saveFails queued.saves = false ∧ after = saved queued)
        (sendTask primitives environment ready) (fun _ _ => False)
        (fun _ after => Quiet process after) := by
      rintro after ⟨goes, rfl⟩
      rcases nothing marked with fails | unprepared
      · exact absurd (fails.symm.trans goes) (by decide)
      · exact (sendTask_unprepared primitives environment (saved queued)
          unprepared).weaken (fun _ same => same)
          (fun _ _ impossible => impossible)
          (fun _ _ same => same ▸ begun.trans (saved_quiet queued)) _ rfl
    exact ensures_bind stopped fun _ => fun _ impossible => impossible.elim

/-- The loop passes the tasks that are marked, and stops at the first other one. -/
theorem dispatchReadyTasks_quiet
    (here : process.run.continuation? taskId = some continuation)
    (rest : List TaskId)
    (nothing :
      ∀ ready,
        (rest.find? fun ready => ready ∉ continuation.sentTaskIds) = some ready →
          saveFails process.saves = true ∨
            ∀ task, process.workflow.tasks.lookup ready = some task →
              ¬ TaskPreparation.Schedulable primitives environment task) :
    Ensures (fun current => current = process)
      (rest.forM (dispatchReadyTask primitives environment taskId))
      (fun _ after =>
        (rest.find? fun ready => ready ∉ continuation.sentTaskIds) = none ∧
          after = process)
      (fun _ after => Quiet process after) := by
  induction rest with
  | nil =>
      exact ensures_pure fun _ same => ⟨rfl, same⟩
  | cons ready rest inductionHypothesis =>
      refine ensures_bind (dispatchReadyTask_quiet primitives environment here
        ready fun unmarked => nothing ready (by simp [unmarked])) fun _ => ?_
      rintro after ⟨marked, rfl⟩
      have skip : ((ready :: rest).find? fun ready =>
          ready ∉ continuation.sentTaskIds) =
            rest.find? fun ready => ready ∉ continuation.sentTaskIds := by
        simp [marked]
      rw [skip] at nothing ⊢
      exact inductionHypothesis nothing after rfl

variable (handling : Handling)

/-- Notes in a continuation leave a quiet process quiet. -/
theorem noteProgress_staysQuiet
    (taskId : TaskId)
    (start : StaticProcess)
    (change : FinishContinuation → FinishContinuation) :
    Ensures (Quiet start) (noteProgress taskId change) (fun _ => Quiet start)
      (fun _ => Quiet start) := by
  intro current quiet
  exact (noteProgress_quiet taskId change current).weaken (fun _ same => same)
    (fun _ _ after => quiet.trans (after.2 ▸ (noted_quiet current taskId
      change).trans (saved_quiet _)))
    (fun _ _ after => quiet.trans after) current rfl

/-- An event that is stored is not written again. -/
theorem finishWorkflow_quiet
    {event : RunEvent}
    (here : process.run.continuation? taskId = some continuation)
    (made : continuation.workflowEvent = some event)
    (stored : Stored process.log event) :
    Ensures (fun current => current = process) (finishWorkflow taskId handling)
      (fun _ => Quiet process) (fun _ => Quiet process) := by
  have noted := fun change =>
    noteProgress_staysQuiet taskId process change
  refine ensures_bind (workflowEventOf_quiet handling here made) fun found => ?_
  refine ensures_via (fun _ => Quiet process) ?_ fun _ => ?_
  · rintro current ⟨rfl, rfl⟩
    have same := appendEventOnce_stored handling.finishWrite stored
    simp only [appendEventOnce]
    cases (EventLog.appendEventOnce .static current.log (eventEntries found)
        handling.finishWrite).2 with
    | ok _ =>
        exact ⟨rfl, rfl, rfl, same⟩
    | error _ =>
        exact ⟨rfl, rfl, rfl, same⟩
  refine ensures_via (fun _ => Quiet process) ?_ fun _ => ?_
  · intro current quiet
    exact (persistRun_quiet current).weaken (fun _ same => same)
      (fun _ _ after => quiet.trans (after.2 ▸ saved_quiet current))
      (fun _ _ after => quiet.trans after) current rfl
  refine ensures_via (fun _ => Quiet process) ?_ fun found => ?_
  · intro current quiet
    simp only [continuationOf]
    cases current.run.continuation? taskId with
    | none => exact quiet
    | some _ => exact quiet
  have cleared : Ensures (Quiet process)
      (if found.workflowCleared then pure () else
        noteProgress taskId fun continuation =>
          { continuation with workflowCleared := true })
      (fun _ => Quiet process) (fun _ => Quiet process) :=
    ensures_ite (fun _ => ensures_pure fun _ quiet => quiet) fun _ => noted _
  dsimp only
  split
  · exact cleared
  · exact ensures_bind (noted _) fun _ => cleared

theorem dispatchAndFinish_quiet
    (here : process.run.continuation? taskId = some continuation)
    (nothing :
      DispatchesNothing primitives handling.environment continuation process) :
    Ensures (fun current => current = process)
      (dispatchAndFinish primitives handling taskId)
      (fun _ => Quiet process) (fun _ => Quiet process) := by
  have completed := noteProgress_staysQuiet taskId process
    fun continuation => { continuation with completed := true }
  refine ensures_bind (continuationOf_ensures fun current same =>
    same ▸ here) fun found => ?_
  by_cases same : found = continuation
  case neg =>
    intro current impossible
    exact absurd impossible.1 same
  subst same
  refine ensures_bind ((dispatchReadyTasks_quiet primitives handling.environment
    here found.readyTaskIds ?_).weaken (fun _ holds => holds.2)
    (fun _ _ after => after) fun _ _ quiet => quiet) fun _ => ?_
  · intro ready first
    rw [DispatchesNothing, first] at nothing
    exact nothing
  refine ensures_get fun current after => ?_
  obtain ⟨none_, rfl⟩ := after
  rw [DispatchesNothing, none_] at nothing
  dsimp only
  split
  · next succeeded =>
    obtain ⟨event, made, stored⟩ := nothing succeeded
    exact ensures_bind (finishWorkflow_quiet handling here made stored)
      fun _ => completed
  · exact completed.weaken (fun after same => same ▸ Quiet.refl current)
      (fun _ _ quiet => quiet) fun _ _ quiet => quiet

/-- From the advance of the workflow on. -/
theorem advanceAndFinish_quiet
    (continuation : FinishContinuation)
    (here : process.run.continuation? taskId = some continuation)
    (quietly :
      AdvancesQuietly primitives handling.environment taskId continuation
        process) :
    Ensures (fun current => current = process)
      (if continuation.workflowAdvanced then
          dispatchAndFinish primitives handling taskId
        else do
          advanceWorkflow taskId
          persistRun
          dispatchAndFinish primitives handling taskId)
      (fun _ => Quiet process) (fun _ => Quiet process) := by
  unfold AdvancesQuietly at quietly
  split
  · next advanced =>
    rw [if_pos advanced] at quietly
    exact dispatchAndFinish_quiet primitives handling here quietly
  · next waiting =>
    rw [if_neg waiting] at quietly
    let ready := process.workflow.readyAfter
      (process.completedTasks.insert taskId) taskId
    let advanced : StaticProcess :=
      { process with
        completedTasks := process.completedTasks.insert taskId
        run := process.run.updateContinuation taskId fun continuation =>
          advancedWith ready continuation }
    have begun : Quiet process advanced := ⟨rfl, rfl, rfl, rfl⟩
    refine ensures_via
      (fun _ after => taskId ∈ process.workflow.taskIds ∧ after = advanced) ?_
      fun _ => ?_
    · rintro current rfl
      unfold advanceWorkflow
      by_cases known : taskId ∈ current.workflow.taskIds
      · rw [if_pos known]
        exact ⟨known, rfl⟩
      · rw [if_neg known]
        exact Quiet.refl current
    refine ensures_via
      (fun _ after =>
        DispatchesNothing primitives handling.environment
          (advancedWith ready continuation) (saved advanced) ∧
        after = saved advanced) ?_ fun _ => ?_
    · rintro current ⟨known, rfl⟩
      refine (persistRun_quiet advanced).weaken (fun _ same => same) ?_
        (fun _ _ quiet => begun.trans quiet) advanced rfl
      rintro _ after ⟨goes, rfl⟩
      exact ⟨quietly known goes, rfl⟩
    · rintro current ⟨nothing, rfl⟩
      have present : (saved advanced).run.continuation? taskId =
          some (advancedWith ready continuation) := by
        simp [saved, advanced, here]
      have quiet := begun.trans (saved_quiet advanced)
      exact (dispatchAndFinish_quiet primitives handling present nothing).weaken
        (fun _ same => same) (fun _ _ later => quiet.trans later)
        (fun _ _ later => quiet.trans later) _ rfl

theorem continueStaticFinish_quiet
    (here : process.run.continuation? taskId = some continuation)
    (quietly :
      ContinuesQuietly primitives handling.environment taskId continuation
        process) :
    Ensures (fun current => current = process)
      (continueStaticFinish primitives handling taskId)
      (fun _ => Quiet process) (fun _ => Quiet process) := by
  refine ensures_bind (continuationOf_ensures fun current same =>
    same ▸ here) fun found => ?_
  by_cases same : found = continuation
  case neg =>
    intro current impossible
    exact absurd impossible.1 same
  subst same
  split
  · exact (persistRun_quiet process).weaken (fun _ holds => holds.2)
      (fun _ _ after => after.2 ▸ saved_quiet process) fun _ _ quiet => quiet
  · next unfinished =>
    have quietly := quietly.resolve_left unfinished
    unfold continueFinish
    dsimp only
    by_cases notified : found.taskNotified = true
    · rw [if_pos notified] at quietly ⊢
      exact (advanceAndFinish_quiet primitives handling found here quietly).weaken
        (fun _ holds => holds.2) (fun _ _ quiet => quiet) fun _ _ quiet => quiet
    · rw [if_neg notified] at quietly ⊢
      let change : FinishContinuation → FinishContinuation :=
        fun continuation => { continuation with taskNotified := true }
      let noted : StaticProcess :=
        { process with run := process.run.updateContinuation taskId change }
      have begun := noted_quiet process taskId change
      refine ensures_bind ((noteProgress_quiet taskId change process).weaken
        (fun _ holds => holds.2) (fun _ _ after => after)
        fun _ _ quiet => quiet) fun _ => ?_
      rintro current ⟨goes, rfl⟩
      have present : (saved noted).run.continuation? taskId =
          some (change found) := by
        simp [saved, noted, here]
      have quiet := begun.trans (saved_quiet noted)
      exact (advanceAndFinish_quiet primitives handling (change found) present
        (quietly goes)).weaken
        (fun _ same => same) (fun _ _ later => quiet.trans later)
        (fun _ _ later => quiet.trans later) _ rfl

end Continuing

/-! ### The steps of a run that is over -/

theorem handlePending_quiet
    {process : StaticProcess}
    (handling : Handling)
    (data : PyDict)
    (ended : process.run.isTerminal = true) :
    Ensures (fun current => current = process) (handlePending handling data)
      (fun _ => Quiet process) (fun _ => Quiet process) := by
  refine ensures_get fun current same => ?_
  subst same
  rw [ended]
  simp only [Bool.not_true, Bool.and_false]
  exact ensures_pure fun _ same => same ▸ Quiet.refl current

/-- What a message with an attempt does to a run that is over. -/
theorem handleAttempt_quiet
    {process : StaticProcess}
    (rendering : Rendering)
    (primitives : Primitives)
    (handling : Handling)
    (messageType : AttemptGate.MessageType)
    (data : PyDict)
    (ended : process.run.isTerminal = true)
    (quietly :
      ∀ taskId continuation,
        messageType = .finishTask →
        process.run.continuation? taskId = some continuation →
        Addresses data process taskId continuation →
          ContinuesQuietly primitives handling.environment taskId continuation
            process) :
    Ensures (fun current => current = process)
      (handleAttempt rendering primitives handling messageType data)
      (fun _ => Quiet process) (fun _ => Quiet process) := by
  have still : ∀ current : StaticProcess, current = process →
      Quiet process current := fun current same => same ▸ Quiet.refl process
  have nothing : Ensures (fun current => current = process)
      (pure () : CoreCall Unit) (fun _ => Quiet process)
      (fun _ => Quiet process) :=
    ensures_pure still
  refine ensures_get fun current same => ?_
  subst same
  cases accepted : AttemptGate.acceptTaskAttemptEvent messageType data
      current.gate with
  | error raised =>
      exact ensures_throw still
  | ok gate =>
      cases gate with
      | some gate =>
          cases data.get "task_id" with
          | str taskId =>
              change Ensures _
                (if (current.listening && !current.run.isTerminal) = true then _ else pure ()) _ _
              rw [ended]
              simp only [Bool.not_true, Bool.and_false]
              exact nothing
          | _ => exact ensures_throw still
      | none =>
          change Ensures _
            (if messageType = .finishTask then
                resumeFinish primitives handling data
              else
                pure ()) _ _
          split
          · next finishing =>
            unfold resumeFinish
            split
            · next taskId named =>
              refine ensures_get fun found same => ?_
              subst same
              cases present : found.run.continuation? taskId with
              | none =>
                  exact nothing
              | some continuation =>
                  dsimp only
                  split
                  · next identity =>
                    have addresses : Addresses data found taskId continuation :=
                      ⟨named, finishing ▸ accepted, identity⟩
                    exact continueStaticFinish_quiet primitives handling present
                      (quietly taskId continuation finishing present addresses)
                  · exact nothing
            · exact nothing
          · exact nothing

theorem conclude_quiet
    {start : StaticProcess}
    {call : CoreCall Unit}
    (message : SchedulerMessage)
    (ensures :
      Ensures (fun process => process = start) call (fun _ => Quiet start)
        (fun _ => Quiet start)) :
    Quiet start (conclude message (call start)) := by
  cases outcome : call start with
  | ok value after =>
      have quiet := ensures.returned rfl outcome
      exact ⟨quiet.sentTasks, quiet.status, quiet.eventLog, quiet.file⟩
  | error raised after =>
      have quiet := ensures.raised rfl outcome
      cases raised <;>
        exact ⟨quiet.sentTasks, quiet.status, quiet.eventLog, quiet.file⟩

theorem handle_quiet
    {process : StaticProcess}
    (rendering : Rendering)
    (primitives : Primitives)
    (handling : Handling)
    {message : SchedulerMessage}
    (ended : process.run.isTerminal = true)
    (quietly : MessageQuiet primitives handling message process) :
    Quiet process (handle rendering primitives handling message process) := by
  let start : StaticProcess := { process with saves := handling.saves }
  have begun : Quiet process start := ⟨rfl, rfl, rfl, rfl⟩
  unfold handle
  cases message with
  | pending data =>
      exact begun.trans (conclude_quiet _ (handlePending_quiet handling data ended))
  | attempt messageType data =>
      dsimp only
      split
      · exact ⟨rfl, rfl, rfl, rfl⟩
      · refine begun.trans (conclude_quiet _ (handleAttempt_quiet rendering
          primitives handling messageType data ended ?_))
        rintro taskId continuation rfl present addresses
        exact quietly data taskId continuation rfl present
          ⟨addresses.named, addresses.refused, addresses.identity⟩

/-- The deadline of a run that is over has no effect. -/
theorem sweepDeadline_quiet
    (process : StaticProcess)
    (rendering : Rendering)
    (now : Time)
    (handling : Handling)
    (ended : process.run.isTerminal = true) :
    Ensures (fun current => current = process)
      (sweepDeadline rendering now handling)
      (fun _ => Quiet process) (fun _ => Quiet process) := by
  refine ensures_get fun current same => ?_
  subst same
  have timely : current.run.deadlinePassed now = false := by
    unfold StaticRun.deadlinePassed
    cases current.run.deadline <;> simp [ended]
  have passed : (current.run.markTimedOutIfNeeded rendering now).2 = false := by
    simp [StaticRun.markTimedOutIfNeeded, timely]
  dsimp only
  rw [passed]
  exact ensures_pure fun _ same => same ▸ Quiet.refl current

/-- A step that stays quiet leaves a run that is over alone. -/
theorem leavesAlone_of_staysQuiet
    {rendering : Rendering}
    {primitives : Primitives}
    {process : StaticProcess}
    {action : Action}
    (quietly : StaysQuiet primitives process action) :
    LeavesAlone rendering primitives process action := by
  intro isOver after stepped
  cases action with
  | receive message handling =>
      simp only [step?, Option.ite_none_right_eq_some, Option.some.injEq] at stepped
      obtain ⟨_, rfl⟩ := stepped
      exact handle_quiet rendering primitives handling isOver.1 (quietly isOver)
  | retry handling =>
      simp only [step?, Option.map_eq_some_iff] at stepped
      obtain ⟨message, waiting, rfl⟩ := stepped
      exact handle_quiet rendering primitives handling isOver.1
        (quietly isOver message waiting)
  | stop handling =>
      exact absurd isOver quietly
  | sweep now handling =>
      simp only [step?, Option.some.injEq] at stepped
      subst stepped
      let start : StaticProcess := { process with saves := handling.saves }
      have begun : Quiet process start := ⟨rfl, rfl, rfl, rfl⟩
      have sweeps := sweepDeadline_quiet start rendering now handling isOver.1
      unfold leaving
      cases outcome : sweepDeadline rendering now handling start with
      | ok _ current =>
          exact begun.trans (sweeps.returned rfl outcome)
      | error _ current =>
          exact begun.trans (sweeps.raised rfl outcome)

end StaticCore

namespace DynamicMonitor

open SchedulerMessage (finishIdentity)

/-! ## A dynamic run that is over -/

/-- The run is terminal and the event that ends it has been recorded. -/
def Over (process : DynamicProcess) : Prop :=
  process.run.isTerminal = true ∧
    ∃ event ∈ process.files.canonical,
      (terminalEventStatus event.eventType).isSome = true

/-- No task is sent, the status stays, and no event is made or written. -/
structure Quiet (before after : DynamicProcess) : Prop where
  sentTasks : after.sentTasks = before.sentTasks
  status : after.run.status = before.run.status
  eventLog : after.run.eventLog = before.run.eventLog
  canonical : after.files.canonical = before.files.canonical

/-- A step leaves a run that is over alone. -/
def LeavesAlone
    (render : Time → PyStr)
    (primitives : Primitives)
    (process : DynamicProcess)
    (action : Action) : Prop :=
  Over process →
    ∀ after, step? render primitives process action = some after →
      Quiet process after

/-- What a continuation notes of a task. -/
def entryOf
    (continuation : DynamicContinuation)
    (readyTaskId : TaskId) :
    Option ReadyTask :=
  continuation.ready.find? fun ready => ready.taskId = readyTaskId

/-- Nothing is left to do for a ready task. -/
def isHandled
    (process : DynamicProcess)
    (readyTaskId : TaskId)
    (ready : ReadyTask) :
    Bool :=
  ready.event.isSome && ready.emitted && ready.dispatched &&
    (process.run.tasks.lookup readyTaskId).isSome

/-- The task cannot be sent. -/
def Unprepared
    (primitives : Primitives)
    (environment : Environment)
    (process : DynamicProcess)
    (readyTaskId : TaskId) : Prop :=
  ∀ task, process.payloads.lookup readyTaskId = some task →
    ¬ TaskPreparation.Schedulable primitives environment task

/-- The process after some writes. -/
def written
    (process : DynamicProcess)
    (performed : Performed) :
    DynamicProcess :=
  { process with
    files := DynamicRunStore.writeAll process.files performed.writes
    moments := process.moments.tail }

/-- Persisting an event that has a number, at the next moment. -/
def persisted
    (process : DynamicProcess)
    (event : RunEvent) :
    Performed :=
  DynamicRunStore.persistEvent process.files event process.run.snapshot
    (nextMoment process).faults

/--
The event that tells of a ready task has been made, and writing it again adds
nothing to the log; and if that goes through, the task cannot be sent.
-/
def TellsQuietly
    (primitives : Primitives)
    (environment : Environment)
    (process : DynamicProcess)
    (readyTaskId : TaskId)
    (ready : ReadyTask)
    (event : RunEvent) : Prop :=
  ∃ candidate,
    process.run.eventLog.find? (fun candidate => candidate.seq = event.seq) =
      some candidate ∧
    (candidate = event →
      (∀ other, DiskWrite.canonical other ∉ (persisted process event).writes) ∧
      ((persisted process event).result = .ok () →
        (nextMoment (written process (persisted process event))).faults.save =
          .none →
        ready.dispatched = false ∧
          Unprepared primitives environment process readyTaskId))

/-- What is left to do for a ready task makes no event and sends nothing. -/
def HandledQuietly
    (primitives : Primitives)
    (environment : Environment)
    (process : DynamicProcess)
    (readyTaskId : TaskId)
    (ready : ReadyTask) : Prop :=
  (process.run.tasks.lookup readyTaskId).isSome = true →
    ∃ event, ready.event = some event ∧
      if ready.emitted then
        ready.dispatched = false ∧
          Unprepared primitives environment process readyTaskId
      else
        TellsQuietly primitives environment process readyTaskId ready event

/-- The first ready task that something is left to do for is handled quietly. -/
def DispatchesNothing
    (primitives : Primitives)
    (environment : Environment)
    (continuation : DynamicContinuation)
    (process : DynamicProcess) : Prop :=
  ∀ readyTaskId ready,
    ((continuation.ready.map ReadyTask.taskId).find? fun readyTaskId =>
      !(entryOf continuation readyTaskId).any (isHandled process readyTaskId)) =
        some readyTaskId →
    entryOf continuation readyTaskId = some ready →
      HandledQuietly primitives environment process readyTaskId ready

/-- The process after a save that has not failed. -/
def saved (process : DynamicProcess) : DynamicProcess :=
  written process
    (DynamicRunStore.attempt .none (.snapshot process.run.snapshot))

/-- A continuation has nothing left to do, or fails before it does it. -/
def ContinuesQuietly
    (primitives : Primitives)
    (environment : Environment)
    (continuation : DynamicContinuation)
    (process : DynamicProcess) : Prop :=
  continuation.completed = true ∨
    if continuation.notified then
      DispatchesNothing primitives environment continuation process
    else
      (nextMoment process).faults.save = .none →
        DispatchesNothing primitives environment continuation (saved process)

/-- A finish message that the gate refuses resumes a continuation. -/
structure Resumes
    (data : PyDict)
    (process : DynamicProcess)
    (taskId : TaskId)
    (continuation : DynamicContinuation) : Prop where
  named : data.get "task_id" = .str taskId
  refused :
    AttemptGate.acceptTaskAttemptEvent .finishTask data process.gate = .ok none
  here : process.continuations.lookup taskId = some continuation
  identity :
    (PyVal.dict continuation.attemptIdentity).pyEq
      (.dict (finishIdentity data)) = true

/-- A message resumes no continuation that would go on. -/
def MessageQuiet
    (primitives : Primitives)
    (handling : DynamicHandling)
    (message : SchedulerMessage)
    (process : DynamicProcess) : Prop :=
  ∀ data taskId continuation,
    message = .attempt .finishTask data →
    Resumes data process taskId continuation →
      ContinuesQuietly primitives handling.environment continuation
        { process with moments := handling.moments }

/--
The condition on a step of a run that is over: it is not finalized again, and no
continuation that would go on is resumed.
-/
def StaysQuiet
    (primitives : Primitives)
    (process : DynamicProcess) :
    Action → Prop
  | .receive message handling =>
      Over process → MessageQuiet primitives handling message process
  | .retry handling =>
      Over process → ∀ message, process.retrying = some message →
        MessageQuiet primitives handling message process
  | .call (.finalize _) _ => Over process → process.run.finalized = false
  | .append _ _ _ _ | .call _ _ => True

/-! ### What a continuation does -/

theorem Quiet.refl (process : DynamicProcess) : Quiet process process :=
  ⟨rfl, rfl, rfl, rfl⟩

theorem Quiet.trans
    {first second third : DynamicProcess}
    (before : Quiet first second)
    (after : Quiet second third) :
    Quiet first third where
  sentTasks := after.sentTasks.trans before.sentTasks
  status := after.status.trans before.status
  eventLog := after.eventLog.trans before.eventLog
  canonical := after.canonical.trans before.canonical

/-- Writes that append no event leave the canonical log alone. -/
theorem canonical_writeAll
    (files : DynamicFiles)
    {writes : List DiskWrite}
    (none_ : ∀ event, DiskWrite.canonical event ∉ writes) :
    (DynamicRunStore.writeAll files writes).canonical = files.canonical := by
  induction writes generalizing files with
  | nil =>
      rfl
  | cons write rest inductionHypothesis =>
      have later : ∀ event, DiskWrite.canonical event ∉ rest :=
        fun event member => none_ event (List.mem_cons_of_mem _ member)
      change (DynamicRunStore.writeAll (DynamicRunStore.write files write)
        rest).canonical = files.canonical
      rw [inductionHypothesis _ later]
      cases write with
      | canonical event =>
          exact absurd List.mem_cons_self (none_ event)
      | mirror _ =>
          rfl
      | snapshot _ =>
          rfl

theorem written_quiet
    (process : DynamicProcess)
    {performed : Performed}
    (none_ : ∀ event, DiskWrite.canonical event ∉ performed.writes) :
    Quiet process (written process performed) :=
  ⟨rfl, rfl, rfl, canonical_writeAll process.files none_⟩

theorem saved_quiet (process : DynamicProcess) : Quiet process (saved process) :=
  written_quiet process fun _ member => by
    simp [DynamicRunStore.attempt] at member

theorem writing_quiet
    {perform : DynamicProcess → Moment → Performed}
    (process : DynamicProcess)
    (none_ :
      ∀ event,
        DiskWrite.canonical event ∉
          (perform process (nextMoment process)).writes) :
    Ensures (fun current => current = process) (writing perform)
      (fun _ after =>
        (perform process (nextMoment process)).result = .ok () ∧
          after = written process (perform process (nextMoment process)))
      (fun _ after => Quiet process after) := by
  rintro current rfl
  have quiet := written_quiet current none_
  unfold writing
  dsimp only
  cases (perform current (nextMoment current)).result with
  | ok _ =>
      exact ⟨rfl, rfl⟩
  | error raised =>
      exact quiet

theorem persistRun_quiet (process : DynamicProcess) :
    Ensures (fun current => current = process) persistRun
      (fun _ after => (nextMoment process).faults.save = .none ∧
        after = saved process)
      (fun _ after => Quiet process after) := by
  refine (writing_quiet process ?_).weaken (fun _ same => same) ?_
    fun _ _ quiet => quiet
  · intro event member
    cases fault : (nextMoment process).faults.save <;>
      simp [DynamicRunStore.attempt, fault] at member
  · rintro _ after ⟨returned, rfl⟩
    cases fault : (nextMoment process).faults.save with
    | none =>
        exact ⟨rfl, rfl⟩
    | before =>
        simp [DynamicRunStore.attempt, fault] at returned
    | after =>
        simp [DynamicRunStore.attempt, fault] at returned

/-- A save leaves a quiet process quiet. -/
theorem persistRun_staysQuiet (start : DynamicProcess) :
    Ensures (Quiet start) persistRun (fun _ => Quiet start)
      (fun _ => Quiet start) := by
  intro current quiet
  exact (persistRun_quiet current).weaken (fun _ same => same)
    (fun _ _ after => quiet.trans (after.2 ▸ saved_quiet current))
    (fun _ _ after => quiet.trans after) current rfl

section Continuing

variable
  (primitives : Primitives)
  (environment : Environment)
  {taskId : TaskId}
  {continuation : DynamicContinuation}
  {process : DynamicProcess}

theorem continuationOf_quiet
    (here : process.continuations.lookup taskId = some continuation) :
    Ensures (fun current => current = process) (continuationOf taskId)
      (fun found after => found = continuation ∧ after = process)
      (fun _ after => Quiet process after) := by
  rintro current rfl
  unfold continuationOf
  rw [here]
  exact ⟨rfl, rfl⟩

theorem readyTaskOf_quiet
    (here : process.continuations.lookup taskId = some continuation)
    (readyTaskId : TaskId) :
    Ensures (fun current => current = process) (readyTaskOf taskId readyTaskId)
      (fun ready after =>
        entryOf continuation readyTaskId = some ready ∧ after = process)
      (fun _ after => Quiet process after) := by
  refine ensures_bind (continuationOf_quiet here) fun found => ?_
  rintro current ⟨rfl, rfl⟩
  dsimp only
  cases entry : found.ready.find? fun ready => ready.taskId = readyTaskId with
  | none =>
      exact Quiet.refl current
  | some ready =>
      exact ⟨entry, rfl⟩

/-- A task that cannot be prepared is not sent. -/
theorem dispatch_unprepared
    (process : DynamicProcess)
    {readyTaskId : TaskId}
    {ready : ReadyTask}
    (waiting : ready.dispatched = false)
    (unprepared : Unprepared primitives environment process readyTaskId) :
    Ensures (fun current => current = process)
      (dispatch primitives environment taskId readyTaskId ready)
      (fun _ _ => False) (fun _ after => Quiet process after) := by
  unfold dispatch
  rw [waiting]
  have stopped : Ensures (fun current => current = process)
      (submitTask primitives environment readyTaskId)
      (fun _ _ => False) (fun _ after => Quiet process after) := by
    rintro current rfl
    unfold submitTask
    cases found : current.payloads.lookup readyTaskId with
    | none =>
        exact Quiet.refl current
    | some task =>
        dsimp only
        cases outcome : TaskPreparation.prepareTaskResources primitives
            environment task with
        | error raised =>
            exact Quiet.refl current
        | ok _ =>
            exact unprepared task found
              ((TaskPreparation.prepareTaskResources_returns_iff primitives
                environment task).mp ⟨_, outcome⟩)
  exact ensures_bind stopped fun _ => fun _ impossible => impossible.elim

/-- Telling of a task that then cannot be sent. -/
theorem tellAndDispatch_quiet
    {readyTaskId : TaskId}
    {ready : ReadyTask}
    {event : RunEvent}
    (waiting : ready.emitted = false)
    (quietly :
      TellsQuietly primitives environment process readyTaskId ready event) :
    Ensures (fun current => current = process)
      (do
        announce taskId readyTaskId ready event
        dispatch primitives environment taskId readyTaskId ready)
      (fun _ _ => False) (fun _ after => Quiet process after) := by
  obtain ⟨candidate, found, tells⟩ := quietly
  unfold announce
  rw [waiting]
  simp only [Bool.false_eq_true, if_false, bind_assoc]
  refine ensures_via
    (fun _ after =>
      candidate = event ∧ (persisted process event).result = .ok () ∧
        after = written process (persisted process event)) ?_ fun _ => ?_
  · refine ensures_get fun current same => ?_
    subst same
    rw [found]
    dsimp only
    split
    · next same =>
      subst same
      exact (writing_quiet current (tells rfl).1).weaken
        (fun _ same => same) (fun _ _ after => ⟨rfl, after.1, after.2⟩)
        fun _ _ quiet => quiet
    · exact ensures_throw fun current same => same ▸ Quiet.refl current
  rintro current ⟨same, returned, rfl⟩
  obtain ⟨none_, later⟩ := tells same
  have told := written_quiet process none_
  let noted : DynamicProcess :=
    { written process (persisted process event) with
      continuations := updateContinuation taskId
        (changeReady readyTaskId fun ready => { ready with emitted := true })
        process.continuations }
  have begun : Quiet process noted :=
    ⟨told.sentTasks, told.status, told.eventLog, told.canonical⟩
  have rest : Ensures (fun current => current = noted)
      (do
        persistRun
        dispatch primitives environment taskId readyTaskId ready)
      (fun _ _ => False) (fun _ after => Quiet process after) := by
    refine ensures_bind ((persistRun_quiet noted).weaken (fun _ same => same)
      (fun _ _ after => after) fun _ _ quiet => begun.trans quiet) fun _ => ?_
    rintro current ⟨goes, rfl⟩
    obtain ⟨undispatched, unprepared⟩ := later returned goes
    have quiet := begun.trans (saved_quiet noted)
    exact (dispatch_unprepared primitives environment (saved noted) undispatched
      unprepared).weaken (fun _ same => same)
      (fun _ _ impossible => impossible) (fun _ _ after => quiet.trans after) _ rfl
  exact ensures_bind (ensures_modify fun _ same => same ▸ rfl) (fun _ => rest)
    (written process (persisted process event)) rfl

/-- One round of the loop passes a task that is handled, and stops at another. -/
theorem continueReadyTask_quiet
    (here : process.continuations.lookup taskId = some continuation)
    (readyTaskId : TaskId)
    (nothing :
      ∀ ready, entryOf continuation readyTaskId = some ready →
        isHandled process readyTaskId ready = false →
          HandledQuietly primitives environment process readyTaskId ready) :
    Ensures (fun current => current = process)
      (continueReadyTask primitives environment taskId readyTaskId)
      (fun _ after =>
        (entryOf continuation readyTaskId).any (isHandled process readyTaskId) =
            true ∧
          after = process)
      (fun _ after => Quiet process after) := by
  refine ensures_bind (readyTaskOf_quiet here readyTaskId) fun ready => ?_
  refine ensures_get fun current holds => ?_
  obtain ⟨entry, rfl⟩ := holds
  cases known : current.run.tasks.lookup readyTaskId with
  | none =>
      exact ensures_throw fun _ same => same ▸ Quiet.refl current
  | some task =>
      dsimp only
      have isKnown : (current.run.tasks.lookup readyTaskId).isSome = true := by
        rw [known]
        rfl
      cases handled : isHandled current readyTaskId ready with
      | true =>
          simp only [isHandled, Bool.and_eq_true, Option.isSome_iff_exists]
            at handled
          obtain ⟨⟨⟨⟨event, made⟩, emitted⟩, dispatched⟩, _⟩ := handled
          have settled : isHandled current readyTaskId ready = true := by
            simp [isHandled, made, emitted, dispatched, isKnown]
          simp only [readyEventOf, announce, dispatch, made, emitted, dispatched,
            if_true, pure_bind]
          refine ensures_pure fun after same => ⟨?_, same⟩
          rw [entry]
          exact settled
      | false =>
          obtain ⟨event, made, rest⟩ := nothing ready entry handled isKnown
          simp only [readyEventOf, made, pure_bind]
          cases emitted : ready.emitted with
          | true =>
              rw [if_pos emitted] at rest
              simp only [announce, emitted, if_true, pure_bind]
              exact (dispatch_unprepared primitives environment current rest.1
                rest.2).weaken (fun _ same => same)
                (fun _ _ impossible => impossible.elim) fun _ _ quiet => quiet
          | false =>
              rw [if_neg (by simp [emitted])] at rest
              exact (tellAndDispatch_quiet primitives environment emitted
                rest).weaken (fun _ same => same)
                (fun _ _ impossible => impossible.elim) fun _ _ quiet => quiet

/-- The loop passes the tasks that are handled, and stops at the first other one. -/
theorem continueReadyTasks_quiet
    (here : process.continuations.lookup taskId = some continuation)
    (rest : List TaskId)
    (nothing :
      ∀ readyTaskId ready,
        (rest.find? fun readyTaskId =>
          !(entryOf continuation readyTaskId).any
            (isHandled process readyTaskId)) = some readyTaskId →
        entryOf continuation readyTaskId = some ready →
          HandledQuietly primitives environment process readyTaskId ready) :
    Ensures (fun current => current = process)
      (rest.forM (continueReadyTask primitives environment taskId))
      (fun _ after => after = process)
      (fun _ after => Quiet process after) := by
  induction rest with
  | nil =>
      exact ensures_pure fun _ same => same
  | cons readyTaskId rest inductionHypothesis =>
      refine ensures_bind (continueReadyTask_quiet primitives environment here
        readyTaskId ?_) fun _ => ?_
      · intro ready entry waiting
        refine nothing readyTaskId ready ?_ entry
        simp [entry, waiting]
      · rintro after ⟨handled, rfl⟩
        refine inductionHypothesis ?_ after rfl
        intro other ready first
        exact nothing other ready (by simpa [handled] using first)

theorem continueDynamicFinish_quiet
    (here : process.continuations.lookup taskId = some continuation)
    (quietly :
      ContinuesQuietly primitives environment continuation process) :
    Ensures (fun current => current = process)
      (continueDynamicFinish primitives environment taskId)
      (fun _ => Quiet process) (fun _ => Quiet process) := by
  have noted : ∀ (change : DynamicContinuation → DynamicContinuation)
      (start : DynamicProcess),
      Ensures (Quiet start) (note taskId change) (fun _ => Quiet start)
        (fun _ => Quiet start) := fun change start =>
    ensures_modify fun _ quiet =>
      ⟨quiet.sentTasks, quiet.status, quiet.eventLog, quiet.canonical⟩
  have looped : ∀ {current : DynamicProcess} {found : DynamicContinuation},
      current.continuations.lookup taskId = some found →
      DispatchesNothing primitives environment found current →
      Quiet process current →
      Ensures (fun after => after = current)
        (do
          (found.ready.map ReadyTask.taskId).forM
            (continueReadyTask primitives environment taskId)
          complete taskId)
        (fun _ => Quiet process) (fun _ => Quiet process) := by
    intro current found here nothing begun
    refine ensures_bind ((continueReadyTasks_quiet primitives environment here _
      nothing).weaken (fun _ same => same)
      (fun _ _ (same : _ = current) => (same ▸ begun : Quiet process _))
      fun _ _ quiet => begun.trans quiet) fun _ => ?_
    exact ensures_bind (noted _ process) fun _ => persistRun_staysQuiet process
  refine ensures_bind (continuationOf_quiet here) fun found => ?_
  by_cases same : found = continuation
  case neg =>
    intro current impossible
    exact absurd impossible.1 same
  subst same
  split
  · exact (persistRun_quiet process).weaken (fun _ holds => holds.2)
      (fun _ _ after => after.2 ▸ saved_quiet process) fun _ _ quiet => quiet
  · next unfinished =>
    have quietly := quietly.resolve_left unfinished
    by_cases notified : found.notified = true
    · rw [if_pos notified] at quietly
      simp only [notify, notified, if_true, pure_bind]
      exact (looped here quietly (Quiet.refl process)).weaken
        (fun _ holds => holds.2) (fun _ _ quiet => quiet) fun _ _ quiet => quiet
    · rw [if_neg notified] at quietly
      simp only [notify, if_neg notified, bind_assoc]
      let change : DynamicContinuation → DynamicContinuation :=
        fun continuation => { continuation with notified := true }
      let told : DynamicProcess :=
        { process with
          continuations :=
            updateContinuation taskId change process.continuations }
      have begun : Quiet process told := ⟨rfl, rfl, rfl, rfl⟩
      refine ensures_via (fun _ after => after = told) ?_ fun _ => ?_
      · exact ensures_modify fun _ holds => holds.2 ▸ rfl
      refine ensures_bind ((persistRun_quiet told).weaken (fun _ same => same)
        (fun _ _ after => after) fun _ _ quiet => begun.trans quiet) fun _ => ?_
      rintro current ⟨goes, rfl⟩
      have present : (saved told).continuations.lookup taskId =
          some (change found) := by
        change (updateContinuation taskId change process.continuations).lookup
          taskId = _
        rw [lookup_updateContinuation, if_pos rfl, here]
        rfl
      exact looped present (quietly goes) (begun.trans (saved_quiet told)) _ rfl

end Continuing

/-! ### The steps of a run that is over -/

theorem handlePending_quiet
    {process : DynamicProcess}
    (data : PyDict)
    (ended : process.run.isTerminal = true) :
    Ensures (fun current => current = process) (handlePending data)
      (fun _ => Quiet process) (fun _ => Quiet process) := by
  refine ensures_get fun current same => ?_
  subst same
  rw [if_pos ended]
  exact ensures_pure fun _ same => same ▸ Quiet.refl current

/-- What a message with an attempt does to a run that is over. -/
theorem handleAttempt_quiet
    {process : DynamicProcess}
    (primitives : Primitives)
    (handling : DynamicHandling)
    (messageType : AttemptGate.MessageType)
    (data : PyDict)
    (ended : process.run.isTerminal = true)
    (quietly :
      ∀ taskId continuation,
        messageType = .finishTask →
        Resumes data process taskId continuation →
          ContinuesQuietly primitives handling.environment continuation
            process) :
    Ensures (fun current => current = process)
      (handleAttempt primitives handling messageType data)
      (fun _ => Quiet process) (fun _ => Quiet process) := by
  have still : ∀ current : DynamicProcess, current = process →
      Quiet process current := fun current same => same ▸ Quiet.refl process
  have nothing : Ensures (fun current => current = process)
      (pure () : MonitorCall Unit) (fun _ => Quiet process)
      (fun _ => Quiet process) :=
    ensures_pure still
  refine ensures_get fun current same => ?_
  subst same
  cases accepted : AttemptGate.acceptTaskAttemptEvent messageType data
      current.gate with
  | error raised =>
      exact ensures_throw still
  | ok gate =>
      cases gate with
      | some gate =>
          cases data.get "task_id" with
          | str taskId =>
              change Ensures _ (if current.run.isTerminal = true then pure () else _) _ _
              rw [if_pos ended]
              exact nothing
          | _ => exact ensures_throw still
      | none =>
          change Ensures _
            (if messageType = .finishTask then
                resumeFinish primitives handling.environment data
              else
                pure ()) _ _
          split
          · next finishing =>
            unfold resumeFinish
            split
            · next taskId named =>
              refine ensures_get fun found same => ?_
              subst same
              cases present : found.continuations.lookup taskId with
              | none =>
                  exact nothing
              | some continuation =>
                  dsimp only
                  split
                  · next identity =>
                    have resumes : Resumes data found taskId continuation :=
                      ⟨named, finishing ▸ accepted, present, identity⟩
                    exact continueDynamicFinish_quiet primitives
                      handling.environment present
                      (quietly taskId continuation finishing resumes)
                  · exact nothing
            · exact nothing
          · exact nothing

theorem conclude_quiet
    {start : DynamicProcess}
    {call : MonitorCall Unit}
    (message : SchedulerMessage)
    (ensures :
      Ensures (fun process => process = start) call (fun _ => Quiet start)
        (fun _ => Quiet start)) :
    Quiet start (conclude message (call start)) := by
  cases outcome : call start with
  | ok value after =>
      have quiet := ensures.returned rfl outcome
      exact ⟨quiet.sentTasks, quiet.status, quiet.eventLog, quiet.canonical⟩
  | error raised after =>
      have quiet := ensures.raised rfl outcome
      cases raised <;>
        exact ⟨quiet.sentTasks, quiet.status, quiet.eventLog, quiet.canonical⟩

theorem leaving_quiet
    {process : DynamicProcess}
    {handling : DynamicHandling}
    {call : MonitorCall Unit}
    (ensures :
      Ensures
        (fun current => current = { process with moments := handling.moments })
        call (fun _ => Quiet { process with moments := handling.moments })
        (fun _ => Quiet { process with moments := handling.moments })) :
    Quiet process (leaving handling call process) := by
  have begun : Quiet process { process with moments := handling.moments } :=
    ⟨rfl, rfl, rfl, rfl⟩
  unfold leaving
  cases outcome : call { process with moments := handling.moments } with
  | ok _ after =>
      exact begun.trans (ensures.returned rfl outcome)
  | error _ after =>
      exact begun.trans (ensures.raised rfl outcome)

theorem handle_quiet
    {process : DynamicProcess}
    (primitives : Primitives)
    (handling : DynamicHandling)
    {message : SchedulerMessage}
    (ended : process.run.isTerminal = true)
    (quietly : MessageQuiet primitives handling message process) :
    Quiet process (handle primitives handling message process) := by
  let start : DynamicProcess := { process with moments := handling.moments }
  have begun : Quiet process start := ⟨rfl, rfl, rfl, rfl⟩
  unfold handle
  cases message with
  | pending data =>
      exact begun.trans (conclude_quiet _ (handlePending_quiet data ended))
  | attempt messageType data =>
      dsimp only
      split
      · exact ⟨rfl, rfl, rfl, rfl⟩
      · refine begun.trans (conclude_quiet _ (handleAttempt_quiet primitives
          handling messageType data ended ?_))
        rintro taskId continuation rfl resumes
        exact quietly data taskId continuation rfl
          ⟨resumes.named, resumes.refused, resumes.here, resumes.identity⟩

/-- The calls on a run that is over record nothing. -/
theorem apply_of_terminal
    (render : Time → PyStr)
    {run : DynamicRun}
    (now : Time)
    {call : ApiCall}
    (ended : run.isTerminal = true)
    (unfinalized : ∀ result, call = .finalize result → run.finalized = false) :
    DynamicCore.apply render run now call.operation = (run, none) := by
  have refused := DynamicRun.checkCanMutate_of_terminal render now ended
  have kept := (DynamicCore.frame_apply render run now call.operation).kept ended
  refine Prod.ext kept ?_
  cases call with
  | registerTaskSpec data =>
      simp [ApiCall.operation, DynamicCore.apply, refused, DynamicCore.draftIf,
        DynamicCore.succeeded]
  | emitEvent eventType data =>
      simp only [ApiCall.operation, DynamicCore.apply]
      split
      · rfl
      · simp [refused, DynamicCore.draftIf, DynamicCore.succeeded]
  | finalize result =>
      simp [ApiCall.operation, DynamicCore.apply, DynamicRun.finalize,
        unfinalized result rfl, refused, DynamicCore.draftIf,
        DynamicCore.succeeded]
  | cancel reason =>
      by_cases canceled : run.status = .canceled
      · simp [ApiCall.operation, DynamicCore.apply, DynamicRun.cancel, canceled,
          DynamicCore.draftIf, DynamicCore.returnedTrue]
      · simp [ApiCall.operation, DynamicCore.apply, DynamicRun.cancel, canceled,
          refused, DynamicCore.draftIf, DynamicCore.returnedTrue]
  | timeOut data =>
      have timely : run.deadlinePassed now = false := by
        cases passed : run.deadlinePassed now with
        | false => rfl
        | true =>
            rw [DynamicRun.isTerminal_of_deadlinePassed passed] at ended
            cases ended
      simp [ApiCall.operation, DynamicCore.apply,
        DynamicRun.markTimedOutIfNeeded_of_not_passed render timely,
        DynamicCore.draftIf]
  | interrupt reason data =>
      simp [ApiCall.operation, DynamicCore.apply, DynamicRun.interrupt, ended,
        DynamicCore.draftIf]

theorem operate_quiet
    {process : DynamicProcess}
    (render : Time → PyStr)
    (handling : DynamicHandling)
    {call : ApiCall}
    (ended : process.run.isTerminal = true)
    (unfinalized :
      ∀ result, call = .finalize result → process.run.finalized = false) :
    Ensures (fun current => current = process) (operate render handling call)
      (fun _ => Quiet process) (fun _ => Quiet process) := by
  refine ensures_get fun current same => ?_
  subst same
  rw [apply_of_terminal render handling.now ended unfinalized]
  refine ensures_via (fun _ after => after = current) ?_ fun _ => ?_
  · apply ensures_modify
    rintro after rfl
    rfl
  · exact ensures_pure fun _ same => same ▸ Quiet.refl current

/-- Nothing is appended to a run that is over. -/
theorem appendTask_quiet
    {process : DynamicProcess}
    (render : Time → PyStr)
    (primitives : Primitives)
    (handling : DynamicHandling)
    (request : DynamicRun.AppendRequest)
    (payload : WorkflowTask)
    (data : PyDict)
    (ended : process.run.isTerminal = true) :
    Ensures (fun current => current = process)
      (appendTask render primitives handling request payload data)
      (fun _ => Quiet process) (fun _ => Quiet process) := by
  have refused : process.run.appendTask render request handling.now =
      ⟨process.run, .error process.run.terminalError⟩ := by
    simp [DynamicRun.appendTask,
      DynamicRun.checkCanMutate_of_terminal render handling.now ended]
  refine ensures_get fun current same => ?_
  subst same
  rw [refused]
  refine ensures_via (fun _ after => after = current) ?_ fun _ => ?_
  · apply ensures_modify
    rintro after rfl
    rfl
  · exact ensures_throw fun _ same => same ▸ Quiet.refl current

/-- A step that stays quiet leaves a run that is over alone. -/
theorem leavesAlone_of_staysQuiet
    {render : Time → PyStr}
    {primitives : Primitives}
    {process : DynamicProcess}
    {action : Action}
    (quietly : StaysQuiet primitives process action) :
    LeavesAlone render primitives process action := by
  intro isOver after stepped
  cases action with
  | receive message handling =>
      simp only [step?, Option.ite_none_right_eq_some, Option.some.injEq] at stepped
      obtain ⟨_, rfl⟩ := stepped
      exact handle_quiet primitives handling isOver.1 (quietly isOver)
  | retry handling =>
      simp only [step?, Option.map_eq_some_iff] at stepped
      obtain ⟨message, waiting, rfl⟩ := stepped
      exact handle_quiet primitives handling isOver.1
        (quietly isOver message waiting)
  | append request payload data handling =>
      simp only [step?, Option.ite_none_left_eq_some, Option.some.injEq] at stepped
      obtain ⟨_, rfl⟩ := stepped
      exact leaving_quiet (appendTask_quiet render primitives handling request
        payload data isOver.1)
  | call call handling =>
      simp only [step?, Option.some.injEq] at stepped
      subst stepped
      refine leaving_quiet (operate_quiet render handling isOver.1 ?_)
      rintro result rfl
      exact quietly isOver

end DynamicMonitor

/--
In a run of Core whose steps stay quiet, nothing is done any more to a run that
is over: no task is sent, the status stays, and no event follows the last one.
-/
theorem ended_runs_left_alone
    (rendering : Rendering)
    (render : Time → PyStr)
    (primitives : Primitives)
    (process : StaticProcess)
    (actions : List StaticCore.Action)
    (dynamicProcess : DynamicProcess)
    (dynamicActions : List DynamicMonitor.Action)
    (quietly :
      EveryStep (StaticCore.step? rendering primitives)
        (StaticCore.StaysQuiet primitives) process actions)
    (dynamicQuietly :
      EveryStep (DynamicMonitor.step? render primitives)
        (DynamicMonitor.StaysQuiet primitives) dynamicProcess dynamicActions) :
    EveryStep (StaticCore.step? rendering primitives)
        (StaticCore.LeavesAlone rendering primitives) process actions ∧
      EveryStep (DynamicMonitor.step? render primitives)
        (DynamicMonitor.LeavesAlone render primitives) dynamicProcess
        dynamicActions :=
  ⟨quietly.weaken fun _ _ => StaticCore.leavesAlone_of_staysQuiet,
    dynamicQuietly.weaken fun _ _ => DynamicMonitor.leavesAlone_of_staysQuiet⟩

/-! ### A run that is stopped while a task is followed -/

namespace StaticCore

/-- Where every continuation is completed, every message is quiet. -/
theorem messageQuiet_of_completed
    (primitives : Primitives)
    (handling : Handling)
    (message : SchedulerMessage)
    {process : StaticProcess}
    (completed :
      process.run.finishContinuations.all (fun entry => entry.2.completed) =
        true) :
    MessageQuiet primitives handling message process := by
  intro data taskId continuation _ here _
  obtain ⟨first, last, split, _⟩ := List.lookup_eq_some_iff.mp here
  have entry : (taskId, continuation) ∈ process.run.finishContinuations := by
    rw [split]
    simp
  exact Or.inl (List.all_eq_true.mp completed _ entry)

/-- The second save of the handling fails. -/
def failingHandling : Handling :=
  { plainHandling .absent with saves := [false, true] }

/-- A call on a dynamic run in which everything returns. -/
def plainDynamicHandling : DynamicHandling where
  environment := ⟨.absent, fun _ => .ok none⟩
  now := 0
  manifest := .ok .null
  observation := .ok (.dict [])
  published := .ok ()
  artifactError := .null
  moments := []

/-- The first task finishes and is followed; the run is stopped, and told again. -/
def stoppedActions : List Action :=
  [.receive firstFinished (plainHandling .absent),
    .stop (plainHandling .absent),
    .receive firstFinished (plainHandling .absent)]

/-- The first task finishes, its continuation fails; the run is stopped meanwhile. -/
def overtakenActions : List Action :=
  [.receive firstFinished failingHandling, .stop (plainHandling .absent),
    .retry (plainHandling .absent)]

/-- A run that is stopped after its first task, and a dynamic run canceled twice. -/
theorem stopped_runs_left_alone :
    EveryStep (step? limitedRendering limitedPrimitives)
        (LeavesAlone limitedRendering limitedPrimitives)
        (submitted limitedSubmission) stoppedActions ∧
      EveryStep (DynamicMonitor.step? (fun _ => "") limitedPrimitives)
        (DynamicMonitor.LeavesAlone (fun _ => "") limitedPrimitives)
        (DynamicMonitor.created "run" 10 none .null 0)
        [.call (.cancel .null) plainDynamicHandling,
          .call (.cancel .null) plainDynamicHandling] := by
  refine ended_runs_left_alone limitedRendering (fun _ => "") limitedPrimitives _ _
    _ _ ?_ fun _ _ => ⟨trivial, fun _ _ => ⟨trivial, trivial⟩⟩
  have live : (submitted limitedSubmission).run.isTerminal = false := by decide
  have first : ((step? limitedRendering limitedPrimitives
      (submitted limitedSubmission)
      (.receive firstFinished (plainHandling .absent))).all fun process =>
        !process.run.isTerminal &&
          (step? limitedRendering limitedPrimitives process
            (.stop (plainHandling .absent))).all fun process =>
              process.run.finishContinuations.all
                fun entry => entry.2.completed) = true := by
    decide +kernel
  intro process received
  refine ⟨fun isOver => absurd (isOver.1.symm.trans live) (by decide), ?_⟩
  rw [received, Option.all_some, Bool.and_eq_true, Bool.not_eq_true'] at first
  intro stopped taken
  refine ⟨fun isOver => absurd (isOver.1.symm.trans first.1) (by decide), ?_⟩
  have completed := first.2
  rw [taken, Option.all_some] at completed
  exact fun _ _ => ⟨fun _ => messageQuiet_of_completed limitedPrimitives
    (plainHandling .absent) firstFinished completed, trivial⟩

/--
The continuation of the first task fails with `OSError`, the run is stopped, and
the message is handled again: the second task of the cancelled run is sent.
-/
theorem overtaken_run_goes_on :
    ¬ EveryStep (step? limitedRendering limitedPrimitives)
      (LeavesAlone limitedRendering limitedPrimitives)
      (submitted limitedSubmission) overtakenActions := by
  have ends : (run? (step? limitedRendering limitedPrimitives)
      (submitted limitedSubmission)
      [.receive firstFinished failingHandling,
        .stop (plainHandling .absent)]).any (fun before =>
          before.run.isTerminal &&
            (EventLog.readState .static before.log.file).toOption.any
              (fun state => state.events.any fun entry =>
                decide (entry.2.get "type" =
                  .ok (.str (PyStr.ofString "cancel_workflow")))) &&
            (step? limitedRendering limitedPrimitives before
              (.retry (plainHandling .absent))).any fun after =>
                decide (after.sentTasks ≠ before.sentTasks)) = true := by
    decide +kernel
  obtain ⟨before, executed, facts⟩ := (Option.any_eq_true _ _).mp ends
  simp only [Bool.and_eq_true, Option.any_eq_true, List.any_eq_true,
    decide_eq_true_eq] at facts
  obtain ⟨⟨terminal, state, read, entry, member, type⟩, after, stepped, sent⟩ :=
    facts
  have recorded : EndRecorded before.log.file := by
    refine ⟨state, ?_, entry, member, "cancel_workflow", by decide, type⟩
    cases loaded : EventLog.readState .static before.log.file with
    | ok found =>
        rw [loaded] at read
        rw [Option.some.inj read]
    | error raised =>
        rw [loaded] at read
        cases read
  intro alone
  have split : overtakenActions =
      [.receive firstFinished failingHandling, .stop (plainHandling .absent)] ++
        .retry (plainHandling .absent) :: [] := rfl
  rw [split] at alone
  have quiet := alone.of_run executed stepped ⟨terminal, recorded⟩ after stepped
  exact sent quiet.sentTasks

end StaticCore

end Maze.Core
