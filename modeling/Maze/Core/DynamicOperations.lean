import Maze.Core.DynamicPersistence

namespace Maze.Core

open Maze.Python

/-!
# What an operation does to a dynamic run

Every operation of Core leaves the id and the event log of a run to the event it
records, changes nothing in a terminal run, and records an event that ends a run
only with the status that the run then has. A task failure by timeout is the one
exception: its event is a `task_exception` and the run is timed out.
-/

namespace DynamicCore

open DynamicRunStore

/-! ## What an operation does to the run in memory -/

/-- What every operation leaves alone in a run. -/
structure Frame (run after : DynamicRun) : Prop where
  runId : after.runId = run.runId
  eventLog : after.eventLog = run.eventLog
  kept : run.isTerminal = true → after = run
  finalized :
    run.isTerminal = false → run.finalized = false →
      after.finalized = true → after.status = .finalized

theorem Frame.refl (run : DynamicRun) : Frame run run where
  runId := rfl
  eventLog := rfl
  kept := fun _ => rfl
  finalized := fun _ unfinalized finalized => by
    rw [unfinalized] at finalized
    cases finalized

/-- A change of a live run that does not finalize it. -/
theorem Frame.of_live
    {run after : DynamicRun}
    (live : run.isTerminal = false)
    (runId : after.runId = run.runId)
    (eventLog : after.eventLog = run.eventLog)
    (finalized : after.finalized = run.finalized) :
    Frame run after where
  runId := runId
  eventLog := eventLog
  kept := fun terminal => by
    rw [live] at terminal
    cases terminal
  finalized := fun _ unfinalized isFinalized => by
    rw [finalized, unfinalized] at isFinalized
    cases isFinalized

theorem frame_timedOutRun
    (render : Time → PyStr)
    {run : DynamicRun}
    (now : Time)
    (live : run.isTerminal = false) :
    Frame run (run.timedOutRun render now) :=
  .of_live live rfl rfl rfl

/-- The three ways in which a run answers a mutation. -/
theorem checkCanMutate_cases
    (render : Time → PyStr)
    (run : DynamicRun)
    (now : Time) :
    (∃ raised, run.isTerminal = false ∧
        run.checkCanMutate render now =
          ⟨run.timedOutRun render now, .error raised⟩) ∨
      (∃ raised, run.checkCanMutate render now = ⟨run, .error raised⟩) ∨
      (run.isTerminal = false ∧
        run.checkCanMutate render now = ⟨run, .ok ()⟩) := by
  cases passed : run.deadlinePassed now with
  | true =>
      obtain ⟨raised, checked⟩ :=
        DynamicRun.checkCanMutate_of_passed render passed
      exact .inl ⟨raised, DynamicRun.isTerminal_of_deadlinePassed passed, checked⟩
  | false =>
      cases terminal : run.isTerminal with
      | true =>
          exact .inr (.inl ⟨_,
            DynamicRun.checkCanMutate_of_terminal render now terminal⟩)
      | false =>
          exact .inr (.inr ⟨rfl,
            DynamicRun.checkCanMutate_of_live render passed terminal⟩)

theorem frame_checkCanMutate
    (render : Time → PyStr)
    (run : DynamicRun)
    (now : Time) :
    Frame run (run.checkCanMutate render now).state := by
  rcases checkCanMutate_cases render run now with
    ⟨raised, live, checked⟩ | ⟨raised, checked⟩ | ⟨_, checked⟩
  · rw [checked]
    exact frame_timedOutRun render now live
  · rw [checked]
    exact .refl run
  · rw [checked]
    exact .refl run

theorem frame_addTask
    {run : DynamicRun}
    (request : DynamicRun.AppendRequest)
    (now : Time)
    (live : run.isTerminal = false) :
    Frame run (run.addTask request now) := by
  simp only [DynamicRun.addTask]
  split
  · exact .of_live live rfl rfl rfl
  · exact .of_live live rfl rfl rfl

theorem frame_appendTask
    (render : Time → PyStr)
    (run : DynamicRun)
    (request : DynamicRun.AppendRequest)
    (now : Time) :
    Frame run (run.appendTask render request now).state := by
  rcases checkCanMutate_cases render run now with
    ⟨raised, live, checked⟩ | ⟨raised, checked⟩ | ⟨live, checked⟩
  · simp only [DynamicRun.appendTask, checked]
    exact frame_timedOutRun render now live
  · simp only [DynamicRun.appendTask, checked]
    exact .refl run
  · simp only [DynamicRun.appendTask, checked]
    split
    · exact .refl run
    · split
      · exact .refl run
      · split
        · exact .refl run
        · split
          · exact frame_addTask request now live
          · exact .refl run

theorem frame_finalize
    (render : Time → PyStr)
    (run : DynamicRun)
    (result : PyVal)
    (now : Time) :
    Frame run (run.finalize render result now).state := by
  unfold DynamicRun.finalize
  split
  · exact .refl run
  · rcases checkCanMutate_cases render run now with
      ⟨raised, live, checked⟩ | ⟨raised, checked⟩ | ⟨live, checked⟩
    · simp only [checked]
      exact frame_timedOutRun render now live
    · simp only [checked]
      exact .refl run
    · simp only [checked]
      split
      · exact {
          runId := rfl
          eventLog := rfl
          kept := fun terminal => by
            rw [live] at terminal
            cases terminal
          finalized := fun _ _ _ => rfl }
      · exact .refl run

theorem frame_cancel
    (render : Time → PyStr)
    (run : DynamicRun)
    (reason : PyVal)
    (now : Time) :
    Frame run (run.cancel render reason now).state := by
  unfold DynamicRun.cancel
  split
  · exact .refl run
  · rcases checkCanMutate_cases render run now with
      ⟨raised, live, checked⟩ | ⟨raised, checked⟩ | ⟨live, checked⟩
    · simp only [checked]
      exact frame_timedOutRun render now live
    · simp only [checked]
      exact .refl run
    · simp only [checked]
      exact .of_live live rfl rfl rfl

theorem frame_markTimedOutIfNeeded
    (render : Time → PyStr)
    (run : DynamicRun)
    (now : Time) :
    Frame run (run.markTimedOutIfNeeded render now).1 := by
  cases passed : run.deadlinePassed now with
  | true =>
      rw [DynamicRun.markTimedOutIfNeeded_of_passed render passed]
      exact frame_timedOutRun render now
        (DynamicRun.isTerminal_of_deadlinePassed passed)
  | false =>
      rw [DynamicRun.markTimedOutIfNeeded_of_not_passed render passed]
      exact .refl run

/-- A change that leaves a terminal run alone. -/
theorem frame_unlessTerminal
    {run after : DynamicRun}
    (live : run.isTerminal = false → Frame run after)
    (terminal : run.isTerminal = true → after = run) :
    Frame run after := by
  cases ended : run.isTerminal with
  | false =>
      exact live ended
  | true =>
      rw [terminal ended]
      exact .refl run

/-- Every operation keeps the frame of the run. -/
theorem frame_apply
    (render : Time → PyStr)
    (run : DynamicRun)
    (now : Time)
    (operation : Operation) :
    Frame run (apply render run now operation).1 := by
  cases operation with
  | registerTaskSpec data =>
      exact frame_checkCanMutate render run now
  | appendTask request data =>
      exact frame_appendTask render run request now
  | emitEvent eventType data =>
      simp only [apply]
      split
      · exact .refl run
      · exact frame_checkCanMutate render run now
  | finalize result =>
      exact frame_finalize render run result now
  | cancel reason =>
      exact frame_cancel render run reason now
  | timeOut data =>
      exact frame_markTimedOutIfNeeded render run now
  | interrupt reason data =>
      apply frame_unlessTerminal
      · intro live
        simp only [apply, DynamicRun.interrupt, live]
        exact .of_live live rfl rfl rfl
      · intro terminal
        simp [apply, DynamicRun.interrupt, terminal]
  | startTask taskId data =>
      apply frame_unlessTerminal
      · intro live
        simp only [apply, DynamicRun.markStarted, live]
        exact .of_live live rfl rfl rfl
      · intro terminal
        simp [apply, DynamicRun.markStarted, terminal]
  | taskRetry taskId error data =>
      apply frame_unlessTerminal
      · intro live
        simp only [apply, DynamicRun.markRetrying, live]
        exact .of_live live rfl rfl rfl
      · intro terminal
        simp [apply, DynamicRun.markRetrying, terminal]
  | taskException taskId data =>
      apply frame_unlessTerminal
      · intro live
        simp only [apply, DynamicRun.markFailed, live]
        exact .of_live live rfl rfl rfl
      · intro terminal
        simp [apply, DynamicRun.markFailed, terminal]
  | finishTask taskId data =>
      apply frame_unlessTerminal
      · intro live
        simp only [apply, DynamicRun.markFinished, live]
        exact .of_live live rfl rfl rfl
      · intro terminal
        simp [apply, DynamicRun.markFinished, terminal]
  | startRun | taskPending | taskReady | emitAgain | save =>
      exact .refl run

/-! ## The status that an event states -/

/-- A task failure by timeout: its event says `timed_out`, its type `failed`. -/
def misstatesEnd
    (run : DynamicRun) :
    Operation → Bool
  | .taskException _ data =>
      !run.isTerminal && DynamicRun.isTimeoutReason (DynamicSnapshot.failureOf data)
  | _ => false

/-- An event of the draft states the status of the run, if it ends one. -/
def States (run : DynamicRun) (draft : Draft) : Prop :=
  ∀ status, terminalEventStatus draft.eventType = some status →
    run.status = status

theorem states_of_goesOn
    {run : DynamicRun}
    (succeeded : Bool)
    {eventType : PyStr}
    {data : PyDict}
    (goesOn : terminalEventStatus eventType = none)
    {draft : Draft}
    (drafted : draftIf succeeded eventType data = some draft) :
    States run draft := by
  intro status ends
  unfold draftIf at drafted
  split at drafted
  · obtain rfl := Option.some.inj drafted
    rw [goesOn] at ends
    cases ends
  · cases drafted

theorem states_of_status
    {run : DynamicRun}
    (succeeded : Bool)
    (ended : RunStatus)
    {eventType : PyStr}
    {data : PyDict}
    (ends : terminalEventStatus eventType = some ended)
    (moved : succeeded = true → run.status = ended)
    {draft : Draft}
    (drafted : draftIf succeeded eventType data = some draft) :
    States run draft := by
  intro status statesEnd
  unfold draftIf at drafted
  split at drafted
  · rename_i passed
    obtain rfl := Option.some.inj drafted
    rw [ends] at statesEnd
    obtain rfl := Option.some.inj statesEnd
    exact moved passed
  · cases drafted

/-- Custom event types end no run. -/
theorem goesOn_of_notReserved
    {eventType : PyStr}
    (custom : eventType ∉ reservedEventTypes) :
    terminalEventStatus eventType = none := by
  simp only [reservedEventTypes, List.mem_cons, not_or] at custom
  simp only [terminalEventStatus]
  grind

theorem status_of_finalize
    (render : Time → PyStr)
    {run : DynamicRun}
    (result : PyVal)
    (now : Time)
    (finalizedStatus : run.finalized = true → run.status = .finalized)
    (passed : succeeded (run.finalize render result now).result = true) :
    (run.finalize render result now).state.status = .finalized := by
  cases finalized : run.finalized with
  | true =>
      simpa [DynamicRun.finalize, finalized] using finalizedStatus finalized
  | false =>
      rcases checkCanMutate_cases render run now with
        ⟨raised, _, checked⟩ | ⟨raised, checked⟩ | ⟨_, checked⟩
      · simp [DynamicRun.finalize, finalized, checked, succeeded] at passed
      · simp [DynamicRun.finalize, finalized, checked, succeeded] at passed
      · cases ready : run.canFinalize with
        | true =>
            simp [DynamicRun.finalize, finalized, checked, ready]
        | false =>
            simp [DynamicRun.finalize, finalized, checked, ready, succeeded]
              at passed

theorem status_of_cancel
    (render : Time → PyStr)
    {run : DynamicRun}
    (reason : PyVal)
    (now : Time)
    (changed : returnedTrue (run.cancel render reason now).result = true) :
    (run.cancel render reason now).state.status = .canceled := by
  by_cases canceled : run.status = .canceled
  · simp [DynamicRun.cancel, canceled, returnedTrue] at changed
  · rcases checkCanMutate_cases render run now with
      ⟨raised, _, checked⟩ | ⟨raised, checked⟩ | ⟨_, checked⟩
    · simp [DynamicRun.cancel, canceled, checked, returnedTrue] at changed
    · simp [DynamicRun.cancel, canceled, checked, returnedTrue] at changed
    · simp [DynamicRun.cancel, canceled, checked, DynamicRun.failActiveTasks]

/-- The event of an operation states the status that the operation leaves. -/
theorem states_apply
    (render : Time → PyStr)
    {run : DynamicRun}
    (now : Time)
    {operation : Operation}
    (finalizedStatus : run.finalized = true → run.status = .finalized)
    (truthful : misstatesEnd run operation = false)
    {draft : Draft}
    (drafted : (apply render run now operation).2 = some draft) :
    States (apply render run now operation).1 draft := by
  cases operation with
  | startRun data =>
      obtain rfl := Option.some.inj drafted
      exact states_of_goesOn true (by decide) rfl
  | registerTaskSpec data =>
      exact states_of_goesOn _ (by decide) drafted
  | appendTask request data =>
      exact states_of_goesOn _ (by decide) drafted
  | emitEvent eventType data =>
      simp only [apply] at drafted
      split at drafted
      · cases drafted
      · rename_i custom
        exact states_of_goesOn _ (goesOn_of_notReserved custom) drafted
  | finalize result =>
      exact states_of_status _ .finalized (by decide)
        (status_of_finalize render result now finalizedStatus) drafted
  | cancel reason =>
      exact states_of_status _ .canceled (by decide)
        (status_of_cancel render reason now) drafted
  | timeOut data =>
      refine states_of_status (run.markTimedOutIfNeeded render now).2 .timedOut (by decide) ?_
        drafted
      intro timedOut
      cases passed : run.deadlinePassed now with
      | true =>
          simp [apply, DynamicRun.markTimedOutIfNeeded_of_passed render passed,
            DynamicRun.timedOutRun, DynamicRun.failActiveTasks]
      | false =>
          rw [DynamicRun.markTimedOutIfNeeded_of_not_passed render passed]
            at timedOut
          cases timedOut
  | interrupt reason data =>
      refine states_of_status (run.interrupt reason now).2 .interrupted (by decide) ?_ drafted
      intro interrupted
      cases terminal : run.isTerminal with
      | true =>
          simp [DynamicRun.interrupt, terminal] at interrupted
      | false =>
          simp [apply, DynamicRun.interrupt, terminal,
            DynamicRun.failActiveTasks]
  | taskException taskId data =>
      refine states_of_status (!run.isTerminal) .failed (by decide) ?_ drafted
      intro live
      have live : run.isTerminal = false := by simpa using live
      have timely : DynamicRun.isTimeoutReason
          (DynamicSnapshot.failureOf data) = false := by
        simpa [misstatesEnd, live] using truthful
      simp [apply, DynamicRun.markFailed, live, timely]
  | taskReady data =>
      obtain rfl := Option.some.inj drafted
      exact states_of_goesOn true (by decide) rfl
  | startTask | taskPending | taskRetry | finishTask =>
      exact states_of_goesOn _ (by decide) drafted
  | emitAgain seq =>
      cases drafted
  | save =>
      cases drafted

end DynamicCore

end Maze.Core
