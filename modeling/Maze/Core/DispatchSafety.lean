import Maze.Core.DispatchCalls

namespace Maze.Core.WorkflowDispatch

open Maze.Python
open Maze.Library
open Maze.Library.Fallible
open Maze.Library.Transition
open Maze.Scheduler.WorkflowRegistry (Registry)

/-!
# What a dispatch guarantees

Every step keeps the invariant, so it holds in every state that a run of the system
reaches, over crashes and restarts of Core.
-/

section Steps

variable
  {uuid4 : ℕ → PyStr}
  {runId : Identifier}
  {held : HeldRun}
  {system next final : System}
  {actions : List Action}

/-! ## Steps -/

/-- However a call ends, the state that is left is sound. -/
theorem settle_sound
    {call : Call Unit}
    {before : System → Prop}
    (ensures : Leaves before call (Live uuid4))
    (holds : before system) :
    Sound uuid4 (settle (call system)) := by
  have outcome := ensures system holds
  cases ended : call system with
  | ok value after =>
      rw [ended] at outcome
      exact outcome.sound
  | error ending after =>
      rw [ended] at outcome
      cases ending with
      | crashed => exact outcome.sound.crash
      | raised | conflict | initialization => exact outcome.sound

theorem openRun?_eq_some
    (opened : system.openRun? runId = some held) :
    system.alive = true ∧ system.staticRuns.get? runId = some held ∧
      held.requiresCleanup = false := by
  unfold System.openRun? at opened
  split at opened
  · next alive =>
    obtain ⟨found, open_⟩ := Option.filter_eq_some_iff.mp opened
    exact ⟨alive, found, by simpa using open_⟩
  · cases opened

/-- The scheduler can only report on a run whose first tasks have been sent. -/
theorem Sound.handled
    (sound : Sound uuid4 system)
    (found : system.staticRuns.get? runId = some held)
    (open_ : held.requiresCleanup = false)
    (handles : system.mayHandle runId held = true) :
    held.dispatch.status = .active ∧ system.Sent runId := by
  simp only [System.mayHandle, Bool.and_eq_true, decide_eq_true_eq,
    Bool.not_eq_true'] at handles
  have holds := sound.held runId held found
  have sent := sound.heard runId handles.1
  refine ⟨?_, sent⟩
  cases status : held.dispatch.status with
  | active => rfl
  | prepared => exact absurd sent (holds.unsent status)
  | terminal =>
      have terminal := (holds.ended status).1
      rw [handles.2] at terminal
      cases terminal
  | dispatching => simp [HeldRun.requiresCleanup, status] at open_
  | cleanupPending => simp [HeldRun.requiresCleanup, status] at open_

/-- A handler changes a run. -/
theorem Sound.changeRun
    {run : StaticRun}
    (sound : Sound uuid4 system)
    (found : system.staticRuns.get? runId = some held)
    (open_ : held.requiresCleanup = false)
    (same :
      run.runId = held.run.runId ∧ run.workflowId = held.run.workflowId)
    (ended : held.run.isTerminal → run.isTerminal)
    (continues :
      run.finishContinuations = [] ∨ held.run.finishContinuations ≠ [] ∨
        system.mayHandle runId held) :
    Sound uuid4
      { system with
        staticRuns := system.staticRuns.set runId (held.withRun run same) } := by
  have holds := sound.held runId held found
  have handled := sound.handled found open_
  refine sound.hold
    { holds with
      continues := fun more => ?_
      ended := fun terminal => (holds.ended terminal).imp ended id }
  rcases continues with none_ | before | handles
  · exact absurd none_ more
  · exact holds.continues before
  · exact handled handles

theorem sound_step
    {action : Action}
    (distinct : Function.Injective uuid4)
    (sound : Sound uuid4 system)
    (stepped : step? uuid4 system action = some next) :
    Sound uuid4 next := by
  cases action with
  | runWorkflow submission start =>
      obtain ⟨alive, ⟨⟩⟩ := Option.ite_none_right_eq_some.mp stepped
      exact settle_sound (runWorkflow_live distinct start) ⟨alive, sound, trivial⟩
  | changeRun runId run =>
      obtain ⟨held, opened, stepped⟩ := Option.bind_eq_some_iff.mp stepped
      obtain ⟨_, found, open_⟩ := openRun?_eq_some opened
      split at stepped
      · next same =>
        obtain ⟨⟨ended, continues⟩, ⟨⟩⟩ := Option.ite_none_right_eq_some.mp stepped
        exact sound.changeRun found open_ same ended continues
      · cases stepped
  | saveRun runId run outcome =>
      obtain ⟨held, opened, stepped⟩ := Option.bind_eq_some_iff.mp stepped
      obtain ⟨alive, found, _⟩ := openRun?_eq_some opened
      split at stepped
      · next same =>
        obtain rfl := Option.some.inj stepped
        exact settle_sound (saveSnapshot_live outcome)
          ⟨⟨alive, sound, trivial⟩, { sound.storable found with }⟩
      · cases stepped
  | sendTask runId taskId =>
      obtain ⟨held, opened, stepped⟩ := Option.bind_eq_some_iff.mp stepped
      obtain ⟨_, found, open_⟩ := openRun?_eq_some opened
      obtain ⟨⟨_, allowed⟩, ⟨⟩⟩ := Option.ite_none_right_eq_some.mp stepped
      have underway : held.dispatch.status = .active ∧ system.Sent runId :=
        allowed.elim (sound.held runId held found).continues
          (sound.handled found open_)
      have kept := sound.sendTask found (.inr underway.1)
        (sound.sent runId underway.2) taskId
        (fun root inside => absurd inside List.not_mem_nil)
        (by rw [List.append_nil]; exact sound.rootsOnce)
      rw [List.append_nil] at kept
      exact kept
  | sendEnd runId clear =>
      obtain ⟨_, ⟨⟩⟩ := Option.ite_none_right_eq_some.mp stepped
      cases clear <;> exact sound.send (fun _ => rfl) fun _ _ same => by cases same
  | requestCleanup runId reason request =>
      simp only [step?] at stepped
      split at stepped
      · cases stepped
      · next held found =>
        obtain ⟨⟨alive, requires⟩, ⟨⟩⟩ := Option.ite_none_right_eq_some.mp stepped
        exact settle_sound (requestHeldCleanup_live distinct request
          ⟨alive, sound, trivial⟩ found (sound.idle_of_requiresCleanup found requires)) rfl
  | receiveAnswer answer finish =>
      obtain ⟨⟨alive, inside⟩, ⟨⟩⟩ := Option.ite_none_right_eq_some.mp stepped
      exact settle_sound (handleWorkflowCleanupResponse_live finish)
        ⟨⟨alive, sound, trivial⟩, inside⟩
  | retryCleanups now conditions =>
      obtain ⟨alive, ⟨⟩⟩ := Option.ite_none_right_eq_some.mp stepped
      exact settle_sound (retryPendingWorkflowCleanups_live now conditions)
        ⟨alive, sound, trivial⟩
  | requestShutdown outcome =>
      obtain ⟨alive, ⟨⟩⟩ := Option.ite_none_right_eq_some.mp stepped
      exact settle_sound ((requestSchedulerShutdown_live outcome).weaken (fun _ => id)
        (fun _ _ holds => holds.1) fun _ _ => id) ⟨alive, sound, trivial⟩
  | exitScheduler =>
      obtain rfl := Option.some.inj stepped
      exact { sound with }
  | cleanRay =>
      obtain ⟨_, ⟨⟩⟩ := Option.ite_none_left_eq_some.mp stepped
      exact sound.clean
  | handleExit runId reason request finish =>
      obtain ⟨⟨alive, _⟩, ⟨⟩⟩ := Option.ite_none_right_eq_some.mp stepped
      exact settle_sound (handleSchedulerExit_live distinct request finish)
        ⟨alive, sound, trivial⟩
  | deliver delivery =>
      simp only [step?] at stepped
      split at stepped
      · next message rest _ channel =>
        obtain rfl := Option.some.inj stepped
        exact sound.receive channel delivery
      · cases stepped
  | schedule action =>
      simp only [step?] at stepped
      split at stepped
      · cases stepped
      · cases stepped
      · next running owned =>
        obtain ⟨registry, moved, rfl⟩ := Option.map_eq_some_iff.mp stepped
        exact sound.advance running (fun runId same => owned runId same) moved
  | crash =>
      obtain rfl := Option.some.inj stepped
      exact sound.crash
  | restart listed conditions =>
      simp only [step?] at stepped
      split at stepped
      · cases stepped
      · have outcome := restart_ensures listed conditions system sound
        split at stepped
        · next after ended =>
          obtain rfl := Option.some.inj stepped
          rw [ended] at outcome
          exact outcome
        · next after ended =>
          obtain rfl := Option.some.inj stepped
          rw [ended] at outcome
          exact outcome.crash

/-! ## Results -/

/-- The status of the dispatch that is on disk. -/
def System.savedStatus?
    (system : System)
    (runId : Identifier) :
    Option DispatchStatus :=
  ((system.stored.get? runId).bind fun snapshot => snapshot.dispatch).map
    fun dispatch => dispatch.status

/-- Core has ended the dispatch of the run, or has revoked what its tasks may read. -/
def System.GivenUp
    (system : System)
    (runId : Identifier) : Prop :=
  runId ∈ system.revoked ∨
    ∃ held, system.staticRuns.get? runId = some held ∧
      held.dispatch.status = .terminal

theorem sound_run
    (distinct : Function.Injective uuid4)
    (executed : run? (step? uuid4) .initial actions = some final) :
    Sound uuid4 final :=
  run?_invariant (fun _ _ _ sound stepped => sound_step distinct sound stepped)
    sound_initial executed

/--
No task of a run has ever been sent whose dispatch is saved as prepared, so a restart
may end it without asking the scheduler.
-/
theorem prepared_run_never_sent
    (distinct : Function.Injective uuid4)
    (executed : run? (step? uuid4) .initial actions = some final)
    (prepared : final.savedStatus? runId = some .prepared) :
    (∀ taskId, (runId, taskId) ∉ final.sentTasks) ∧ final.Silent runId := by
  have sound := sound_run distinct executed
  have unsent : ¬ final.Sent runId := by
    intro sent
    obtain ⟨snapshot, dispatch, stored, saved, unprepared⟩ := sound.sent runId sent
    rw [System.savedStatus?, stored, Option.bind_some, saved] at prepared
    exact unprepared (Option.some.inj prepared)
  exact ⟨fun taskId inside => unsent ⟨taskId, inside⟩, sound.silent_of_unsent unsent⟩

/-- `run_workflow` never sends one of the first tasks of a run twice. -/
theorem first_tasks_sent_once
    (distinct : Function.Injective uuid4)
    (executed : run? (step? uuid4) .initial actions = some final) :
    final.sentRoots.Nodup :=
  (sound_run distinct executed).rootsOnce

/-- All submissions that are answered with the same run id were the same. -/
theorem accepted_submissions_agree
    {first second : Identifier × PyStr}
    (distinct : Function.Injective uuid4)
    (executed : run? (step? uuid4) .initial actions = some final)
    (firstAccepted : first ∈ final.accepted)
    (secondAccepted : second ∈ final.accepted)
    (same : first.1 = second.1) :
    first = second := by
  have sound := sound_run distinct executed
  obtain ⟨snapshot, stored, firstDigest⟩ := sound.accepted first firstAccepted
  obtain ⟨other, there, secondDigest⟩ := sound.accepted second secondAccepted
  rw [same] at stored
  obtain rfl := Option.some.inj (stored.symm.trans there)
  exact Prod.ext same (Option.some.inj (firstDigest.symm.trans secondDigest))

/--
Until Core tells the scheduler to shut down, a run that Core has given up has no task
at the scheduler and gets none.
-/
theorem given_up_run_silent
    (distinct : Function.Injective uuid4)
    (executed : run? (step? uuid4) .initial actions = some final)
    (givenUp : final.GivenUp runId)
    (running : final.shutdownRequested = false) :
    final.Silent runId := by
  have sound := sound_run distinct executed
  have quiet : final.Quiet runId := by
    rcases givenUp with revoked | ⟨held, found, terminal⟩
    · exact (sound.revoked runId revoked).2
    · exact ((sound.held runId held found).ended terminal).2
  refine quiet.resolve_right fun told => ?_
  rw [running] at told
  cases told

/-- Core does not revoke what the tasks of a run may read while it dispatches the run. -/
theorem underway_run_unrevoked
    (distinct : Function.Injective uuid4)
    (executed : run? (step? uuid4) .initial actions = some final)
    (found : final.staticRuns.get? runId = some held)
    (underway : held.dispatch.status = .dispatching ∨ held.dispatch.status = .active) :
    runId ∉ final.revoked :=
  ((sound_run distinct executed).held runId held found).unrevoked underway

/--
If Core still waits for the request that an answer belongs to, the run is silent,
however late the answer is.
-/
theorem awaited_answer_silent
    {answer : Answer}
    (distinct : Function.Injective uuid4)
    (executed : run? (step? uuid4) .initial actions = some final)
    (inside : answer ∈ final.answers)
    (ok : answer.ok = true)
    (found : final.staticRuns.get? answer.runId = some held)
    (pending : held.dispatch.status = .cleanupPending)
    (named : held.dispatch.cleanupRequestId = some answer.requestId) :
    final.Silent answer.runId := by
  have requested :=
    ((sound_run distinct executed).held answer.runId held found).pending _ pending named
  refine requested.answered ?_
  rw [← ok]
  exact inside

end Steps

/-! ## A workflow of one task -/

/-- Request ids that never repeat. -/
def countedIds (number : ℕ) : PyStr :=
  ⟨List.replicate (number + 1) 97⟩

theorem countedIds_injective : Function.Injective countedIds := by
  intro first second same
  have lengths := congrArg (fun text : PyStr => text.chars.length) same
  simpa [countedIds] using lengths

/-- A run of one task. -/
def soloSubmission : Submission where
  runId := ⟨"run", Scheduler.run_nonempty⟩
  workflowId := "workflow"
  digest := "digest"

/-- The task may read private artifacts. -/
def soloPrepared : Prepared soloSubmission where
  run := StaticCore.newRun StaticRecovery.soloSubmission
  rootTaskIds := ["a"]
  artifactsEnabled := true
  privateArtifacts := true
  named := ⟨rfl, rfl⟩
  fresh := ⟨rfl, rfl⟩
  distinct := List.nodup_singleton _
  encodable := ⟨rfl, rfl⟩

/-- An append that completes. -/
def completeWrite : LogWrite where
  write := .completes
  crashes := false
  timestamp := "2026-01-01T00:00:00"
  printed _ := ⟨"OSError", ""⟩

/-- Nothing goes wrong. -/
def calmFinish : Finish where
  load := .returns
  revoke := .returns
  write := completeWrite
  save := .returns

/-- Nothing goes wrong. -/
def calmRequest : Request where
  save := .returns
  send := .returns
  now := 0

/-- Nothing goes wrong. -/
def calmStart : Start soloSubmission where
  load := .returns
  checks := .ok soloPrepared
  firstSave := .returns
  artifacts := .returns
  payloads _ := .returns
  readySave := .returns
  startEvent := completeWrite
  dispatchingSave := .returns
  sends _ := .returns
  activeSave := .returns
  finish := calmFinish
  request := calmRequest

/-- Core starts for the first time. -/
def firstStart : Action :=
  .restart [] fun _ =>
    { attempt := StaticRecovery.undisturbedAttempt
      printed := fun _ => ⟨"OSError", ""⟩
      finish := calmFinish
      request := calmRequest }

/-- The state that the actions lead to. -/
def reached (actions : List Action) : System :=
  (run? (step? countedIds) .initial actions).getD .initial

theorem run?_reached
    {actions : List Action}
    (executed : (run? (step? countedIds) .initial actions).isSome = true) :
    run? (step? countedIds) .initial actions = some (reached actions) := by
  obtain ⟨final, same⟩ := Option.isSome_iff_exists.mp executed
  rw [reached, same, Option.getD_some]

/-- Core dies while it prepares the run. -/
def diesPreparing : List Action :=
  [firstStart, .runWorkflow soloSubmission { calmStart with artifacts := .crashes true }]

theorem diesPreparing_executed :
    (run? (step? countedIds) .initial diesPreparing).isSome = true := by
  decide +kernel

theorem diesPreparing_never_sent :
    (∀ taskId, (soloSubmission.runId, taskId) ∉ (reached diesPreparing).sentTasks) ∧
      (reached diesPreparing).Silent soloSubmission.runId :=
  prepared_run_never_sent countedIds_injective (run?_reached diesPreparing_executed)
    (by decide +kernel)

/-- The run is submitted, and the same submission comes once more. -/
def submitsTwice : List Action :=
  [firstStart, .runWorkflow soloSubmission calmStart,
    .runWorkflow soloSubmission calmStart]

theorem submitsTwice_executed :
    (run? (step? countedIds) .initial submitsTwice).isSome = true := by
  decide +kernel

theorem submitsTwice_sent_once :
    (reached submitsTwice).sentRoots.Nodup :=
  first_tasks_sent_once countedIds_injective (run?_reached submitsTwice_executed)

theorem submitsTwice_agree :
    (reached submitsTwice).accepted.length = 2 ∧
      (soloSubmission.runId, soloSubmission.digest) =
        (soloSubmission.runId, soloSubmission.digest) :=
  ⟨by decide +kernel,
    accepted_submissions_agree countedIds_injective
      (run?_reached submitsTwice_executed) (by decide +kernel) (by decide +kernel) rfl⟩

/-- The scheduler cannot be reached for the task, and answers the cleanup. -/
def asksCleanup : List Action :=
  [firstStart,
    .runWorkflow soloSubmission
      { calmStart with sends := fun _ => .raises true ⟨"OSError", ""⟩ },
    .deliver .accepted, .deliver .accepted]

/-- The answer to the first request. -/
def firstAnswer : Answer := ⟨countedIds 0, soloSubmission.runId, true⟩

/-- Core takes the answer. -/
def cleansUp : List Action :=
  asksCleanup ++ [.receiveAnswer firstAnswer calmFinish]

theorem cleansUp_executed :
    (run? (step? countedIds) .initial cleansUp).isSome = true := by
  decide +kernel

theorem cleansUp_silent :
    (reached cleansUp).Silent soloSubmission.runId :=
  given_up_run_silent countedIds_injective (run?_reached cleansUp_executed)
    (.inl (by decide +kernel)) (by decide +kernel)

theorem submitsTwice_unrevoked :
    soloSubmission.runId ∉ (reached submitsTwice).revoked := by
  have active :
      ((reached submitsTwice).staticRuns.get? soloSubmission.runId).any
        (fun held => decide (held.dispatch.status = .active)) = true := by
    decide +kernel
  obtain ⟨held, found, active⟩ := (Option.any_eq_true _ _).mp active
  exact underway_run_unrevoked countedIds_injective
    (run?_reached submitsTwice_executed) found (.inr (of_decide_eq_true active))

theorem asksCleanup_executed :
    (run? (step? countedIds) .initial asksCleanup).isSome = true := by
  decide +kernel

theorem asksCleanup_silent :
    firstAnswer ∈ (reached asksCleanup).answers ∧
      (reached asksCleanup).Silent firstAnswer.runId := by
  have given : firstAnswer ∈ (reached asksCleanup).answers := by decide +kernel
  have awaited :
      ((reached asksCleanup).staticRuns.get? firstAnswer.runId).any
        (fun held => decide (held.dispatch.status = .cleanupPending ∧
          held.dispatch.cleanupRequestId = some firstAnswer.requestId)) = true := by
    decide +kernel
  obtain ⟨held, found, awaited⟩ := (Option.any_eq_true _ _).mp awaited
  obtain ⟨pending, named⟩ := of_decide_eq_true awaited
  exact ⟨given, awaited_answer_silent countedIds_injective
    (run?_reached asksCleanup_executed) given rfl found pending named⟩

end Maze.Core.WorkflowDispatch
