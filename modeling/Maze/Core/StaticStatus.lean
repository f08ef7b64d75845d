import Maze.Core.StaticDispatch
import Maze.Core.StaticMarks

namespace Maze.Core.StaticStatus

open Maze.Python
open Maze.Library.Fallible
open Maze.Library.Transition
open AttemptGate (MessageType)
open StaticCore
open StaticMarks

/-!
# The status of a static run over its life

A run is made, its first tasks are sent, and then Core handles what the scheduler
reports, the deadline, a stop and the exit of the scheduler. The scheduler reports
only on tasks that it has been sent. While the submission has not returned, Core
drops what it hears of the run, and all that can happen to it is that the
submission fails.
-/

/-- A run in Core, and whether its submission has returned. -/
structure Process where
  core : StaticProcess
  dispatched : Bool

/-- What happens to a run. -/
inductive Action where
  | dispatch
  | failDispatch (error : PyVal) (handling : Handling)
  | act (action : StaticCore.Action)
  | interrupt (reason pid exitcode : PyVal) (handling : Handling)

/-- `_finish_workflow_dispatch_failure`. -/
def failDispatch
    (error : PyVal)
    (handling : Handling) :
    CoreCall Unit := do
  changeRun fun run => run.markDispatchFailed error
  let _ ← recordStaticEvent "workflow_submission_failed" [("error", error)]
    handling.timestamp handling.write
  return

/-- `mark_interrupted`; the result says whether the run was going on. -/
def markInterrupted (reason : PyVal) : CoreCall Bool :=
  fun process =>
    let marked := process.run.markInterrupted reason
    .ok marked.2 { process with run := marked.1 }

/-- What the exit of the scheduler does to a run. -/
def interruptRun
    (reason pid exitcode : PyVal)
    (handling : Handling) :
    CoreCall Unit := do
  if ← markInterrupted reason then
    let process ← get
    let event ← appendEvent "interrupt_workflow"
      [("run_id", .str process.run.runId),
        ("workflow_id", .str process.run.workflowId), ("reason", reason),
        ("scheduler_pid", pid), ("scheduler_exitcode", exitcode)]
      handling.timestamp
    appendEventOnce event handling.write
    persistRun
  else
    pure ()

/-- The message is about a task that has been sent. -/
def aboutSent
    (process : StaticProcess)
    (message : SchedulerMessage) :
    Bool :=
  match message.data.get "task_id" with
  | .str taskId => taskId ∈ process.sentTasks
  | _ => false

/-- The scheduler can report a message that is received. -/
def reportable (process : StaticProcess) : StaticCore.Action → Bool
  | .receive message _ => aboutSent process message
  | _ => true

/-- One step. -/
def step?
    (rendering : Rendering)
    (primitives : Primitives)
    (process : Process) :
    Action → Option Process
  | .dispatch =>
      if !process.dispatched && !process.core.run.isTerminal then
        some { process with dispatched := true }
      else
        none
  | .failDispatch error handling =>
      if !process.dispatched && !process.core.run.isTerminal then
        some { process with
          core := leaving handling (failDispatch error handling) process.core }
      else
        none
  | .act action =>
      if process.dispatched && reportable process.core action then
        (StaticCore.step? rendering primitives process.core action).map
          fun core => { process with core := core }
      else
        none
  | .interrupt reason pid exitcode handling =>
      if process.dispatched then
        some { process with
          core := leaving handling (interruptRun reason pid exitcode handling)
            process.core }
      else
        none

/-- A run whose first tasks are being sent. -/
def submittedRun (submission : Submission) : Process where
  core := submitted submission
  dispatched := false

/-! ## What does not touch a status -/

/-- A fact about a process that depends neither on its files nor on its notes. -/
structure Insensitive (holds : StaticProcess → Prop) : Prop where
  files :
    ∀ process log saves, holds process →
      holds { process with log := log, saves := saves }
  notes :
    ∀ process run, holds process → SameStatuses process.run run →
      run.finishContinuations = process.run.finishContinuations →
        holds { process with run := run }

section Recording

variable
  {holds : StaticProcess → Prop}

theorem persistRun_insensitive (insensitive : Insensitive holds) :
    Ensures holds persistRun (fun _ => holds) (fun _ => holds) := by
  intro process here
  unfold persistRun
  cases saveFails process.saves with
  | true =>
      exact insensitive.files process process.log process.saves.tail here
  | false =>
      cases process.run.isTerminal with
      | true =>
          exact insensitive.files process { process.log with cache := none }
            process.saves.tail here
      | false =>
          exact insensitive.files process process.log process.saves.tail here

theorem appendEventOnce_insensitive
    (event : RunEvent)
    (write : EventLog.Write)
    (insensitive : Insensitive holds) :
    Ensures holds (appendEventOnce event write) (fun _ => holds)
      (fun _ => holds) := by
  intro process here
  unfold appendEventOnce
  dsimp only
  cases (EventLog.appendEventOnce .static process.log (eventEntries event)
      write).2 with
  | ok =>
      exact insensitive.files process _ process.saves here
  | error raised =>
      exact insensitive.files process _ process.saves here

theorem appendEvent_insensitive
    (eventType : PyStr)
    (data : PyDict)
    (timestamp : PyStr)
    (insensitive : Insensitive holds) :
    Ensures holds (appendEvent eventType data timestamp) (fun _ => holds)
      (fun _ => holds) := by
  intro process here
  exact insensitive.notes process _ here ⟨rfl, rfl⟩ rfl

theorem sameStatuses_noteMetrics
    (eventType : PyStr)
    (data : PyDict)
    (run : StaticRun) :
    SameStatuses run (noteMetrics eventType data run) ∧
      (noteMetrics eventType data run).finishContinuations =
        run.finishContinuations := by
  unfold noteMetrics
  split
  · refine ⟨sameStatuses_updateNode run _ fun node _ _ => ?_, rfl⟩
    split
    · rfl
    · split <;> rfl
  · exact ⟨SameStatuses.refl run, rfl⟩

theorem recordStaticEvent_insensitive
    (eventType : PyStr)
    (data : PyDict)
    (timestamp : PyStr)
    (write : EventLog.Write)
    (insensitive : Insensitive holds) :
    Ensures holds (recordStaticEvent eventType data timestamp write)
      (fun _ => holds) (fun _ => holds) := by
  have noted : Ensures holds (changeRun (noteMetrics eventType data))
      (fun _ => holds) (fun _ => holds) := by
    apply ensures_modify
    intro process here
    obtain ⟨same, continuations⟩ :=
      sameStatuses_noteMetrics eventType data process.run
    exact insensitive.notes process _ here same continuations
  refine ensures_bind noted fun _ => ?_
  refine ensures_bind (appendEvent_insensitive _ _ _ insensitive) fun event => ?_
  refine ensures_bind (appendEventOnce_insensitive event write insensitive)
    fun _ => ?_
  exact ensures_bind (persistRun_insensitive insensitive) fun _ =>
    ensures_pure fun _ here => here

theorem setMetrics_insensitive
    (taskId : TaskId)
    (metrics : PyVal)
    (insensitive : Insensitive holds) :
    Ensures holds (setMetrics taskId metrics) (fun _ => holds)
      (fun _ => holds) := by
  intro process here
  unfold setMetrics
  cases (process.run.node? taskId).isSome with
  | true =>
      exact insensitive.notes process _ here
        (sameStatuses_updateNode process.run taskId fun _ _ _ => rfl) rfl
  | false =>
      exact here

end Recording

/-! ## What holds of a run with given statuses -/

/-- Nothing has been sent. -/
structure SameSending (start process : StaticProcess) : Prop where
  workflow : process.workflow = start.workflow
  sentTasks : process.sentTasks = start.sentTasks

/-- The process has the statuses of the run, and nothing has been sent. -/
structure Stands
    (start : StaticProcess)
    (run : StaticRun)
    (process : StaticProcess) : Prop
    extends SameSending start process where
  statuses : SameStatuses run process.run

theorem stands_insensitive
    (start : StaticProcess)
    (run : StaticRun) :
    Insensitive (Stands start run) where
  files := fun _ _ _ stands =>
    ⟨⟨stands.workflow, stands.sentTasks⟩, stands.statuses⟩
  notes := fun _ _ stands same _ =>
    ⟨⟨stands.workflow, stands.sentTasks⟩, stands.statuses.trans same⟩

/-- Nothing has been sent, and the run is regular. -/
def SendsRegular (start process : StaticProcess) : Prop :=
  SameSending start process ∧ Regular start.workflow process.run

theorem sendsRegular_insensitive (start : StaticProcess) :
    Insensitive (SendsRegular start) where
  files := fun _ _ _ here => ⟨⟨here.1.workflow, here.1.sentTasks⟩, here.2⟩
  notes := fun _ _ here same _ =>
    ⟨⟨here.1.workflow, here.1.sentTasks⟩, here.2.of_same same⟩

/--
The run is regular still, and where it had ended its status is the one it had.
-/
structure Lawful (start process : StaticProcess) : Prop where
  workflow : process.workflow = start.workflow
  sentTasks : ∀ taskId ∈ start.sentTasks, taskId ∈ process.sentTasks
  known :
    ∀ taskId ∈ process.sentTasks,
      taskId ∈ start.sentTasks ∨ taskId ∈ start.workflow.taskIds
  regular : Regular start.workflow process.run
  stays :
    start.run.isTerminal = true → process.run.status = start.run.status

theorem SameSending.lawful
    {start process : StaticProcess}
    (same : SameSending start process)
    (regular : Regular start.workflow process.run)
    (stays :
      start.run.isTerminal = true → process.run.status = start.run.status) :
    Lawful start process where
  workflow := same.workflow
  sentTasks := fun _ member => same.sentTasks ▸ member
  known := fun _ member => Or.inl (same.sentTasks ▸ member)
  regular := regular
  stays := stays

theorem Lawful.refl
    {start : StaticProcess}
    (regular : Regular start.workflow start.run) :
    Lawful start start :=
  SameSending.lawful ⟨rfl, rfl⟩ regular fun _ => rfl

theorem Stands.lawful
    {start process : StaticProcess}
    {run : StaticRun}
    (stands : Stands start run process)
    (regular : Regular start.workflow run)
    (stays : start.run.isTerminal = true → run.status = start.run.status) :
    Lawful start process :=
  stands.toSameSending.lawful (regular.of_same stands.statuses) fun terminal =>
    stands.statuses.status.trans (stays terminal)

theorem Lawful.trans
    {first second third : StaticProcess}
    (early : Lawful first second)
    (late : Lawful second third) :
    Lawful first third where
  workflow := late.workflow.trans early.workflow
  sentTasks := fun taskId member =>
    late.sentTasks taskId (early.sentTasks taskId member)
  known := fun taskId member => by
    rcases late.known taskId member with before | known
    · exact early.known taskId before
    · exact Or.inr (early.workflow ▸ known)
  regular := early.workflow ▸ late.regular
  stays := fun terminal => by
    have status := early.stays terminal
    have ended : second.run.isTerminal = true := by
      rw [StaticRun.isTerminal, status]
      exact terminal
    exact (late.stays ended).trans status

/-! ## The transactions -/

/-- A task that has been sent and has not finished, in a run that goes on. -/
structure Open (start : StaticProcess) (taskId : TaskId) : Prop where
  regular : Regular start.workflow start.run
  live : start.run.isTerminal = false
  known : taskId ∈ start.workflow.taskIds
  unfinished : start.run.hasSucceeded taskId = false
  ready :
    ∀ task ∈ start.workflow.predecessors taskId,
      start.run.hasSucceeded task = true

/-- A run that was going on has no status that it must keep. -/
theorem Open.free
    {start : StaticProcess}
    {taskId : TaskId}
    (open_ : Open start taskId)
    {claim : Prop}
    (terminal : start.run.isTerminal = true) :
    claim := by
  rw [open_.live] at terminal
  cases terminal

/-- A failure that is recorded is one of the last task that has not succeeded. -/
def FailureIsLast
    (process : StaticProcess)
    (handling : Handling)
    (taskId : TaskId) : Prop :=
  (∃ observation, handling.observation = .ok observation) →
    saveFails handling.saves = false →
      OthersSucceeded process.run taskId

section Transactions

variable
  {start : StaticProcess}
  {gate : AttemptGate.Gate}
  {taskId : TaskId}

/-- A mark of the run of a message that the gate has let through. -/
theorem changeRun_stands
    {raises : PyErr → StaticProcess → Prop}
    (mark : StaticRun → StaticRun) :
    Ensures (fun process => process = { start with gate := gate })
      (changeRun mark) (fun _ => Stands start (mark start.run)) raises := by
  apply ensures_modify
  rintro process rfl
  exact ⟨⟨rfl, rfl⟩, SameStatuses.refl _⟩

/-- What an observation that cannot be had leaves behind. -/
theorem observation_sends (handling : Handling) :
    Ensures (fun process => process = { start with gate := gate })
      (returning handling.observation)
      (fun _ process => process = { start with gate := gate })
      (fun _ => SameSending start) := by
  refine (returning_ensures handling.observation).weaken (fun _ same => same)
    (fun _ _ same => same) ?_
  rintro _ process rfl
  exact ⟨rfl, rfl⟩

/-- The event that records a mark. -/
theorem record_lawful
    {run : StaticRun}
    (eventType : PyStr)
    (data : PyDict)
    (timestamp : PyStr)
    (write : EventLog.Write)
    (regular : Regular start.workflow run)
    (stays : start.run.isTerminal = true → run.status = start.run.status) :
    Ensures (Stands start run)
      (do
        let _ ← recordStaticEvent eventType data timestamp write
        return)
      (fun _ => Lawful start) (fun _ => SameSending start) := by
  refine ensures_bind ((recordStaticEvent_insensitive eventType data timestamp
    write (stands_insensitive start run)).weaken (fun _ stands => stands)
    (fun _ _ stands => stands) fun _ _ stands => stands.toSameSending) fun _ => ?_
  exact ensures_pure fun _ stands => stands.lawful regular stays

theorem commitStart_lawful
    (handling : Handling)
    (data : PyDict)
    (open_ : Open start taskId) :
    Ensures (fun process => process = { start with gate := gate })
      (commitStart handling taskId data)
      (fun _ => Lawful start) (fun _ => SameSending start) := by
  have regular := regular_markTaskStarted data open_.regular open_.live
    open_.unfinished open_.ready
  exact ensures_bind (changeRun_stands fun run => run.markTaskStarted taskId data)
    fun _ => record_lawful _ _ _ _ regular open_.free

theorem commitRetry_lawful
    (handling : Handling)
    (data : PyDict)
    (open_ : Open start taskId) :
    Ensures (fun process => process = { start with gate := gate })
      (commitRetry handling taskId data)
      (fun _ => Lawful start) (fun _ => SameSending start) := by
  refine ensures_bind (observation_sends handling) fun observation => ?_
  dsimp only
  exact ensures_bind (changeRun_stands fun run => run.markTaskRetry taskId _ _)
    fun _ => record_lawful _ _ _ _
      (regular_markTaskRetry _ _ open_.regular open_.live open_.unfinished
        open_.ready) open_.free

/-- A failure that is recorded ends the run well if the others have succeeded. -/
theorem commitException_others
    (handling : Handling)
    (data : PyDict)
    (open_ : Open start taskId)
    (others : OthersSucceeded start.run taskId) :
    Ensures (fun process => process = { start with gate := gate })
      (commitException handling taskId data)
      (fun _ => Lawful start) (fun _ => SameSending start) := by
  refine ensures_bind (observation_sends handling) fun observation => ?_
  dsimp only
  exact ensures_bind (changeRun_stands fun run => run.markTaskFailed taskId _ _)
    fun _ => record_lawful _ _ _ _
      (regular_markTaskFailed _ _ open_.regular.toShaped open_.known others).1
      open_.free

/-- Where an event is recorded, the save has come through. -/
theorem recordStaticEvent_saved
    (saves : List Bool)
    (eventType : PyStr)
    (data : PyDict)
    (timestamp : PyStr)
    (write : EventLog.Write) :
    Ensures (fun process => process.saves = saves)
      (recordStaticEvent eventType data timestamp write)
      (fun _ _ => saveFails saves = false) (fun _ _ => True) := by
  rintro process rfl
  exact (recordStaticEvent_ensures eventType data timestamp write).weaken
    (fun _ same => same) (fun _ _ after => after.2) (fun _ _ _ => trivial)
    process (⟨SameCore.refl process, rfl⟩ : SameWith process process.saves process)

/-- Where a failure is recorded, its observation and its save have come through. -/
theorem commitException_recorded
    (handling : Handling)
    (data : PyDict) :
    Ensures (fun process => process = { start with gate := gate })
      (commitException handling taskId data)
      (fun _ _ =>
        (∃ observation, handling.observation = .ok observation) ∧
          saveFails start.saves = false)
      (fun _ _ => True) := by
  have observed : Ensures (fun process => process = { start with gate := gate })
      (returning handling.observation)
      (fun observation process =>
        handling.observation = .ok observation ∧ process.saves = start.saves)
      (fun _ _ => True) := by
    rintro process rfl
    cases handling.observation with
    | error raised => trivial
    | ok observation => exact ⟨rfl, rfl⟩
  refine ensures_bind observed fun observation => ?_
  refine ensures_via
    (fun _ process =>
      handling.observation = .ok observation ∧ process.saves = start.saves) ?_
    fun _ => ?_
  · apply ensures_modify
    intro process here
    exact here
  by_cases came : handling.observation = .ok observation
  · refine ensures_bind ((recordStaticEvent_saved start.saves _ _ _ _).weaken
      (fun _ here => here.2) (fun _ _ saved => saved) fun _ _ _ => trivial)
      fun _ => ?_
    exact ensures_pure fun _ saved => ⟨⟨observation, came⟩, saved⟩
  · intro process impossible
    exact absurd impossible.1 came

/-- A failed task ends the run well if it is the last one. -/
theorem commitException_lawful
    (handling : Handling)
    (data : PyDict)
    (open_ : Open start taskId)
    (saves : start.saves = handling.saves)
    (last : FailureIsLast start handling taskId) :
    Ensures (fun process => process = { start with gate := gate })
      (commitException handling taskId data)
      (fun _ => Lawful start) (fun _ => SameSending start) := by
  let passed : StaticProcess := { start with gate := gate }
  by_cases recorded :
      (∃ observation, handling.observation = .ok observation) ∧
        saveFails handling.saves = false
  · exact commitException_others handling data open_
      (last recorded.1 recorded.2)
  · have unfinished : passed.run.hasSucceeded taskId = false := open_.unfinished
    have undone : Ensures (fun process => process = passed)
        (commitException handling taskId data)
        (fun _ => Ended passed) (fun _ => Untouched passed) :=
      (commitException_ensures handling data unfinished).weaken
        (fun _ same => same ▸ (SameCore.refl passed).follows)
        (fun _ _ ended => ended) fun _ _ untouched => untouched
    refine ((commitException_recorded handling data).and undone).weaken
      (fun _ same => same) ?_ ?_
    · rintro _ after ⟨came, _⟩
      exact absurd ⟨came.1, saves ▸ came.2⟩ recorded
    · rintro _ after ⟨_, untouched⟩
      exact ⟨untouched.workflow, untouched.sentTasks⟩

/-- A finished task keeps the run regular, with its outputs or without. -/
theorem commitFinish_lawful
    (rendering : Rendering)
    (handling : Handling)
    (data : PyDict)
    (open_ : Open start taskId) :
    Ensures (fun process => process = { start with gate := gate })
      (commitFinish rendering handling taskId data)
      (fun _ => Lawful start) (fun _ => SameSending start) := by
  have given : Ensures (fun process => process = { start with gate := gate })
      (returning handling.manifest)
      (fun _ process => process = { start with gate := gate })
      (fun _ => SameSending start) := by
    refine (returning_ensures handling.manifest).weaken (fun _ same => same)
      (fun _ _ same => same) ?_
    rintro _ process rfl
    exact ⟨rfl, rfl⟩
  refine ensures_bind given fun manifest => ?_
  let marked := start.run.markTaskFinished rendering taskId manifest data
  obtain ⟨regular, others⟩ := regular_markTaskFinished rendering manifest data
    open_.regular open_.live open_.known open_.ready
  have insensitive := stands_insensitive start marked.1
  refine ensures_via
    (fun outputError process =>
      outputError = marked.2 ∧ Stands start marked.1 process) ?_
    fun outputError => ?_
  · rintro process rfl
    exact ⟨rfl, ⟨rfl, rfl⟩, SameStatuses.refl _⟩
  refine ensures_bind ((returning_ensures handling.observation).weaken
    (fun _ here => here) (fun _ _ here => here)
    fun _ _ here => here.2.toSameSending) fun observation => ?_
  refine ensures_bind ((observedMetrics_ensures data observation).weaken
    (fun _ here => here) (fun _ _ here => here)
    fun _ _ here => here.2.toSameSending) fun metrics => ?_
  by_cases agreed : outputError = marked.2
  case neg =>
    intro process impossible
    exact absurd impossible.1 agreed
  cases outputError with
  | none =>
      have succeeded : Ensures (Stands start marked.1)
          (commitSuccess handling taskId data manifest metrics observation)
          (fun _ => Lawful start) (fun _ => SameSending start) := by
        unfold commitSuccess
        dsimp only
        refine ensures_bind ((setMetrics_insensitive taskId metrics
          insensitive).weaken (fun _ stands => stands) (fun _ _ stands => stands)
          fun _ _ stands => stands.toSameSending) fun _ => ?_
        refine ensures_bind ((recordStaticEvent_insensitive _ _ _ _
          insensitive).weaken (fun _ stands => stands) (fun _ _ stands => stands)
          fun _ _ stands => stands.toSameSending) fun event => ?_
        refine ensures_via (fun _ => Stands start marked.1) ?_ fun _ => ?_
        · apply ensures_modify
          intro process stands
          exact ⟨⟨stands.workflow, stands.sentTasks⟩, stands.statuses.status,
            stands.statuses.nodes⟩
        · exact (returning_ensures handling.published).weaken
            (fun _ stands => stands)
            (fun _ _ stands => stands.lawful regular open_.free)
            fun _ _ stands => stands.toSameSending
      refine ensures_bind (succeeded.weaken (fun _ here => here.2)
        (fun _ _ lawful => lawful) fun _ _ same => same) fun _ => ?_
      exact ensures_pure fun _ lawful => lawful
  | some error =>
      have failing : marked.2 ≠ none := fun none => by
        rw [none] at agreed
        cases agreed
      have failed : Ensures (Stands start marked.1)
          (commitFailure handling taskId data error metrics observation)
          (fun _ => Lawful start) (fun _ => SameSending start) := by
        unfold commitFailure
        dsimp only
        refine ensures_via (fun _ => Stands start marked.1) ?_ fun _ => ?_
        · apply ensures_modify
          intro process stands
          exact ⟨⟨stands.workflow, stands.sentTasks⟩, stands.statuses⟩
        refine ensures_via (fun _ => SendsRegular start) ?_ fun _ => ?_
        · apply ensures_modify
          intro process stands
          exact ⟨⟨stands.workflow, stands.sentTasks⟩,
            (regular_markTaskFailed _ _
              (regular.of_same stands.statuses).toShaped open_.known
              ((others failing).of_same stands.statuses)).1⟩
        have sends := sendsRegular_insensitive start
        refine ensures_bind ((setMetrics_insensitive taskId metrics sends).weaken
          (fun _ here => here) (fun _ _ here => here) fun _ _ here => here.1)
          fun _ => ?_
        refine ensures_bind ((recordStaticEvent_insensitive _ _ _ _ sends).weaken
          (fun _ here => here) (fun _ _ here => here) fun _ _ here => here.1)
          fun _ => ?_
        exact ensures_pure fun _ here => here.1.lawful here.2 open_.free
      refine ensures_bind (failed.weaken (fun _ here => here.2)
        (fun _ _ lawful => lawful) fun _ _ same => same) fun _ => ?_
      exact ensures_pure fun _ lawful => lawful

end Transactions

/-! ## What follows from a finished task -/

/--
While the continuation of a task is at work no status changes: what it sends is
queued already, as all its predecessors have succeeded.
-/
structure Underway (start process : StaticProcess) : Prop where
  workflow : process.workflow = start.workflow
  sentTasks : ∀ taskId ∈ start.sentTasks, taskId ∈ process.sentTasks
  known :
    ∀ taskId ∈ process.sentTasks,
      taskId ∈ start.sentTasks ∨ taskId ∈ start.workflow.taskIds
  statuses : SameStatuses start.run process.run
  completed :
    ∀ taskId ∈ process.completedTasks, start.run.hasSucceeded taskId = true
  begun :
    ∀ taskId continuation,
      process.run.continuation? taskId = some continuation →
        start.run.hasSucceeded taskId = true
  ready :
    ∀ taskId continuation,
      process.run.continuation? taskId = some continuation →
        ∀ ready ∈ continuation.readyTaskIds,
          ∀ task ∈ start.workflow.predecessors ready,
            start.run.hasSucceeded task = true

theorem underway_of_coherent
    {start : StaticProcess}
    (coherent : Coherent start) :
    Underway start start := by
  have completed : ∀ taskId ∈ start.completedTasks,
      start.run.hasSucceeded taskId = true := fun taskId member => by
    obtain ⟨continuation, found⟩ :=
      Option.isSome_iff_exists.mp (coherent.completed taskId member)
    exact (coherent.continued taskId continuation found).succeeded
  exact {
    workflow := rfl
    sentTasks := fun _ member => member
    known := fun _ member => Or.inl member
    statuses := SameStatuses.refl start.run
    completed := completed
    begun := fun taskId continuation found =>
      (coherent.continued taskId continuation found).succeeded
    ready := fun taskId continuation found ready member task precedes => by
      obtain ⟨_, _, all⟩ :=
        (coherent.continued taskId continuation found).ready ready member
      exact completed task (all task precedes) }

theorem underway_insensitive (start : StaticProcess) :
    Insensitive (Underway start) where
  files := fun _ _ _ under =>
    ⟨under.workflow, under.sentTasks, under.known, under.statuses,
      under.completed, under.begun, under.ready⟩
  notes := fun process run under same continuations => by
    have found : ∀ taskId, run.continuation? taskId =
        process.run.continuation? taskId := fun taskId => by
      simp [StaticRun.continuation?, continuations]
    refine ⟨under.workflow, under.sentTasks, under.known,
      under.statuses.trans same, under.completed, ?_, ?_⟩
    · intro taskId continuation present
      exact under.begun taskId continuation ((found taskId).symm.trans present)
    · intro taskId continuation present
      exact under.ready taskId continuation ((found taskId).symm.trans present)

theorem Underway.lawful
    {start process : StaticProcess}
    (under : Underway start process)
    (regular : Regular start.workflow start.run) :
    Lawful start process where
  workflow := under.workflow
  sentTasks := under.sentTasks
  known := under.known
  regular := regular.of_same under.statuses
  stays := fun _ => under.statuses.status

section Continuing

variable
  {start : StaticProcess}

/-- A change of a continuation keeps to the tasks that are ready. -/
theorem Underway.updateContinuation
    {process : StaticProcess}
    {change : FinishContinuation → FinishContinuation}
    (under : Underway start process)
    (taskId : TaskId)
    (ready :
      ∀ continuation,
        process.run.continuation? taskId = some continuation →
          ∀ ready ∈ (change continuation).readyTaskIds,
            ∀ task ∈ start.workflow.predecessors ready,
              start.run.hasSucceeded task = true) :
    Underway start
      { process with run := process.run.updateContinuation taskId change } where
  workflow := under.workflow
  sentTasks := under.sentTasks
  known := under.known
  statuses := under.statuses.trans ⟨rfl, rfl⟩
  completed := under.completed
  begun := fun other continuation found => by
    rw [StaticRun.continuation?_updateContinuation] at found
    split at found
    · obtain ⟨old, present, _⟩ := Option.map_eq_some_iff.mp found
      exact under.begun other old present
    · exact under.begun other continuation found
  ready := fun other continuation found => by
    rw [StaticRun.continuation?_updateContinuation] at found
    split at found
    · next same =>
      obtain ⟨old, present, rfl⟩ := Option.map_eq_some_iff.mp found
      exact ready old (same ▸ present)
    · exact under.ready other continuation found

theorem noteProgress_underway
    (taskId : TaskId)
    {change : FinishContinuation → FinishContinuation}
    (keeps :
      ∀ continuation,
        (change continuation).readyTaskIds = continuation.readyTaskIds) :
    Ensures (Underway start) (noteProgress taskId change)
      (fun _ => Underway start) (fun _ => Underway start) := by
  refine ensures_via (fun _ => Underway start) ?_ fun _ =>
    persistRun_insensitive (underway_insensitive start)
  apply ensures_modify
  intro process under
  refine under.updateContinuation taskId fun continuation found => ?_
  rw [keeps]
  exact under.ready taskId continuation found

/-- The continuation of a task belongs to one that has succeeded. -/
theorem continuationOf_underway (taskId : TaskId) :
    Ensures (Underway start) (continuationOf taskId)
      (fun continuation process =>
        Underway start process ∧ start.run.hasSucceeded taskId = true ∧
          ∀ ready ∈ continuation.readyTaskIds,
            ∀ task ∈ start.workflow.predecessors ready,
              start.run.hasSucceeded task = true)
      (fun _ => Underway start) := by
  intro process under
  unfold continuationOf
  cases found : process.run.continuation? taskId with
  | none => exact under
  | some continuation =>
      exact ⟨under, under.begun taskId continuation found,
        under.ready taskId continuation found⟩

theorem advanceWorkflow_underway
    (taskId : TaskId)
    (succeeded : start.run.hasSucceeded taskId = true) :
    Ensures (Underway start) (advanceWorkflow taskId)
      (fun _ => Underway start) (fun _ => Underway start) := by
  intro process under
  by_cases named : taskId ∈ process.workflow.taskIds
  · let nextCompleted := process.completedTasks.insert taskId
    let change := advancedWith (process.workflow.readyAfter nextCompleted taskId)
    have completed : ∀ other ∈ nextCompleted,
        start.run.hasSucceeded other = true := by
      intro other member
      rcases List.mem_insert_iff.mp member with rfl | before
      · exact succeeded
      · exact under.completed other before
    have ready : ∀ ready ∈ process.workflow.readyAfter nextCompleted taskId,
        ∀ task ∈ start.workflow.predecessors ready,
          start.run.hasSucceeded task = true := by
      intro ready member task precedes
      have all := ((mem_readyAfter_iff _ _ _ _).mp member).2
      rw [under.workflow] at all
      exact completed task (all task precedes)
    have updated : Underway start
        { process with run := process.run.updateContinuation taskId change } :=
      under.updateContinuation taskId fun _ _ => ready
    have advanced : Underway start
        { process with
          completedTasks := nextCompleted
          run := process.run.updateContinuation taskId change } :=
      ⟨updated.workflow, updated.sentTasks, updated.known, updated.statuses,
        completed, updated.begun, updated.ready⟩
    simp only [advanceWorkflow, if_pos named]
    exact advanced
  · simp only [advanceWorkflow, if_neg named]
    exact under

theorem sendTask_underway
    (primitives : Primitives)
    (environment : Environment)
    (taskId : TaskId) :
    Ensures (Underway start) (sendTask primitives environment taskId)
      (fun _ => Underway start) (fun _ => Underway start) := by
  intro process under
  unfold sendTask
  cases found : process.workflow.tasks.lookup taskId with
  | none => exact under
  | some task =>
      dsimp only
      cases TaskPreparation.prepareTaskResources primitives environment task with
      | error raised => exact under
      | ok resources =>
          refine ⟨under.workflow, fun other member => ?_, fun other member => ?_,
            under.statuses, under.completed, under.begun, under.ready⟩
          · exact List.mem_append_left _ (under.sentTasks other member)
          · rcases List.mem_append.mp member with before | new
            · exact under.known other before
            · obtain rfl := List.mem_singleton.mp new
              obtain ⟨first, last, split, _⟩ := List.lookup_eq_some_iff.mp found
              refine Or.inr ?_
              rw [← under.workflow, Workflow.taskIds, split]
              simp

theorem dispatchReadyTask_underway
    (primitives : Primitives)
    (environment : Environment)
    (taskId readyTaskId : TaskId)
    (regular : Regular start.workflow start.run)
    (ready :
      ∀ task ∈ start.workflow.predecessors readyTaskId,
        start.run.hasSucceeded task = true) :
    Ensures (Underway start)
      (dispatchReadyTask primitives environment taskId readyTaskId)
      (fun _ => Underway start) (fun _ => Underway start) := by
  refine ensures_bind ((continuationOf_underway taskId).weaken
    (fun _ under => under) (fun _ _ here => here.1) fun _ _ under => under)
    fun continuation => ?_
  refine ensures_ite (fun _ => ensures_pure fun _ under => under) fun _ => ?_
  refine ensures_via (fun _ => Underway start) ?_ fun _ => ?_
  · apply ensures_modify
    intro process under
    have same := sameStatuses_markTaskQueued
      (regular.of_same under.statuses) fun task precedes =>
        (under.statuses.hasSucceeded task).trans (ready task precedes)
    exact (underway_insensitive start).notes process _ under same rfl
  refine ensures_bind (persistRun_insensitive (underway_insensitive start))
    fun _ => ?_
  refine ensures_bind (sendTask_underway primitives environment readyTaskId)
    fun _ => ?_
  exact noteProgress_underway taskId fun _ => rfl

theorem workflowEventOf_underway
    (taskId : TaskId)
    (handling : Handling) :
    Ensures (Underway start) (workflowEventOf taskId handling)
      (fun _ => Underway start) (fun _ => Underway start) := by
  refine ensures_bind ((continuationOf_underway taskId).weaken
    (fun _ under => under) (fun _ _ here => here.1) fun _ _ under => under)
    fun continuation => ?_
  split
  · exact ensures_pure fun _ under => under
  · refine ensures_get fun process under => ?_
    refine ensures_bind ((appendEvent_insensitive _ _ _
      (underway_insensitive start)).weaken (fun _ same => same ▸ under)
      (fun _ _ under => under) fun _ _ under => under) fun event => ?_
    refine ensures_via (fun _ => Underway start) ?_ fun _ =>
      ensures_pure fun _ under => under
    apply ensures_modify
    intro current under
    exact under.updateContinuation taskId fun old found =>
      under.ready taskId old found

theorem finishWorkflow_underway
    (taskId : TaskId)
    (handling : Handling) :
    Ensures (Underway start) (finishWorkflow taskId handling)
      (fun _ => Underway start) (fun _ => Underway start) := by
  have insensitive := underway_insensitive start
  refine ensures_bind (workflowEventOf_underway taskId handling) fun event => ?_
  refine ensures_bind (appendEventOnce_insensitive event _ insensitive)
    fun _ => ?_
  refine ensures_bind (persistRun_insensitive insensitive) fun _ => ?_
  refine ensures_bind ((continuationOf_underway taskId).weaken
    (fun _ under => under) (fun _ _ here => here.1) fun _ _ under => under)
    fun continuation => ?_
  have cleared : Ensures (Underway start)
      (if continuation.workflowCleared then pure ()
        else noteProgress taskId fun continuation =>
          { continuation with workflowCleared := true })
      (fun _ => Underway start) (fun _ => Underway start) := by
    split
    · exact ensures_pure fun _ under => under
    · exact noteProgress_underway taskId fun _ => rfl
  dsimp only
  split
  · exact cleared
  · exact ensures_bind (noteProgress_underway taskId fun _ => rfl) fun _ => cleared

/-- The end of a continuation changes no status. -/
theorem dispatchAndFinish_underway
    (primitives : Primitives)
    (handling : Handling)
    (taskId : TaskId)
    (regular : Regular start.workflow start.run) :
    Ensures (Underway start) (dispatchAndFinish primitives handling taskId)
      (fun _ => Underway start) (fun _ => Underway start) := by
  refine ensures_bind ((continuationOf_underway taskId).weaken
    (fun _ under => under) (fun _ _ here => here) fun _ _ under => under)
    fun continuation => ?_
  refine ensures_via (fun _ => Underway start) ?_ fun _ => ?_
  · let left : List TaskId → StaticProcess → Prop := fun rest process =>
      Underway start process ∧
        ∀ ready ∈ rest, ∀ task ∈ start.workflow.predecessors ready,
          start.run.hasSucceeded task = true
    have loop : Ensures (left continuation.readyTaskIds)
        (continuation.readyTaskIds.forM
          (dispatchReadyTask primitives handling.environment taskId))
        (fun _ => left []) (fun _ => Underway start) := by
      refine ensures_forM (fun ready rest => ?_) continuation.readyTaskIds
      rintro process ⟨under, all⟩
      exact (dispatchReadyTask_underway primitives handling.environment taskId
        ready regular (all ready List.mem_cons_self)).weaken
        (fun _ under => under)
        (fun _ _ after =>
          ⟨after, fun other member => all other (List.mem_cons_of_mem _ member)⟩)
        (fun _ _ after => after) process under
    exact loop.weaken (fun _ here => ⟨here.1, here.2.2⟩)
      (fun _ _ after => after.1) fun _ _ after => after
  refine ensures_get fun process under => ?_
  have completed : Ensures (Underway start)
      (noteProgress taskId fun continuation =>
        { continuation with completed := true })
      (fun _ => Underway start) (fun _ => Underway start) :=
    noteProgress_underway taskId fun _ => rfl
  dsimp only
  split
  · exact ensures_bind ((finishWorkflow_underway taskId handling).weaken
      (fun _ same => same ▸ under) (fun _ _ after => after)
      fun _ _ after => after) fun _ => completed
  · exact completed.weaken (fun _ same => same ▸ under) (fun _ _ after => after)
      fun _ _ after => after

/-- A continuation changes no status. -/
theorem continueStaticFinish_underway
    (primitives : Primitives)
    (handling : Handling)
    (taskId : TaskId)
    (regular : Regular start.workflow start.run) :
    Ensures (Underway start) (continueStaticFinish primitives handling taskId)
      (fun _ => Underway start) (fun _ => Underway start) := by
  have saved := persistRun_insensitive (underway_insensitive start)
  have rest := dispatchAndFinish_underway primitives handling taskId regular
  refine ensures_bind ((continuationOf_underway taskId).weaken
    (fun _ under => under) (fun _ _ here => here) fun _ _ under => under)
    fun continuation => ?_
  intro process here
  have succeeded := here.2.1
  have advanced : Ensures (Underway start)
      (if continuation.workflowAdvanced then
          dispatchAndFinish primitives handling taskId
        else do
          advanceWorkflow taskId
          persistRun
          dispatchAndFinish primitives handling taskId)
      (fun _ => Underway start) (fun _ => Underway start) := by
    split
    · exact rest
    · refine ensures_bind (advanceWorkflow_underway taskId succeeded) fun _ => ?_
      exact ensures_bind saved fun _ => rest
  have continued : Ensures (Underway start)
      (if continuation.completed then persistRun
        else continueFinish primitives handling taskId continuation)
      (fun _ => Underway start) (fun _ => Underway start) := by
    split
    · exact saved
    · unfold continueFinish
      dsimp only
      split
      · exact advanced
      · exact ensures_bind (noteProgress_underway taskId fun _ => rfl)
          fun _ => advanced
  exact continued process here.1

end Continuing

/-! ## Messages -/

section Messages

variable
  {start : StaticProcess}

/-- A transaction that returns is lawful, and one that raises is undone. -/
theorem restoring_lawful
    {Value : Type}
    {gate : AttemptGate.Gate}
    {commit : CoreCall Value}
    (regular : Regular start.workflow start.run)
    (committed :
      Ensures (fun process => process = { start with gate := gate }) commit
        (fun _ => Lawful start) (fun _ => SameSending start)) :
    Ensures (fun process => process = start)
      (restoring rollback do
        modify fun process => { process with gate := gate }
        commit)
      (fun _ => Lawful start) (fun _ => Lawful start) := by
  refine ensures_restoring fun process same => ?_
  subst same
  refine ensures_via (fun _ current => current = { process with gate := gate }) ?_
    fun _ => ?_
  · apply ensures_modify
    rintro current rfl
    rfl
  · refine committed.weaken (fun _ same => same) (fun _ _ lawful => lawful) ?_
    intro _ after same
    exact SameSending.lawful ⟨same.workflow, same.sentTasks⟩ regular fun _ => rfl

/-- What a continuation that is set to work leaves behind. -/
theorem continueStaticFinish_lawful
    {middle : StaticProcess}
    (primitives : Primitives)
    (handling : Handling)
    (taskId : TaskId)
    (lawful : Lawful start middle)
    (coherent : Coherent middle) :
    Ensures (fun process => process = middle)
      (continueStaticFinish primitives handling taskId)
      (fun _ => Lawful start) (fun _ => Lawful start) := by
  have regular : Regular middle.workflow middle.run :=
    lawful.workflow.symm ▸ lawful.regular
  exact (continueStaticFinish_underway primitives handling taskId regular).weaken
    (fun _ same => same.symm ▸ underway_of_coherent coherent)
    (fun _ _ under => lawful.trans (under.lawful regular))
    fun _ _ under => lawful.trans (under.lawful regular)

/-- What Core does with a message that the gate has let through is lawful. -/
theorem handleAccepted_lawful
    {messageType : MessageType}
    {data : PyDict}
    {gate : AttemptGate.Gate}
    {taskId : TaskId}
    (rendering : Rendering)
    (primitives : Primitives)
    (handling : Handling)
    (coherent : Coherent start)
    (saves : start.saves = handling.saves)
    (open_ : Open start taskId)
    (last : messageType = .taskException → FailureIsLast start handling taskId)
    (accepted :
      AttemptGate.acceptTaskAttemptEvent messageType data start.gate =
        .ok (some gate))
    (addressed : data.get "workflow_id" = .str start.run.runId)
    (named : data.get "task_id" = .str taskId) :
    Ensures (fun process => process = start)
      (handleAccepted rendering primitives handling messageType gate taskId data)
      (fun _ => Lawful start) (fun _ => Lawful start) := by
  cases messageType with
  | startTask =>
      exact restoring_lawful open_.regular
        (commitStart_lawful handling data open_)
  | taskRetry =>
      exact restoring_lawful open_.regular
        (commitRetry_lawful handling _ open_)
  | taskException =>
      exact restoring_lawful open_.regular
        (commitException_lawful handling _ open_ saves (last rfl))
  | finishTask =>
      have transaction : Ensures (fun process => process = start)
          (finishTransaction rendering handling gate taskId data)
          (fun _ => Lawful start) (fun _ => Lawful start) :=
        restoring_lawful open_.regular
          (commitFinish_lawful rendering handling data open_)
      refine ensures_bind ((transaction.and (finishTransaction_ensures rendering
        handling coherent accepted addressed named)).weaken (fun _ same => same)
        (fun _ _ here => here) fun _ _ here => here.1) fun succeeded => ?_
      rintro middle ⟨lawful, outcome⟩
      rcases outcome with ⟨rfl, _⟩ | ⟨rfl, begins⟩
      · exact lawful
      · exact continueStaticFinish_lawful primitives handling taskId lawful
          begins.coherent middle rfl

/-- What is known of a process in which a message is handled. -/
structure Steady (process : StaticProcess) : Prop where
  coherent : Coherent process
  regular : Regular process.workflow process.run
  known : ∀ taskId ∈ process.sentTasks, taskId ∈ process.workflow.taskIds

/-- An accepted message about a task that has been sent finds the task open. -/
theorem Steady.open_
    {messageType : MessageType}
    {data : PyDict}
    {gate : AttemptGate.Gate}
    {taskId : TaskId}
    (steady : Steady start)
    (live : start.run.isTerminal = false)
    (sent : taskId ∈ start.sentTasks)
    (accepted :
      AttemptGate.acceptTaskAttemptEvent messageType data start.gate =
        .ok (some gate))
    (addressed : data.get "workflow_id" = .str start.run.runId)
    (named : data.get "task_id" = .str taskId) :
    Open start taskId where
  regular := steady.regular
  live := live
  known := steady.known taskId sent
  unfinished := steady.coherent.unfinished accepted addressed named
  ready := steady.coherent.sentInOrder.ready taskId sent

/-- The failures that a message brings and that are recorded come last. -/
def MessageFailsLast
    (process : StaticProcess)
    (handling : Handling) :
    SchedulerMessage → Prop
  | .attempt .taskException data =>
      ∀ taskId gate,
        data.get "task_id" = .str taskId →
        AttemptGate.acceptTaskAttemptEvent .taskException data process.gate =
          .ok (some gate) →
        process.listening = true →
        process.run.isTerminal = false →
          FailureIsLast process handling taskId
  | _ => True

theorem resumeFinish_lawful
    (primitives : Primitives)
    (handling : Handling)
    (data : PyDict)
    (steady : Steady start) :
    Ensures (fun process => process = start)
      (resumeFinish primitives handling data)
      (fun _ => Lawful start) (fun _ => Lawful start) := by
  have refl := Lawful.refl steady.regular
  unfold resumeFinish
  split
  · next taskId _ =>
    refine ensures_get fun process same => ?_
    subst same
    split
    · split
      · exact continueStaticFinish_lawful primitives handling taskId refl
          steady.coherent
      · exact ensures_pure fun _ same => same ▸ refl
    · exact ensures_pure fun _ same => same ▸ refl
  · exact ensures_pure fun _ same => same ▸ refl

theorem handleAttempt_lawful
    {messageType : MessageType}
    {data : PyDict}
    (rendering : Rendering)
    (primitives : Primitives)
    (handling : Handling)
    (steady : Steady start)
    (saves : start.saves = handling.saves)
    (sent :
      ∀ taskId, data.get "task_id" = .str taskId → taskId ∈ start.sentTasks)
    (last : MessageFailsLast start handling (.attempt messageType data))
    (addressed : data.get "workflow_id" = .str start.run.runId) :
    Ensures (fun process => process = start)
      (handleAttempt rendering primitives handling messageType data)
      (fun _ => Lawful start) (fun _ => Lawful start) := by
  have refl := Lawful.refl steady.regular
  refine ensures_get fun process same => ?_
  subst same
  cases outcome : AttemptGate.acceptTaskAttemptEvent messageType data
      process.gate with
  | error raised =>
      rintro current rfl
      exact refl
  | ok admission =>
      refine ensures_via (fun found current => found = admission ∧
        current = process) (ensures_pure fun _ same => ⟨rfl, same⟩) fun found => ?_
      by_cases same : found = admission
      case neg =>
        intro current impossible
        exact absurd impossible.1 same
      subst same
      cases found with
      | none =>
          dsimp only
          split
          · exact (resumeFinish_lawful primitives handling data steady).weaken
              (fun _ same => same.2) (fun _ _ lawful => lawful)
              fun _ _ lawful => lawful
          · exact ensures_pure fun _ same => same.2 ▸ refl
      | some gate =>
          dsimp only
          split
          · next taskId named =>
            split
            · next taken =>
              simp only [Bool.and_eq_true, Bool.not_eq_true'] at taken
              have open_ := steady.open_ taken.2 (sent taskId named) outcome
                addressed named
              refine (handleAccepted_lawful rendering primitives handling
                steady.coherent saves open_ ?_ outcome addressed named).weaken
                (fun _ same => same.2) (fun _ _ lawful => lawful)
                fun _ _ lawful => lawful
              rintro rfl
              exact last taskId gate named outcome taken.1 taken.2
            · exact ensures_pure fun _ same => same.2 ▸ refl
          · exact ensures_throw fun _ same => same.2 ▸ refl

theorem handlePending_lawful
    {data : PyDict}
    (handling : Handling)
    (steady : Steady start)
    (sent :
      ∀ taskId, data.get "task_id" = .str taskId → taskId ∈ start.sentTasks) :
    Ensures (fun process => process = start) (handlePending handling data)
      (fun _ => Lawful start) (fun _ => Lawful start) := by
  have refl := Lawful.refl steady.regular
  refine ensures_get fun process same => ?_
  subst same
  split
  · split
    · next taskId named =>
      have same := sameStatuses_markTaskPending data steady.regular
        (steady.coherent.sentInOrder.ready taskId (sent taskId named))
      refine ensures_via (fun _ => Stands process process.run) ?_ fun _ => ?_
      · apply ensures_modify
        rintro current rfl
        exact ⟨⟨rfl, rfl⟩, same⟩
      · refine ensures_bind ((recordStaticEvent_insensitive _ _ _ _
          (stands_insensitive process process.run)).weaken
          (fun _ stands => stands) (fun _ _ stands => stands)
          fun _ _ stands => stands.lawful steady.regular fun _ => rfl) fun _ => ?_
        exact ensures_pure fun _ stands =>
          stands.lawful steady.regular fun _ => rfl
    · exact ensures_throw fun _ same => same ▸ refl
  · exact ensures_pure fun _ same => same ▸ refl

end Messages

/-! ## What ends a run from outside -/

section Ending

variable
  {start : StaticProcess}

/-- The event that records a mark by which a run may have ended. -/
theorem recordEnd_lawful
    {process : StaticProcess}
    {run : StaticRun}
    (eventType : PyStr)
    (data : PyDict)
    (timestamp : PyStr)
    (write : EventLog.Write)
    (stands : Stands start run process)
    (regular : Regular start.workflow run)
    (stays : start.run.isTerminal = true → run.status = start.run.status) :
    Ensures (fun current => current = process)
      (do
        let _ ← recordStaticEvent eventType data timestamp write
        return)
      (fun _ => Lawful start) (fun _ => Lawful start) := by
  refine ensures_bind ((recordStaticEvent_insensitive eventType data timestamp
    write (stands_insensitive start run)).weaken (fun _ same => same ▸ stands)
    (fun _ _ stands => stands)
    fun _ _ stands => stands.lawful regular stays) fun _ => ?_
  exact ensures_pure fun _ stands => stands.lawful regular stays

theorem stopWorkflow_lawful
    (handling : Handling)
    (regular : Regular start.workflow start.run) :
    Ensures (fun process => process = start) (stopWorkflow handling)
      (fun _ => Lawful start) (fun _ => Lawful start) := by
  let cancelled := start.run.markCancelled (.str "Workflow stopped")
  have stays : start.run.isTerminal = true →
      cancelled.status = start.run.status := fun terminal => by
    simp only [cancelled, StaticRun.markCancelled, terminal, if_true]
  refine ensures_via
    (fun _ process => process = { start with listening := false }) ?_ fun _ => ?_
  · apply ensures_modify
    rintro process rfl
    rfl
  refine ensures_via (fun _ => Stands start cancelled) ?_ fun _ => ?_
  · apply ensures_modify
    rintro process rfl
    exact ⟨⟨rfl, rfl⟩, SameStatuses.refl _⟩
  refine ensures_get fun process stands => ?_
  exact recordEnd_lawful _ _ _ _ stands (regular_markCancelled _ regular) stays

theorem sweepDeadline_lawful
    (rendering : Rendering)
    (now : Time)
    (handling : Handling)
    (regular : Regular start.workflow start.run) :
    Ensures (fun process => process = start)
      (sweepDeadline rendering now handling)
      (fun _ => Lawful start) (fun _ => Lawful start) := by
  refine ensures_get fun process same => ?_
  subst same
  have refl := Lawful.refl regular
  have swept := regular_markTimedOut rendering now regular
  have stays : process.run.isTerminal = true →
      (process.run.markTimedOutIfNeeded rendering now).1.status =
        process.run.status := fun terminal => by
    have on_time : process.run.deadlinePassed now = false := by
      unfold StaticRun.deadlinePassed
      split
      · simp [terminal]
      · rfl
    simp [StaticRun.markTimedOutIfNeeded, on_time]
  dsimp only
  split
  · refine ensures_via
      (fun _ => Stands process
        (process.run.markTimedOutIfNeeded rendering now).1) ?_ fun _ => ?_
    · apply ensures_modify
      rintro current rfl
      exact ⟨⟨rfl, rfl⟩, SameStatuses.refl _⟩
    · intro current stands
      exact recordEnd_lawful _ _ _ _ stands swept stays current rfl
  · exact ensures_pure fun _ same => same ▸ refl

theorem failDispatch_lawful
    (error : PyVal)
    (handling : Handling)
    (regular : Regular start.workflow start.run)
    (live : start.run.isTerminal = false) :
    Ensures (fun process => process = start) (failDispatch error handling)
      (fun _ => Lawful start) (fun _ => Lawful start) := by
  have failed := regular_markDispatchFailed error regular live
  refine ensures_via
    (fun _ => Stands start (start.run.markDispatchFailed error)) ?_ fun _ => ?_
  · apply ensures_modify
    rintro process rfl
    exact ⟨⟨rfl, rfl⟩, SameStatuses.refl _⟩
  · intro process stands
    refine recordEnd_lawful _ _ _ _ stands failed ?_ process rfl
    intro terminal
    rw [live] at terminal
    cases terminal

theorem interruptRun_lawful
    (reason pid exitcode : PyVal)
    (handling : Handling)
    (regular : Regular start.workflow start.run) :
    Ensures (fun process => process = start)
      (interruptRun reason pid exitcode handling)
      (fun _ => Lawful start) (fun _ => Lawful start) := by
  let interrupted := (start.run.markInterrupted reason).1
  have insensitive := stands_insensitive start interrupted
  have marked : Regular start.workflow interrupted :=
    regular_markInterrupted reason regular
  have stays : start.run.isTerminal = true →
      interrupted.status = start.run.status := fun terminal => by
    simp only [interrupted, StaticRun.markInterrupted, terminal, if_true]
  have lawful : ∀ process, Stands start interrupted process →
      Lawful start process := fun _ stands => stands.lawful marked stays
  refine ensures_via (fun _ => Stands start interrupted) ?_ fun going => ?_
  · rintro process rfl
    exact ⟨⟨rfl, rfl⟩, SameStatuses.refl _⟩
  split
  · refine ensures_get fun process stands => ?_
    refine ensures_bind ((appendEvent_insensitive _ _ _ insensitive).weaken
      (fun _ same => same ▸ stands) (fun _ _ stands => stands)
      fun _ => lawful) fun event => ?_
    refine ensures_bind ((appendEventOnce_insensitive event _ insensitive).weaken
      (fun _ stands => stands) (fun _ _ stands => stands) fun _ => lawful)
      fun _ => ?_
    exact (persistRun_insensitive insensitive).weaken (fun _ stands => stands)
      (fun _ => lawful) fun _ => lawful
  · exact ensures_pure lawful

/-- A run whose submission has failed has ended. -/
theorem failDispatch_left
    (error : PyVal)
    (handling : Handling) :
    Ensures (fun process => process = start) (failDispatch error handling)
      (fun _ => Left start) (fun _ => Left start) := by
  refine ensures_via (fun _ => Ended start) ?_ fun _ => ?_
  · apply ensures_modify
    rintro process rfl
    exact ⟨⟨⟨rfl, rfl, rfl, rfl⟩, fun _ terminal => terminal,
      sameSucceeded_markDispatchFailed process.run error, fun _ => rfl⟩, rfl⟩
  · refine ensures_bind ((recordStaticEvent_ended start _ _ _ _).weaken
      (fun _ ended => ended) (fun _ _ ended => ended)
      fun _ _ ended => Or.inl ended) fun _ => ?_
    exact ensures_pure fun _ ended => Or.inl ended

/-- An interrupted run has ended. -/
theorem interruptRun_left
    (reason pid exitcode : PyVal)
    (handling : Handling) :
    Ensures (fun process => process = start)
      (interruptRun reason pid exitcode handling)
      (fun _ => Left start) (fun _ => Left start) := by
  refine ensures_via (fun _ => Ended start) ?_ fun going => ?_
  · rintro process rfl
    exact ⟨⟨⟨rfl, rfl, rfl, rfl⟩, fun _ terminal => terminal,
      sameSucceeded_markInterrupted process.run reason,
      continuation?_markInterrupted process.run reason⟩,
      isTerminal_markInterrupted process.run reason⟩
  split
  · refine ensures_get fun process ended => ?_
    have still : ∀ current, SameCore process current → Left start current :=
      fun _ same => Or.inl (ended.of_sameCore same)
    have saved : Ensures (SameCore process) persistRun
        (fun _ => Left start) (fun _ => Left start) := by
      intro current same
      exact persistRun_ensures.weaken (fun _ here => here)
        (fun _ _ after => still _ (same.trans after.1.1))
        (fun _ _ raised => still _ (same.trans raised.2)) current
        (⟨SameCore.refl current, rfl⟩ : SameWith current current.saves current)
    refine ensures_via (fun _ => SameWith process process.saves) ?_ fun event => ?_
    · rintro current rfl
      have appended := StaticRun.sameProgress_appendEvent current.run
      exact ⟨(SameCore.refl current).changeRun (appended _ _ _) fun _ => rfl, rfl⟩
    refine ensures_bind ((appendEventOnce_ensures event _).weaken
      (fun _ same => same) (fun _ _ same => same.1) fun _ => still) fun _ => saved
  · exact ensures_pure fun _ ended => Or.inl ended

end Ending

/-! ## One step -/

/-- A steady process whose waiting message is one of its own. -/
structure InOrder (process : StaticProcess) : Prop
    extends Steady process where
  sound : Sound process
  reported :
    ∀ message, process.retrying = some message →
      aboutSent process message = true

/-- The failures that a step brings and that are recorded come last. -/
def FailsLast (process : Process) : Action → Prop
  | .act (.receive message handling) =>
      MessageFailsLast process.core handling message
  | .act (.retry handling) =>
      ∀ message, process.core.retrying = some message →
        MessageFailsLast process.core handling message
  | _ => True

/-- What a step of the process leaves behind. -/
structure Stepped (start after : StaticProcess) : Prop where
  lawful : Lawful start after
  reported :
    ∀ message, after.retrying = some message → aboutSent after message = true

theorem aboutSent_iff
    {process : StaticProcess}
    {message : SchedulerMessage} :
    aboutSent process message = true ↔
      ∃ taskId,
        message.data.get "task_id" = .str taskId ∧
          taskId ∈ process.sentTasks := by
  unfold aboutSent
  split
  · next taskId named => simp [named]
  · next other =>
    refine iff_of_false (by simp) ?_
    rintro ⟨taskId, named, _⟩
    exact other taskId named

/-- What has been sent stays sent. -/
theorem Lawful.aboutSent
    {start after : StaticProcess}
    {message : SchedulerMessage}
    (lawful : Lawful start after)
    (about : aboutSent start message = true) :
    aboutSent after message = true := by
  obtain ⟨taskId, named, sent⟩ := aboutSent_iff.mp about
  exact aboutSent_iff.mpr ⟨taskId, named, lawful.sentTasks taskId sent⟩

theorem conclude_stepped
    {start : StaticProcess}
    {call : CoreCall Unit}
    {message : SchedulerMessage}
    (about : aboutSent start message = true)
    (ensures :
      Ensures (fun process => process = start) call (fun _ => Lawful start)
        (fun _ => Lawful start)) :
    Stepped start (conclude message (call start)) := by
  have changed : ∀ after retrying, Lawful start after →
      Lawful start { after with retrying := retrying } :=
    fun _ _ lawful => ⟨lawful.workflow, lawful.sentTasks, lawful.known,
      lawful.regular, lawful.stays⟩
  cases outcome : call start with
  | ok value after =>
      exact ⟨changed _ _ (ensures.returned rfl outcome), fun _ waiting => by
        cases waiting⟩
  | error raised after =>
      have lawful := ensures.raised rfl outcome
      have waiting : Stepped start { after with retrying := some message } := by
        refine ⟨changed _ _ lawful, fun other same => ?_⟩
        cases same
        exact (changed after (some message) lawful).aboutSent about
      have dropped : Stepped start { after with retrying := none } :=
        ⟨changed _ _ lawful, fun _ waiting => by cases waiting⟩
      cases raised <;> first | exact waiting | exact dropped

/-- One message of a settled process. -/
theorem handle_stepped
    {process : StaticProcess}
    {message : SchedulerMessage}
    (rendering : Rendering)
    (primitives : Primitives)
    (handling : Handling)
    (steady : Steady process)
    (about : aboutSent process message = true)
    (last : MessageFailsLast process handling message)
    (addressed : message.data.get "workflow_id" = .str process.run.runId) :
    Stepped process (handle rendering primitives handling message process) := by
  let saved : StaticProcess := { process with saves := handling.saves }
  have steady' : Steady saved :=
    ⟨steady.coherent.changeSaves handling.saves, steady.regular, steady.known⟩
  have back : ∀ after, Stepped saved after → Stepped process after :=
    fun _ stepped => ⟨⟨stepped.lawful.workflow, stepped.lawful.sentTasks,
      stepped.lawful.known, stepped.lawful.regular, stepped.lawful.stays⟩,
      stepped.reported⟩
  obtain ⟨taskId, named, sent⟩ := aboutSent_iff.mp about
  have isSent : ∀ other, message.data.get "task_id" = .str other →
      other ∈ saved.sentTasks := fun other same => by
    rw [named] at same
    cases same
    exact sent
  unfold handle
  cases message with
  | pending data =>
      exact back _ (conclude_stepped about
        (handlePending_lawful handling steady' isSent))
  | attempt messageType data =>
      dsimp only
      split
      · refine back _ ⟨⟨rfl, fun _ member => member, fun _ member => Or.inl member,
          steady.regular, fun _ => rfl⟩, fun other same => ?_⟩
        cases same
        refine aboutSent_iff.mpr ⟨taskId, ?_, sent⟩
        simpa [SchedulerMessage.artifactFailure, SchedulerMessage.data,
          PyDict.get, PyDict.get?_pop_of_ne] using named
      · exact back _ (conclude_stepped about
          (handleAttempt_lawful rendering primitives handling steady' rfl isSent
            last addressed))

theorem leaving_stepped
    {process : StaticProcess}
    {handling : Handling}
    {call : CoreCall Unit}
    (ensures :
      Ensures (fun current => current = { process with saves := handling.saves })
        call (fun _ => Lawful { process with saves := handling.saves })
        (fun _ => Lawful { process with saves := handling.saves })) :
    Lawful process (leaving handling call process) := by
  have back : ∀ after, Lawful { process with saves := handling.saves } after →
      Lawful process after :=
    fun _ lawful => ⟨lawful.workflow, lawful.sentTasks, lawful.known,
      lawful.regular, lawful.stays⟩
  unfold leaving
  cases outcome : call { process with saves := handling.saves } with
  | ok _ after => exact back _ (ensures.returned rfl outcome)
  | error _ after => exact back _ (ensures.raised rfl outcome)

/-- A step in order leaves the process in order, and is lawful. -/
theorem InOrder.stepped
    {start after : StaticProcess}
    (inOrder : InOrder start)
    (sound : Sound after)
    (stepped : Stepped start after) :
    InOrder after where
  coherent := sound.coherent
  regular := stepped.lawful.workflow.symm ▸ stepped.lawful.regular
  known := fun taskId member => by
    rw [stepped.lawful.workflow]
    rcases stepped.lawful.known taskId member with before | known
    · exact inOrder.known taskId before
    · exact known
  sound := sound
  reported := stepped.reported

/-- What ends a run from outside leaves the waiting message. -/
theorem InOrder.left
    {start after : StaticProcess}
    (inOrder : InOrder start)
    (lawful : Lawful start after)
    (left : Left start after) :
    InOrder after ∧ Lawful start after := by
  have kept := left.marked.kept inOrder.coherent
  have retrying := left.marked.1.retrying
  refine ⟨inOrder.stepped ⟨kept.coherent, fun message waiting => ?_⟩
    ⟨lawful, fun message waiting => ?_⟩, lawful⟩
  · rw [retrying] at waiting
    exact (inOrder.sound.addressed message waiting).trans
      (congrArg PyVal.str kept.runId.symm)
  · rw [retrying] at waiting
    exact lawful.aboutSent (inOrder.reported message waiting)

/-- Every step whose failures come last keeps the process in order. -/
theorem step_inOrder
    {rendering : Rendering}
    {primitives : Primitives}
    {process after : Process}
    {action : Action}
    (inOrder : InOrder process.core)
    (last : FailsLast process action)
    (stepped : step? rendering primitives process action = some after) :
    InOrder after.core ∧ Lawful process.core after.core := by
  have refl := Lawful.refl inOrder.regular
  have saved : ∀ saves, Regular process.core.workflow
      ({ process.core with saves := saves } : StaticProcess).run :=
    fun _ => inOrder.regular
  cases action with
  | dispatch =>
      simp only [step?, Option.ite_none_right_eq_some, Option.some.injEq] at stepped
      obtain ⟨_, rfl⟩ := stepped
      exact ⟨inOrder, refl⟩
  | failDispatch error handling =>
      simp only [step?, Option.ite_none_right_eq_some, Option.some.injEq,
        Bool.and_eq_true, Bool.not_eq_true'] at stepped
      obtain ⟨⟨_, live⟩, rfl⟩ := stepped
      exact inOrder.left
        (leaving_stepped (failDispatch_lawful error handling (saved _) live))
        (leaving_left (failDispatch_left error handling))
  | interrupt reason pid exitcode handling =>
      simp only [step?, Option.ite_none_right_eq_some, Option.some.injEq] at stepped
      obtain ⟨_, rfl⟩ := stepped
      exact inOrder.left
        (leaving_stepped
          (interruptRun_lawful reason pid exitcode handling (saved _)))
        (leaving_left (interruptRun_left reason pid exitcode handling))
  | act action =>
      simp only [step?, Option.ite_none_right_eq_some, Option.map_eq_some_iff,
        Bool.and_eq_true] at stepped
      obtain ⟨⟨_, reportable⟩, core, moved, rfl⟩ := stepped
      have sound := (step_keeps inOrder.sound moved).1
      cases action with
      | receive message handling =>
          simp only [StaticCore.step?, Option.ite_none_right_eq_some,
            Option.some.injEq] at moved
          obtain ⟨⟨_, addressed⟩, rfl⟩ := moved
          have handled := handle_stepped rendering primitives handling
            inOrder.toSteady reportable last addressed
          exact ⟨inOrder.stepped sound handled, handled.lawful⟩
      | retry handling =>
          simp only [StaticCore.step?, Option.map_eq_some_iff] at moved
          obtain ⟨message, waiting, rfl⟩ := moved
          have handled := handle_stepped rendering primitives handling
            inOrder.toSteady (inOrder.reported message waiting)
            (last message waiting) (inOrder.sound.addressed message waiting)
          exact ⟨inOrder.stepped sound handled, handled.lawful⟩
      | stop handling =>
          simp only [StaticCore.step?, Option.some.injEq] at moved
          subst moved
          exact inOrder.left
            (leaving_stepped (stopWorkflow_lawful handling (saved _)))
            (leaving_left (stopWorkflow_ensures handling))
      | sweep now handling =>
          simp only [StaticCore.step?, Option.some.injEq] at moved
          subst moved
          exact inOrder.left
            (leaving_stepped (sweepDeadline_lawful rendering now handling (saved _)))
            (leaving_left (sweepDeadline_ensures rendering now handling))

/-! ## The first state -/

/-- A submitted run with a task is regular. -/
theorem submitted_regular
    (submission : Submission)
    (some_ : submission.workflow.tasks ≠ []) :
    Regular submission.workflow (submitted submission).run := by
  have member_cases : ∀ node ∈ (submitted submission).run.taskNodes,
      ∃ entry ∈ submission.workflow.tasks,
        node = initialNode submission.workflow entry.1 entry.2 := by
    intro node member
    obtain ⟨entry, inside, rfl⟩ := List.mem_map.mp member
    exact ⟨entry, (List.mem_insertionSort _).mp inside, rfl⟩
  have waiting : ∀ node ∈ (submitted submission).run.taskNodes,
      node.status.isActive = true ∧ node.status ≠ .succeeded := by
    intro node member
    obtain ⟨entry, _, rfl⟩ := member_cases node member
    simp only [initialNode]
    split <;> exact ⟨rfl, by simp⟩
  exact {
    ids := by
      have named : (submitted submission).run.taskNodes.map
          StaticTaskNode.taskId =
          (submission.workflow.tasks.insertionSort fun first second =>
            first.1.chars ≤ second.1.chars).map Prod.fst := by
        change (List.map _ (List.map _ _)) = _
        rw [List.map_map]
        rfl
      rw [named]
      exact (List.perm_insertionSort _ _).map _
    parents := fun node member => by
      obtain ⟨entry, _, rfl⟩ := member_cases node member
      rfl
    children := fun node member => by
      obtain ⟨entry, _, rfl⟩ := member_cases node member
      rfl
    quiet := fun impossible => by cases impossible
    succeeded := by
      refine iff_of_false (fun impossible => by cases impossible) fun all => ?_
      obtain ⟨entry, inside⟩ := List.exists_mem_of_ne_nil _ some_
      have member : initialNode submission.workflow entry.1 entry.2 ∈
          (submitted submission).run.taskNodes :=
        List.mem_map.mpr ⟨entry, (List.mem_insertionSort _).mpr inside, rfl⟩
      exact (waiting _ member).2 (all _ member)
    pending := fun _ node member => by
      obtain ⟨entry, _, rfl⟩ := member_cases node member
      have fresh : ∀ task, (submitted submission).run.hasSucceeded task = false :=
        hasSucceeded_newRun submission
      simp only [initialNode, fresh]
      cases submission.workflow.predecessors entry.1 with
      | nil => simp
      | cons first rest => simp
    going := fun _ node member => Or.inl (waiting node member).1 }

theorem submittedRun_inOrder
    (submission : Submission)
    (some_ : submission.workflow.tasks ≠ []) :
    InOrder (submittedRun submission).core where
  coherent := submitted_coherent submission
  regular := submitted_regular submission some_
  known := fun _ member => (List.mem_filter.mp member).1
  sound := submitted_sound submission
  reported := fun _ impossible => by cases impossible

/-! ## The whole life of a run -/

/--
In a run whose failures come last the status of the run and those of its tasks
agree in every state, and a status that has ended the run stays.
-/
theorem statuses_agree_if_failures_come_last
    (rendering : Rendering)
    (primitives : Primitives)
    (submission : Submission)
    (some_ : submission.workflow.tasks ≠ [])
    (actions : List Action)
    (last :
      EveryStep (step? rendering primitives) FailsLast
        (submittedRun submission) actions) :
    EveryState (step? rendering primitives)
        (fun process =>
          Shaped process.core.workflow process.core.run ∧
            Agrees process.core.workflow process.core.run)
        (submittedRun submission) actions ∧
      ∀ earlier later rest reached final,
        actions = earlier ++ (later ++ rest) →
        run? (step? rendering primitives) (submittedRun submission) earlier =
          some reached →
        run? (step? rendering primitives) reached later = some final →
        reached.core.run.isTerminal = true →
          final.core.run.status = reached.core.run.status := by
  have initially := submittedRun_inOrder submission some_
  have run_inOrder : ∀ {process reached : Process} {steps : List Action},
      InOrder process.core →
      EveryStep (step? rendering primitives) FailsLast process steps →
      run? (step? rendering primitives) process steps = some reached →
        InOrder reached.core ∧ Lawful process.core reached.core := by
    intro process reached steps inOrder met executed
    let inOrderCore : Process → Prop := fun process => InOrder process.core
    let lawfulCore : Process → Process → Prop := fun before after =>
      Lawful before.core after.core
    have same : ∀ state, inOrderCore state → lawfulCore state state :=
      fun _ inOrder => Lawful.refl inOrder.regular
    have composed : ∀ first second third, lawfulCore first second →
        lawfulCore second third → lawfulCore first third :=
      fun _ _ _ early late => early.trans late
    exact run?_related same composed
      (fun _ _ _ inOrder last stepped => step_inOrder inOrder last stepped)
      inOrder met executed
  constructor
  · intro leading rest reached split executed
    subst split
    have inOrder := (run_inOrder initially last.leading executed).1
    exact ⟨inOrder.regular.toShaped, inOrder.regular.toAgrees⟩
  · intro earlier later rest reached final split first second terminal
    subst split
    have inOrder := (run_inOrder initially last.leading first).1
    have lawful := (run_inOrder inOrder (last.trailing first).leading second).2
    exact lawful.stays terminal

/-! ### Two tasks side by side -/

/-- Two tasks without edges. -/
def parallelWorkflow : Workflow where
  tasks :=
    [("a", plainTask "def a(): pass" .cpu []),
      ("b", plainTask "def b(): pass" .cpu [])]
  edges := []
  distinct := by decide
  closed := by decide

/-- The submission of the two tasks. -/
def parallelSubmission : Submission where
  workflow := parallelWorkflow
  runId := "run"
  workflowId := "workflow"
  timeoutSeconds := .null
  deadline := none
  finalOutputRefs := none
  timestamp := "2026-01-01T00:00:00"

/-- A message about the first attempt at a task, handled without disturbance. -/
def report
    (messageType : MessageType)
    (taskId : PyStr) :
    Action :=
  .act (.receive
    (.attempt messageType
      [("workflow_id", .str "run"), ("task_id", .str taskId),
        ("attempt", .int 1), ("dispatch_id", .str "dispatch"),
        ("lease_id", .str "lease"), ("result", .dict [])])
    (plainHandling .absent))

/-- Both tasks start and the first one fails. -/
def siblingFails : List Action :=
  [.dispatch, report .startTask "a", report .startTask "b",
    report .taskException "a"]

/-- The second task fails after the first one has finished. -/
def lastFails : List Action :=
  [.dispatch, report .finishTask "a", report .taskException "b"]

/-- The statuses agree in every state of the run whose last task fails. -/
theorem last_failure_agrees :
    EveryState (step? limitedRendering limitedPrimitives)
        (fun process =>
          Shaped process.core.workflow process.core.run ∧
            Agrees process.core.workflow process.core.run)
        (submittedRun parallelSubmission) lastFails ∧
      ∀ earlier later rest reached final,
        lastFails = earlier ++ (later ++ rest) →
        run? (step? limitedRendering limitedPrimitives)
          (submittedRun parallelSubmission) earlier = some reached →
        run? (step? limitedRendering limitedPrimitives) reached later =
          some final →
        reached.core.run.isTerminal = true →
          final.core.run.status = reached.core.run.status := by
  refine statuses_agree_if_failures_come_last limitedRendering limitedPrimitives
    parallelSubmission (by decide) lastFails ?_
  have alone : (run? (step? limitedRendering limitedPrimitives)
      (submittedRun parallelSubmission) (lastFails.take 2)).all
        (fun process => process.core.run.taskNodes.all fun node =>
          node.taskId = "b" || node.status = .succeeded) = true := by
    decide +kernel
  intro dispatched first
  refine ⟨trivial, fun finished second => ⟨trivial, fun failed third => ⟨?_, trivial⟩⟩⟩
  have executed : run? (step? limitedRendering limitedPrimitives)
      (submittedRun parallelSubmission) (lastFails.take 2) = some finished := by
    simp [lastFails, first, second]
  rw [executed, Option.all_some, List.all_eq_true] at alone
  intro taskId gate named _ _ _ _ _ node member differs
  have here : taskId = "b" := (PyVal.str.inj named).symm
  have done := alone node member
  rw [Bool.or_eq_true, decide_eq_true_eq, decide_eq_true_eq] at done
  exact done.resolve_left (here ▸ differs)

/--
When a task fails while another one runs, the run has failed and the other task
runs on.
-/
theorem sibling_left_running :
    ¬ EveryState (step? limitedRendering limitedPrimitives)
      (fun process =>
        Shaped process.core.workflow process.core.run ∧
          Agrees process.core.workflow process.core.run)
      (submittedRun parallelSubmission) siblingFails := by
  have ends : (run? (step? limitedRendering limitedPrimitives)
      (submittedRun parallelSubmission) siblingFails).any
        (fun process =>
          process.core.run.isTerminal &&
            process.core.run.taskNodes.any fun node => node.status.isActive) =
      true := by
    decide +kernel
  obtain ⟨process, executed, facts⟩ := (Option.any_eq_true _ _).mp ends
  simp only [Bool.and_eq_true, List.any_eq_true] at facts
  obtain ⟨terminal, node, member, active⟩ := facts
  intro every
  obtain ⟨_, agrees⟩ := every siblingFails [] process
    (List.append_nil _).symm executed
  rw [agrees.quiet terminal node member] at active
  cases active

end Maze.Core.StaticStatus
